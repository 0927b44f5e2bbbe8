/-
# Keys — what a search of a disk with links schedules

Through links a search may come to one directory on different ways, and which of
them it takes is up to the scheduler.  What it schedules is not: the keys are
those of the least set that has the keys of the roots and, for a directory, the
keys of what it holds.  `Keyed` is this set.

    no way leads out of it                              (`Way.keyed`)
    a search that goes on leaves nothing of it out      (`Covered.keyed_mem`)

Each key is met once, so there are as many jobs as keys; and what is counted is
the same whoever came first, because two places of one key are alike.
-/
import Frontier.Proofs.Search.Ledger
import Frontier.Proofs.Search.Locations
import Mathlib

namespace Frontier.Search

variable {plan : Plan} {disk : Disk} {roots : List Path} {p q : Place}
  {ps qs : List Place} {k : Path}

/-! ## The keys -/

/-- The keys of the roots, and of what is held by a directory whose key is one of them. -/
inductive Keyed (disk : Disk) (roots : List Path) : Path → Prop
  | root {path : Path} : path ∈ roots → Keyed disk roots (Place.root disk path).key
  | held {k : Path} {listing : Listing} {e : DirEntry} : Keyed disk roots k →
      disk.kind k = .ok .dir → disk.list k = .ok listing → .ok e ∈ listing →
        Keyed disk roots (Place.childKey disk ⟨k, k, 0⟩ e)

/-- Keys are told apart by their components. -/
def keys (disk : Disk) (roots : List Path) : Set (List Path.Component) :=
  Path.components '' {k | Keyed disk roots k}

/-- The roots, the keys, and what directories hold under their keys. -/
def keySites (disk : Disk) (roots : List Path) : Set Path :=
  {x | x ∈ roots ∨ Keyed disk roots x ∨ ∃ k listing e, Keyed disk roots k ∧
    disk.list k = .ok listing ∧ .ok e ∈ listing ∧ x = k.join e.name}

/-- There is no smaller set of this kind. -/
theorem Keyed.mem_of_closed {K : Set Path} (hroots : ∀ path ∈ roots, (Place.root disk path).key ∈ K)
    (hclosed : ∀ k ∈ K, ∀ e ∈ disk.entries k, Place.childKey disk ⟨k, k, 0⟩ e ∈ K)
    (hk : Keyed disk roots k) : k ∈ K := by
  induction hk with
  | root hpath => exact hroots _ hpath
  | held _ _ hlist he ih => exact hclosed _ ih _ ((Disk.mem_entries hlist).mpr he)

theorem Keyed.start {path : Path} (hpath : path ∈ roots) (hkey : (Place.root disk path).key = k) :
    Keyed disk roots k := by
  rw [← hkey]
  exact .root hpath

/-- The key of what a directory holds whose key is one of them is one too. -/
theorem Keyed.child {k' : Path} {e : DirEntry} (hk : Keyed disk roots k)
    (hdir : disk.kind k = .ok .dir) (he : e ∈ disk.entries k)
    (hkey : Place.childKey disk ⟨k, k, 0⟩ e = k') : Keyed disk roots k' := by
  obtain ⟨listing, hlist, hlisted⟩ := Disk.exists_listing_of_mem_entries he
  rw [← hkey]
  exact .held hk hdir hlist hlisted

section KeySites

variable (hlocated : disk.Located (keySites disk roots))
include hlocated

/-- A key that leads somewhere is at itself. -/
theorem Keyed.canonical_eq (hk : Keyed disk roots k) {kind : EntryKind}
    (hkind : disk.kind k = .ok kind) : disk.canonical k = .ok k := by
  induction hk generalizing kind with
  | @root path hpath =>
      rw [Place.root] at hkind ⊢
      cases hcanonical : disk.canonical path with
      | ok k' => exact hlocated.itself (.inl hpath) hcanonical
      | error err =>
          rw [hcanonical] at hkind
          obtain ⟨k', hk'⟩ := (hlocated.resolves (.inl hpath)).mpr ⟨kind, hkind⟩
          cases hcanonical.symm.trans hk'
  | @held k listing e hk hdir hlist he ih =>
      have hsite : k ∈ keySites disk roots := .inr (.inl hk)
      have hjoined : k.join e.name ∈ keySites disk roots :=
        .inr (.inr ⟨k, listing, e, hk, hlist, he, rfl⟩)
      rw [Place.childKey] at hkind ⊢
      cases hlink : e.isLink with
      | false =>
          simp only [hlink, Bool.false_eq_true, if_false] at hkind ⊢
          exact hlocated.entry hsite (ih hdir) hlist he hlink hkind
      | true =>
          simp only [hlink, if_true] at hkind ⊢
          cases hcanonical : disk.canonical (k.join e.name) with
          | ok k' => exact hlocated.itself hjoined hcanonical
          | error err =>
              rw [hcanonical] at hkind
              obtain ⟨k', hk'⟩ := (hlocated.resolves hjoined).mpr ⟨kind, hkind⟩
              cases hcanonical.symm.trans hk'

end KeySites

/-! ## No way leads out -/

/-- What a way comes to next is listed by a directory at the key where it was. -/
theorem Way.exists_entry (hlocated : plan.disk.Located (sites plan roots))
    (h : Way plan roots (p :: q :: qs)) :
    plan.disk.canonical q.key = .ok q.key ∧ plan.disk.kind q.key = .ok .dir ∧
      ∃ listing e, plan.disk.list q.key = .ok listing ∧ .ok e ∈ listing ∧
        p.key = Place.childKey plan.disk ⟨q.key, q.key, 0⟩ e := by
  cases h with
  | step hway hchild _ _ =>
      obtain ⟨hdir, -, listing, e, hlist, he, rfl⟩ := mem_childrenOf_iff.mp hchild
      have hqkey := hway.canonical_eq hlocated hdir
      have hitself := hlocated.itself hway.path_mem_sites hqkey
      have halike : Alike plan.disk q ⟨q.key, q.key, 0⟩ :=
        hlocated.alike hway.path_mem_sites hway.key_mem_sites hqkey hitself rfl
      exact ⟨hitself, halike.kind_eq_dir hdir, listing, e, (halike.list hdir).symm.trans hlist, he,
        halike.children hdir hlist he⟩

/-- A place on a way has one of the keys. -/
theorem Way.keyed (hlocated : plan.disk.Located (sites plan roots))
    (h : Way plan roots (p :: ps)) : Keyed plan.disk roots p.key := by
  induction ps generalizing p with
  | nil =>
      cases h with
      | root hp =>
          obtain ⟨path, hpath, rfl⟩ := exists_root_of_mem_keptRoots hp
          exact .root hpath
  | cons q qs ih =>
      obtain ⟨-, hdir, listing, e, hlist, he, hkey⟩ := h.exists_entry hlocated
      rw [hkey]
      exact .held (ih h.before) hdir hlist he

theorem Way.marks_subset (hlocated : plan.disk.Located (sites plan roots))
    (h : Way plan roots ps) : ∀ mark ∈ ps.map Place.mark, mark ∈ keys plan.disk roots := by
  induction h with
  | @root p hp =>
      intro mark hmark
      rw [List.map_singleton, List.mem_singleton] at hmark
      exact ⟨p.key, (Way.root hp).keyed hlocated, hmark.symm⟩
  | @step p c ps hway hchild hroot hnew ih =>
      intro mark hmark
      rw [List.map_cons, List.mem_cons] at hmark
      rcases hmark with rfl | hmark
      · exact ⟨c.key, (Way.step hway hchild hroot hnew).keyed hlocated, rfl⟩
      · exact ih mark hmark

/-- What is in a list without duplicates is no more than the set that it is from. -/
theorem length_le_encard {α : Type} {l : List α} {K : Set α} (hnodup : l.Nodup)
    (hsubset : ∀ x ∈ l, x ∈ K) : (l.length : ℕ∞) ≤ K.encard := by
  classical
  calc (l.length : ℕ∞) = (l.toFinset : Set α).encard := by
        rw [Set.encard_coe_eq_coe_finsetCard, List.toFinset_card_of_nodup hnodup]
    _ ≤ K.encard := Set.encard_le_encard fun x hx => hsubset x (by simpa using hx)

/-- There are not so many keys that a search without a limit could go too deep. -/
theorem Way.depth_lt (hlocated : plan.disk.Located (sites plan roots))
    (hfinite : (keys plan.disk roots).encard ≤ plan.maxDepth) (h : Way plan roots (p :: ps)) :
    p.depth < plan.maxDepth := by
  have hlength := (length_le_encard h.marks_nodup (h.marks_subset hlocated)).trans hfinite
  rw [List.length_map, List.length_cons, Nat.cast_le] at hlength
  rw [h.depth_eq]
  omega

/-! ## Nothing is left out -/

theorem exists_mem_keepFirst {ps : List Place} (h : p ∈ ps) :
    ∃ q ∈ keepFirst ps, q.mark = p.mark := by
  induction ps with
  | nil => cases h
  | cons r rest ih =>
      rw [keepFirst]
      by_cases hmark : p.mark = r.mark
      · exact ⟨r, List.mem_cons_self, hmark.symm⟩
      · rcases List.mem_cons.mp h with rfl | h
        · exact absurd rfl hmark
        · obtain ⟨q, hq, heq⟩ := ih h
          exact ⟨q, List.mem_cons_of_mem _ (List.mem_filter.mpr ⟨hq, by simpa [heq] using hmark⟩),
            heq⟩

section Union

variable (hlocated : plan.disk.Located (sites plan roots ∪ keySites plan.disk roots))
include hlocated

/-- Where the key of a directory was met, there is this directory. -/
theorem Way.alike_key (h : Way plan roots (p :: ps)) (hk : Keyed plan.disk roots k)
    (hdir : plan.disk.kind k = .ok .dir) (hmark : p.mark = k.components) :
    Alike plan.disk ⟨k, k, 0⟩ p := by
  have hways := hlocated.mono Set.subset_union_left
  have hsite : k ∈ sites plan roots ∪ keySites plan.disk roots := .inr (.inr (.inl hk))
  have hat := hk.canonical_eq (hlocated.mono Set.subset_union_right) hdir
  have hnormal := hlocated.normal hsite hat
  have hresolves : ∃ kind, plan.disk.kind p.path = .ok kind := by
    cases ps with
    | cons => exact h.resolves_of_mark hways hnormal hat hmark
    | nil =>
        refine (hways.resolves h.path_mem_sites).mp ?_
        cases h with
        | root hp =>
            obtain ⟨path, hpath, rfl⟩ := exists_root_of_mem_keptRoots hp
            cases hcanonical : plan.disk.canonical path with
            | ok k' => exact ⟨k', hcanonical⟩
            | error err =>
                have hkey : (Place.root plan.disk path).key = path := by
                  rw [Place.root, hcanonical]
                rw [Place.mark, hkey] at hmark
                exact ⟨k, (hlocated.spelled hsite (.inr (.inl hpath)) hmark.symm hdir).trans hat⟩
  obtain ⟨kind, hkind⟩ := hresolves
  exact hlocated.alike hsite (.inl h.path_mem_sites) hat (h.canonical_eq hways hkind)
    (hnormal.eq_of_components (h.normal hways hkind) hmark.symm)

/-- What covers the roots has each of the keys. -/
theorem Covered.keyed_mem (h : Covered plan roots ps)
    (hdepth : ∀ p ∈ ps, p.depth < plan.maxDepth) (hk : Keyed plan.disk roots k) :
    k.components ∈ ps.map Place.mark := by
  induction hk with
  | @root path hpath =>
      obtain ⟨q, hq, hmark⟩ := exists_mem_keepFirst (List.mem_map_of_mem hpath)
      exact List.mem_map.mpr ⟨q, h.roots_subset q hq, hmark⟩
  | @held k listing e hk hdir hlist he ih =>
      obtain ⟨p, hp, hmark⟩ := List.mem_map.mp ih
      obtain ⟨before, hway, -⟩ := h.ways p hp
      have hpos : 0 < plan.maxDepth := Nat.zero_lt_of_lt (hdepth p hp)
      have hchild : (⟨k, k, 0⟩ : Place).ofEntry plan.disk e ∈ childrenOf plan ⟨k, k, 0⟩ :=
        mem_childrenOf_iff.mpr ⟨hdir, hpos, listing, e, hlist, he, rfl⟩
      obtain ⟨c, hc, heq⟩ :=
        (hway.alike_key hlocated hk hdir hmark).exists_child (hdepth p hp) hchild
      have hmem := h.closed p hp c hc
      rw [heq] at hmem
      exact hmem

/-- A search without a limit covers just the keys. -/
theorem Covered.mem_marks_iff (h : Covered plan roots ps)
    (hfinite : (keys plan.disk roots).encard ≤ plan.maxDepth) (mark : List Path.Component) :
    mark ∈ ps.map Place.mark ↔ mark ∈ keys plan.disk roots := by
  have hways := hlocated.mono Set.subset_union_left
  constructor
  · intro hmark
    obtain ⟨p, hp, rfl⟩ := List.mem_map.mp hmark
    obtain ⟨before, hway, -⟩ := h.ways p hp
    exact ⟨p.key, hway.keyed hways, rfl⟩
  · rintro ⟨k, hk, rfl⟩
    refine h.keyed_mem hlocated ?_ hk
    intro p hp
    obtain ⟨before, hway, -⟩ := h.ways p hp
    exact hway.depth_lt hways hfinite

end Union

end Frontier.Search
