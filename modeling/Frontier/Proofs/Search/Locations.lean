/-
# Locations — what a disk with links says of one place under its many paths

Through links one place is discovered under many paths.  What tells places
apart is where a path really is, so a search of a disk with links is only as
good as the disk's word for that.  `Disk.Located disk S` says, for the paths of
`S`, that the disk keeps its word:

    a path has a location just when it leads somewhere            (`resolves`)
    a location is spelled by names alone, and is at itself        (`normal`, `itself`)
    what is at one location is the same under every path to it    (`same`, `below`)
    what is held is at the location of what holds it              (`entry`)
    how the path to a directory is spelled does not matter        (`spelled`)

File trees keep it, whatever their links are like, as far as the limits of the
system do not decide where a path leads (`Volume.located`).  What holds whatever
the limits are is less: `Disk.GoesDown` and `Disk.Truthful`, and that what there
is has a location if only it is not too far down (`Disk.Faithful`).

Then two ways that come to places of one key come to the same thing
(`Way.alike`): it is of one kind, it lists the same, and what it holds has the
same keys.  This also holds of places that lead nowhere, which have no location
and for a key only that of their directory with their name.
-/
import Frontier.Proofs.Search.Ways
import Mathlib

namespace Frontier

/-! ## Paths that are spelled by names alone -/

/-- An absolute path that is spelled by names alone. -/
def Path.Normal (k : Path) : Prop := ∃ names, (∀ n ∈ names, Proper n) ∧ k = Volume.pathTo names

namespace Volume

/-- A name joined to the path of a way is the path of a longer way. -/
theorem pathTo_join {names : List OsText} (hnames : ∀ n ∈ names, Path.Proper n) {n : OsText}
    (hn : Path.Proper n) : (pathTo names).join n = pathTo (names ++ [n]) := by
  have htext {m : OsText} (ms : List OsText) :
      (pathTo (ms ++ [m])).text = (ms ++ [m]).flatMap (Path.separator :: ·) := by
    cases ms <;> rfl
  rw [Path.join, if_neg hn.head?_ne]
  induction names using List.reverseRecOn with
  | nil =>
      rw [if_pos (.inr rfl)]
      simp [pathTo]
  | append_singleton init last _ =>
      have hlast : Path.Proper last := hnames last (by simp)
      obtain ⟨b, hb⟩ := Option.ne_none_iff_exists'.mp (mt List.getLast?_eq_none_iff.mp hlast.ne_nil)
      have hends : (pathTo (init ++ [last])).text.getLast? = some b := by
        rw [htext, List.flatMap_append, List.flatMap_singleton,
          List.getLast?_append_of_ne_nil _ (List.cons_ne_nil _ _),
          List.getLast?_cons_of_ne_nil hlast.ne_nil, hb]
      have hnot : ¬((pathTo (init ++ [last])).text = [] ∨
          (pathTo (init ++ [last])).text.getLast? = some Path.separator) := by
        rintro (hnil | hsep)
        · rw [hnil] at hends
          cases hends
        · rw [hends] at hsep
          cases hsep
          exact hlast.separator_notMem (List.mem_of_getLast? hb)
      have hlong : (pathTo (init ++ [last] ++ [n])).text =
          (pathTo (init ++ [last])).text ++ Path.separator :: n := by
        rw [htext, htext, List.flatMap_append, List.flatMap_singleton]
      rw [if_neg hnot, ← hlong]

theorem components_pathTo {names : List OsText} (hnames : ∀ n ∈ names, Path.Proper n) :
    (pathTo names).components = .root :: names.map .name := by
  induction names using List.reverseRecOn with
  | nil => rfl
  | append_singleton init n ih =>
      have hinit : ∀ m ∈ init, Path.Proper m := fun m hm => hnames m (by simp [hm])
      have hn : Path.Proper n := hnames n (by simp)
      rw [← pathTo_join hinit hn, Path.components_join _ hn, ih hinit, List.map_append]
      rfl

end Volume

namespace Path

variable {k l : Path}

theorem Normal.join (h : k.Normal) {n : OsText} (hn : Proper n) : (k.join n).Normal := by
  obtain ⟨names, hnames, rfl⟩ := h
  refine ⟨names ++ [n], ?_, Volume.pathTo_join hnames hn⟩
  intro m hm
  rcases List.mem_append.mp hm with hm | hm
  · exact hnames m hm
  · rw [List.mem_singleton.mp hm]
    exact hn

/-- Paths that are spelled by names alone are equal when their components are. -/
theorem Normal.eq_of_components (hk : k.Normal) (hl : l.Normal) (h : k.components = l.components) :
    k = l := by
  obtain ⟨names, hnames, rfl⟩ := hk
  obtain ⟨names', hnames', rfl⟩ := hl
  rw [Volume.components_pathTo hnames, Volume.components_pathTo hnames', List.cons_inj_right] at h
  have hinj : Function.Injective Component.name := fun _ _ h => Component.name.inj h
  rw [List.map_injective_iff.mpr hinj h]

end Path

/-! ## What disks say of locations, whatever their limits -/

/-- What a directory lists and is no link is at the location of the directory, under its name. -/
def Disk.GoesDown (disk : Disk) : Prop :=
  ∀ ⦃path location : Path⦄ ⦃listing : Search.Listing⦄ ⦃e : DirEntry⦄,
    disk.kind path = .ok .dir → disk.list path = .ok listing → .ok e ∈ listing →
      e.isLink = false → disk.canonical (path.join e.name) = .ok location →
        ∃ above, disk.canonical path = .ok above ∧ location = above.join e.name

/-- A location leads to itself, and what is there is what every path leads to that has the
location. -/
def Disk.Truthful (disk : Disk) : Prop :=
  ∀ ⦃path location : Path⦄, disk.canonical path = .ok location →
    disk.canonical location = .ok location ∧ disk.kind location = disk.kind path ∧
      disk.list location = disk.list path

/-- The disk gives a path its location, and one just when the path leads somewhere.  Where a path
leads may still be up to the limits of the system. -/
structure Disk.Faithful (disk : Disk) : Prop where
  truthful : disk.Truthful
  goesDown : disk.GoesDown
  resolves (p : Path) : (∃ k, disk.canonical p = .ok k) ↔ ∃ kind, disk.kind p = .ok kind

/-! ## Disks that know where things are -/

/-- The disk knows where the paths of a set are: what `canonical` gives is the path without links
to what a path leads to, and there is one just when the path leads somewhere.  What a path leads to,
and what is found going on from there, depends on nothing but where the path is.

So the limits of the system do not matter to the paths.  How many links it follows, and how long a
path may be, depends on the path itself and not only on where it is. -/
structure Disk.Located (disk : Disk) (S : Set Path) : Prop where
  resolves {p : Path} : p ∈ S →
    ((∃ k, disk.canonical p = .ok k) ↔ ∃ kind, disk.kind p = .ok kind)
  normal {p k : Path} : p ∈ S → disk.canonical p = .ok k → k.Normal
  itself {p k : Path} : p ∈ S → disk.canonical p = .ok k → disk.canonical k = .ok k
  same {p q k : Path} : p ∈ S → q ∈ S → disk.canonical p = .ok k → disk.canonical q = .ok k →
    disk.kind p = disk.kind q ∧ disk.list p = disk.list q
  below {p q k : Path} {listing : Search.Listing} {e : DirEntry} : p ∈ S → q ∈ S →
    disk.canonical p = .ok k → disk.canonical q = .ok k → disk.list p = .ok listing →
      .ok e ∈ listing → disk.canonical (p.join e.name) = disk.canonical (q.join e.name) ∧
        disk.kind (p.join e.name) = disk.kind (q.join e.name) ∧
          disk.isLink (p.join e.name) = disk.isLink (q.join e.name)
  entry {p k : Path} {listing : Search.Listing} {e : DirEntry} {kind : EntryKind} : p ∈ S →
    disk.canonical p = .ok k → disk.list p = .ok listing → .ok e ∈ listing → e.isLink = false →
      disk.kind (p.join e.name) = .ok kind →
        disk.canonical (p.join e.name) = .ok (k.join e.name)
  proper {p : Path} {listing : Search.Listing} {e : DirEntry} : p ∈ S →
    disk.list p = .ok listing → .ok e ∈ listing → Path.Proper e.name
  spelled {p q : Path} : p ∈ S → q ∈ S → p.components = q.components → disk.kind p = .ok .dir →
    disk.canonical q = disk.canonical p

namespace Search

variable {disk : Disk} {plan : Plan} {S : Set Path} {roots : List Path} {p q c : Place}
  {ps qs : List Place}

/-- Under two paths the disk says the same of what is there. -/
structure Alike (disk : Disk) (p q : Place) : Prop where
  kind : (disk.classify p.path).toOption = (disk.classify q.path).toOption
  list : disk.kind p.path = .ok .dir → disk.list p.path = disk.list q.path
  children {listing : Listing} {e : DirEntry} : disk.kind p.path = .ok .dir →
    disk.list p.path = .ok listing → .ok e ∈ listing → p.childKey disk e = q.childKey disk e

namespace Alike

theorem refl (disk : Disk) (p : Place) : Alike disk p p :=
  ⟨rfl, fun _ => rfl, fun _ _ _ => rfl⟩

theorem kind_eq_dir (h : Alike disk p q) (hdir : disk.kind p.path = .ok .dir) :
    disk.kind q.path = .ok .dir := by
  have hkind := h.kind
  rw [Disk.classify_eq_dir_iff.mpr hdir] at hkind
  rw [← Disk.classify_eq_dir_iff]
  cases hq : disk.classify q.path with
  | ok kind =>
      rw [hq] at hkind
      cases hkind
      rfl
  | error f =>
      rw [hq] at hkind
      cases hkind

/-- Where the one is gone down from, what the other holds has the same keys. -/
theorem exists_child (h : Alike plan.disk p q) (hdepth : q.depth < plan.maxDepth)
    (hc : c ∈ childrenOf plan p) : ∃ c' ∈ childrenOf plan q, c'.mark = c.mark := by
  obtain ⟨hdir, -, listing, e, hlist, he, rfl⟩ := mem_childrenOf_iff.mp hc
  refine ⟨q.ofEntry plan.disk e, mem_childrenOf_iff.mpr ⟨h.kind_eq_dir hdir, hdepth, listing, e,
    (h.list hdir).symm.trans hlist, he, rfl⟩, ?_⟩
  have hkey := h.children hdir hlist he
  simp only [Place.mark, Place.ofEntry, Place.child, hkey]

end Alike

end Search

namespace Disk.Located

open Search

variable {disk : Disk} {S T : Set Path} {p q : Place}

theorem mono (h : disk.Located T) (hST : S ⊆ T) : disk.Located S where
  resolves hp := h.resolves (hST hp)
  normal hp := h.normal (hST hp)
  itself hp := h.itself (hST hp)
  same hp hq := h.same (hST hp) (hST hq)
  below hp hq := h.below (hST hp) (hST hq)
  entry hp := h.entry (hST hp)
  proper hp := h.proper (hST hp)
  spelled hp hq := h.spelled (hST hp) (hST hq)

variable (h : disk.Located S)
include h

/-- What has a location is the same under every path there. -/
theorem alike (hp : p.path ∈ S) (hq : q.path ∈ S) (hpkey : disk.canonical p.path = .ok p.key)
    (hqkey : disk.canonical q.path = .ok q.key) (hkey : p.key = q.key) : Alike disk p q := by
  rw [← hkey] at hqkey
  obtain ⟨hkind, hlist⟩ := h.same hp hq hpkey hqkey
  refine ⟨?_, fun _ => hlist, ?_⟩
  · obtain ⟨kind, hok⟩ := (h.resolves hp).mp ⟨_, hpkey⟩
    rw [classify, classify, ← hkind, hok]
  · intro listing e _ hlisting he
    obtain ⟨hcanonical, -⟩ := h.below hp hq hpkey hqkey hlisting he
    rw [Place.childKey, Place.childKey, hkey, hcanonical]

/-- Two entries of one name, in one directory under two paths, are the same. -/
theorem alike_ofEntry {e e' : DirEntry} {listing : Listing} (hp : p.path ∈ S) (hq : q.path ∈ S)
    (hpkey : disk.canonical p.path = .ok p.key) (hqkey : disk.canonical q.path = .ok q.key)
    (hkey : p.key = q.key) (hlisting : disk.list p.path = .ok listing) (he : .ok e ∈ listing)
    (hname : e.name = e'.name) (hnodir : disk.kind (p.path.join e.name) ≠ .ok .dir) :
    Alike disk (p.ofEntry disk e) (q.ofEntry disk e') := by
  rw [← hkey] at hqkey
  obtain ⟨-, hkind, hlink⟩ := h.below hp hq hpkey hqkey hlisting he
  have hpath : (p.ofEntry disk e).path = p.path.join e.name := rfl
  have hpath' : (q.ofEntry disk e').path = q.path.join e.name := by rw [hname]; rfl
  refine ⟨?_, ?_, ?_⟩
  · rw [hpath, hpath', classify, classify, ← hkind, ← hlink]
    cases disk.kind (p.path.join e.name) with
    | ok kind => rfl
    | error e =>
        dsimp only
        split <;> rfl
  · exact fun hdir => absurd hdir hnodir
  · exact fun hdir => absurd hdir hnodir

end Disk.Located

/-! ## Places on ways -/

namespace Search

variable {disk : Disk} {plan : Plan} {S : Set Path} {roots : List Path} {p q c : Place}
  {ps qs : List Place} {k : Path}

/-- The paths and the keys of the places that a search can come to. -/
def sites (plan : Plan) (roots : List Path) : Set Path :=
  {x | ∃ p ps, Way plan roots (p :: ps) ∧ (x = p.path ∨ x = p.key)}

theorem Way.path_mem_sites (h : Way plan roots (p :: ps)) : p.path ∈ sites plan roots :=
  ⟨p, ps, h, .inl rfl⟩

theorem Way.key_mem_sites (h : Way plan roots (p :: ps)) : p.key ∈ sites plan roots :=
  ⟨p, ps, h, .inr rfl⟩

theorem exists_root_of_mem_keptRoots (h : p ∈ keptRoots disk roots) :
    ∃ path ∈ roots, p = Place.root disk path := by
  obtain ⟨path, hpath, rfl⟩ := List.mem_map.mp (mem_of_mem_keepFirst h)
  exact ⟨path, hpath, rfl⟩

/-- What has a location has that for a key. -/
theorem Way.key_eq_of_canonical (hdown : plan.disk.GoesDown) (h : Way plan roots (p :: ps))
    (hk : plan.disk.canonical p.path = .ok k) : p.key = k := by
  induction ps generalizing p k with
  | nil =>
      cases h with
      | root hp =>
          obtain ⟨root, -, rfl⟩ := exists_root_of_mem_keptRoots hp
          have hcanonical : plan.disk.canonical root = .ok k := hk
          rw [Place.root, hcanonical]
  | cons q qs ih =>
      cases h with
      | step hway hchild _ _ =>
          obtain ⟨hdir, -, listing, e, hlist, he, rfl⟩ := mem_childrenOf_iff.mp hchild
          have hcanonical : plan.disk.canonical (q.path.join e.name) = .ok k := hk
          cases hlink : e.isLink with
          | true =>
              simp only [Place.ofEntry, Place.child, Place.childKey, hlink, hcanonical, if_true]
          | false =>
              obtain ⟨above, habove, rfl⟩ := hdown hdir hlist he hlink hcanonical
              simp only [Place.ofEntry, Place.child, Place.childKey, hlink, Bool.false_eq_true,
                if_false, ih hway habove]

section Located

variable (hlocated : plan.disk.Located (sites plan roots))
include hlocated

/-- What leads somewhere is at its key. -/
theorem Way.canonical_eq (h : Way plan roots (p :: ps)) {kind : EntryKind}
    (hkind : plan.disk.kind p.path = .ok kind) : plan.disk.canonical p.path = .ok p.key := by
  induction ps generalizing p kind with
  | nil =>
      obtain ⟨k, hk⟩ := (hlocated.resolves h.path_mem_sites).mpr ⟨kind, hkind⟩
      cases h with
      | root hp =>
          obtain ⟨path, -, rfl⟩ := exists_root_of_mem_keptRoots hp
          have hcanonical : plan.disk.canonical path = .ok k := hk
          have hkey : (Place.root plan.disk path).key = k := by
            rw [Place.root, hcanonical]
          rw [hkey]
          exact hk
  | cons q qs ih =>
      obtain ⟨k, hk⟩ := (hlocated.resolves h.path_mem_sites).mpr ⟨kind, hkind⟩
      cases h with
      | step hway hchild _ _ =>
          obtain ⟨hdir, -, listing, e, hlist, he, rfl⟩ := mem_childrenOf_iff.mp hchild
          have hcanonical : plan.disk.canonical (q.path.join e.name) = .ok k := hk
          have hkey : (q.ofEntry plan.disk e).key = k := by
            cases hlink : e.isLink with
            | true =>
                simp only [Place.ofEntry, Place.child, Place.childKey, hlink, hcanonical, if_true]
            | false =>
                have hentry :=
                  hlocated.entry hway.path_mem_sites (ih hway hdir) hlist he hlink hkind
                rw [hcanonical, Except.ok.injEq] at hentry
                simp only [Place.ofEntry, Place.child, Place.childKey, hlink, Bool.false_eq_true,
                  if_false, hentry]
          rw [hkey]
          exact hk

theorem Way.normal (h : Way plan roots (p :: ps)) {kind : EntryKind}
    (hkind : plan.disk.kind p.path = .ok kind) : p.key.Normal :=
  hlocated.normal h.path_mem_sites (h.canonical_eq hlocated hkind)

omit hlocated in
/-- What leads nowhere has the key of its directory with its name. -/
theorem key_ofEntry_of_error {e : DirEntry}
    (hcanonical : ∀ k, plan.disk.canonical (p.path.join e.name) ≠ .ok k) :
    (p.ofEntry plan.disk e).key = p.key.join e.name := by
  simp only [Place.ofEntry, Place.child, Place.childKey]
  split
  · split
    · next k hk => exact absurd hk (hcanonical k)
    · rfl
  · rfl

/-- A child that leads nowhere, and what its directory is. -/
theorem Way.exists_entry_of_error (h : Way plan roots (c :: p :: ps)) {err : SystemError}
    (hkind : plan.disk.kind c.path = .error err) :
    ∃ listing e, plan.disk.list p.path = .ok listing ∧ .ok e ∈ listing ∧
      c = p.ofEntry plan.disk e ∧ c.key = p.key.join e.name ∧ Path.Proper e.name ∧
        p.key.Normal ∧ plan.disk.canonical p.path = .ok p.key := by
  cases h with
  | step hway hchild _ _ =>
      obtain ⟨hdir, -, listing, e, hlist, he, rfl⟩ := mem_childrenOf_iff.mp hchild
      have hcanonical (k : Path) : plan.disk.canonical (p.path.join e.name) ≠ .ok k := by
        intro hk
        have hsite : p.path.join e.name ∈ sites plan roots :=
          (Way.step hway hchild ‹_› ‹_›).path_mem_sites
        obtain ⟨kind, hok⟩ := (hlocated.resolves hsite).mp ⟨k, hk⟩
        have hnone : plan.disk.kind (p.path.join e.name) = .error err := hkind
        rw [hok] at hnone
        cases hnone
      exact ⟨listing, e, hlist, he, rfl, key_ofEntry_of_error hcanonical,
        hlocated.proper hway.path_mem_sites hlist he, hway.normal hlocated hdir,
        hway.canonical_eq hlocated hdir⟩

/-- A child whose key is a location leads there. -/
theorem Way.resolves_of_mark (h : Way plan roots (c :: p :: ps)) {k : Path} (hnormal : k.Normal)
    (hat : plan.disk.canonical k = .ok k) (hmark : c.mark = k.components) :
    ∃ kind, plan.disk.kind c.path = .ok kind := by
  cases hkind : plan.disk.kind c.path with
  | ok kind => exact ⟨kind, rfl⟩
  | error err =>
      exfalso
      obtain ⟨listing, e, hlist, he, rfl, hkey, hproper, hpnormal, hpkey⟩ :=
        h.exists_entry_of_error hlocated hkind
      have hk : k = p.key.join e.name := by
        refine hnormal.eq_of_components (hpnormal.join hproper) ?_
        rw [← hmark, Place.mark, hkey]
      have hway := h.before
      have hpitself := hlocated.itself hway.path_mem_sites hpkey
      obtain ⟨hsame, -⟩ := hlocated.below hway.path_mem_sites hway.key_mem_sites hpkey hpitself
        hlist he
      rw [← hk, hat] at hsame
      obtain ⟨kind, hok⟩ := (hlocated.resolves h.path_mem_sites).mp ⟨k, hsame⟩
      rw [hkind] at hok
      cases hok

/-- Ways that come to places of one key come to the same. -/
theorem Way.alike (hp : Way plan roots (p :: ps)) (hq : Way plan roots (q :: qs))
    (hmark : p.mark = q.mark) : Alike plan.disk p q := by
  by_cases hroot : p.mark ∈ rootMarks plan.disk roots
  · obtain ⟨hpkept, -⟩ := hp.eq_of_mark_mem hroot
    obtain ⟨hqkept, -⟩ := hq.eq_of_mark_mem (hmark ▸ hroot)
    rw [eq_of_mem_keptRoots hpkept hqkept hmark]
    exact .refl _ _
  · -- neither is a root, so each was listed by a directory
    obtain ⟨p', ps', rfl⟩ : ∃ p' ps', ps = p' :: ps' := by
      cases hp with
      | root hkept => exact absurd (List.mem_map_of_mem hkept) hroot
      | step => exact ⟨_, _, rfl⟩
    obtain ⟨q', qs', rfl⟩ : ∃ q' qs', qs = q' :: qs' := by
      cases hq with
      | root hkept => exact absurd (hmark ▸ List.mem_map_of_mem hkept) hroot
      | step => exact ⟨_, _, rfl⟩
    cases hpkind : plan.disk.kind p.path with
    | ok kind =>
        have hpkey := hp.canonical_eq hlocated hpkind
        have hpnormal := hp.normal hlocated hpkind
        obtain ⟨kind', hqkind⟩ := hq.resolves_of_mark hlocated hpnormal
          (hlocated.itself hp.path_mem_sites hpkey) hmark.symm
        exact hlocated.alike hp.path_mem_sites hq.path_mem_sites hpkey
          (hq.canonical_eq hlocated hqkind)
          (hpnormal.eq_of_components (hq.normal hlocated hqkind) hmark)
    | error err =>
        cases hqkind : plan.disk.kind q.path with
        | ok kind =>
            obtain ⟨kind', hpkind'⟩ := hp.resolves_of_mark hlocated (hq.normal hlocated hqkind)
              (hlocated.itself hq.path_mem_sites (hq.canonical_eq hlocated hqkind)) hmark
            rw [hpkind] at hpkind'
            cases hpkind'
        | error err' =>
            obtain ⟨listing, e, hlist, he, rfl, hpkey, hproper, hpnormal, hpat⟩ :=
              hp.exists_entry_of_error hlocated hpkind
            obtain ⟨listing', e', -, -, rfl, hqkey, hproper', hqnormal, hqat⟩ :=
              hq.exists_entry_of_error hlocated hqkind
            rw [Place.mark, Place.mark, hpkey, hqkey, Path.components_join _ hproper,
              Path.components_join _ hproper'] at hmark
            obtain ⟨hdirs, hnames⟩ := List.append_inj' hmark rfl
            have hname : e.name = e'.name := by simpa using hnames
            refine hlocated.alike_ofEntry hp.before.path_mem_sites hq.before.path_mem_sites hpat
              hqat (hpnormal.eq_of_components hqnormal hdirs) hlist he hname ?_
            intro hdir
            cases hdir.symm.trans hpkind

end Located

end Search

/-! ## What can be read -/

/-- What can be read of a directory. -/
def Disk.entries (disk : Disk) (path : Path) : List DirEntry :=
  match disk.list path with
  | .ok listing => listing.filterMap Except.toOption
  | .error _ => []

theorem Disk.mem_entries {disk : Disk} {path : Path} {listing : Search.Listing} {e : DirEntry}
    (hlist : disk.list path = .ok listing) : e ∈ disk.entries path ↔ .ok e ∈ listing := by
  rw [entries, hlist]
  dsimp only
  rw [List.mem_filterMap]
  constructor
  · rintro ⟨_ | e', hmem, heq⟩
    · cases heq
    · cases heq
      exact hmem
  · intro hmem
    exact ⟨_, hmem, rfl⟩

theorem Disk.exists_listing_of_mem_entries {disk : Disk} {path : Path} {e : DirEntry}
    (he : e ∈ disk.entries path) : ∃ listing, disk.list path = .ok listing ∧ .ok e ∈ listing := by
  cases hlist : disk.list path with
  | ok listing => exact ⟨listing, rfl, (Disk.mem_entries hlist).mp he⟩
  | error err =>
      rw [entries, hlist] at he
      cases he

namespace Search

variable {plan : Plan} {roots : List Path} {places : List Place} {p : Place} {ps : List Place}

/-- Places that hold the roots and what directories among them hold, but for the roots again, hold
the place at the end of every way. -/
theorem Way.mem_of_closed (hroots : ∀ p ∈ keptRoots plan.disk roots, p ∈ places)
    (hclosed : ∀ p ∈ places, ∀ e ∈ plan.disk.entries p.path,
      p.ofEntry plan.disk e ∈ places ∨
        (p.ofEntry plan.disk e).mark ∈ rootMarks plan.disk roots)
    (h : Way plan roots (p :: ps)) : p ∈ places := by
  induction ps generalizing p with
  | nil =>
      cases h with
      | root hp => exact hroots p hp
  | cons q qs ih =>
      have hq := ih h.before
      cases h with
      | step _ hchild hroot _ =>
          obtain ⟨-, -, listing, e, hlist, he, rfl⟩ := mem_childrenOf_iff.mp hchild
          exact (hclosed q hq e ((Disk.mem_entries hlist).mpr he)).resolve_right hroot

end Search

end Frontier
