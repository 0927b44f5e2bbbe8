/-
# The number of jobs — no more of them than there are entries on the disk

Through a cycle of links a search may come to one directory on ever longer
ways, so neither paths nor depths tell that it ends.  Keys do.  A job is
accepted for a place that was claimed, and no two claims have one key.  Where
the disk can tell of each directory where it is (`Traced`), what is claimed
after the roots is an entry of the disk, each entry under one claim:

    a place is held by what is at the key of the one before        (`Way.exists_held`)
    claims hold no more entries than the disk does                 (`encard_heldUnder_le`)
    no two jobs have one key, and there are no more of them than
    keys of roots and entries on the disk                          (`jobs_bounded`)

This holds at every moment of every run, whether or not the search is cut short
and however deep it may go.  A volume has as many entries as there are ways
down from its top (`Volume.Tidy.heldEntries_le`).

Where the disk cannot tell where a directory is, a link back up to it has a new
key each time round, and only the limits of the system stop the search
(`jobs_exceed_entries`).
-/
import Frontier.Proofs.Search.Claims
import Frontier.Proofs.Search.Exhaustive
import Mathlib

namespace Frontier

/-! ## The entries of a disk -/

/-- The entries of all directories, each with the location of the directory that holds it. -/
def Disk.heldEntries (disk : Disk) : Set (Path × DirEntry) :=
  {x | disk.canonical x.1 = .ok x.1 ∧ disk.kind x.1 = .ok .dir ∧ x.2 ∈ disk.entries x.1}

/-- The entry at the end of a way down from the top of a volume. -/
def Volume.entryAt (v : Volume) (way : List OsText) : Path × DirEntry :=
  (pathTo way.dropLast, ⟨way.getLastD [], (v.top.at? way).any isLinkNode⟩)

/-- An entry of a volume is at the end of a way. -/
theorem Volume.Tidy.exists_way {v : Volume} (h : v.Tidy) {x : Path × DirEntry}
    (hx : x ∈ v.disk.heldEntries) : ∃ way ∈ v.top.ways, v.entryAt way = x := by
  obtain ⟨k, e⟩ := x
  obtain ⟨hat, hdir, he⟩ := hx
  dsimp only at hat hdir he
  obtain ⟨listing, hlist, hlisted⟩ := Disk.exists_listing_of_mem_entries he
  obtain ⟨l, entries, n, hl, hnode, hfind, hlink, -⟩ := h.exists_of_list hlist hlisted
  obtain ⟨l', hl', -, rfl⟩ := canonical_eq_ok_iff.mp hat
  obtain rfl : l = l' := Except.ok.inj (hl.symm.trans hl')
  have hbelow : v.top.at? (l ++ [e.name]) = some n := by
    rw [Node.at?_concat hnode, hfind]
  exact ⟨l ++ [e.name], Node.mem_ways_of_at? (by simp) hbelow, by simp [entryAt, hbelow, hlink]⟩

/-- A volume has no more entries than there are ways down from its top. -/
theorem Volume.Tidy.heldEntries_le {v : Volume} (h : v.Tidy) :
    v.disk.heldEntries.encard ≤ v.top.ways.length := by
  classical
  have hsubset : v.disk.heldEntries ⊆ ↑(v.top.ways.map v.entryAt).toFinset := by
    intro x hx
    rw [Finset.mem_coe, List.mem_toFinset, List.mem_map]
    exact h.exists_way hx
  calc v.disk.heldEntries.encard ≤ ((v.top.ways.map v.entryAt).toFinset : Set _).encard :=
        Set.encard_le_encard hsubset
    _ = ((v.top.ways.map v.entryAt).toFinset.card : ℕ∞) := Set.encard_coe_eq_coe_finsetCard _
    _ ≤ v.top.ways.length := by
        rw [Nat.cast_le, ← List.length_map v.entryAt]
        exact List.toFinset_card_le _

namespace Search

open Dispatcher
open Dispatcher.Machine (Runs History accepted)

variable {plan : Plan} {disk : Disk} {roots : List Path} {p : Place} {ps : List Place}

/-! ## What is claimed is a root or an entry -/

/-- The disk can tell of each directory that a search comes to where it is. -/
def Traced (plan : Plan) (roots : List Path) : Prop :=
  ∀ ⦃p : Place⦄ ⦃ps : List Place⦄, Way plan roots (p :: ps) → plan.disk.kind p.path = .ok .dir →
    ∃ k, plan.disk.canonical p.path = .ok k

/-- The keys of roots. -/
def marksOfRoots (disk : Disk) (roots : List Path) : List (List Path.Component) :=
  roots.map fun path => (Place.root disk path).mark

/-- The entries of what is at the keys of claims, each with the claim. -/
def heldUnder (disk : Disk) (claims : List Place) : Set (Place × DirEntry) :=
  {x | x.1 ∈ claims ∧ (x.1.key, x.2) ∈ disk.heldEntries}

/-- A place that is not a root is an entry of what is at the key of the place before. -/
theorem Way.exists_held (htruthful : plan.disk.Truthful) (hdown : plan.disk.GoesDown)
    (htraced : Traced plan roots) (h : Way plan roots (p :: q :: ps)) :
    ∃ e, (q.key, e) ∈ plan.disk.heldEntries ∧ p = q.ofEntry plan.disk e := by
  cases h with
  | step hway hchild _ _ =>
      obtain ⟨hdir, -, listing, e, hlist, he, rfl⟩ := mem_childrenOf_iff.mp hchild
      obtain ⟨k, hk⟩ := htraced hway hdir
      obtain rfl := hway.key_eq_of_canonical hdown hk
      obtain ⟨hitself, hkind, hsame⟩ := htruthful hk
      refine ⟨e, ⟨hitself, hkind.trans hdir, ?_⟩, rfl⟩
      exact (Disk.mem_entries (hsame.trans hlist)).mpr he

/-- As no two claims have one key, they hold no more entries than the disk does. -/
theorem encard_heldUnder_le (hnodup : (ps.map Place.mark).Nodup) :
    (heldUnder disk ps).encard ≤ disk.heldEntries.encard := by
  refine Set.encard_le_encard_of_injOn (f := fun x => (x.1.key, x.2)) (fun x hx => hx.2) ?_
  rintro ⟨p, e⟩ hp ⟨q, e'⟩ hq heq
  obtain ⟨hkey, rfl⟩ := Prod.mk.inj heq
  obtain rfl : p = q :=
    List.inj_on_of_nodup_map hnodup hp.1 hq.1 (congrArg Path.components hkey)
  rfl

/-- Claims are no more than there are keys of roots and entries. -/
theorem length_le_of_ways (htruthful : plan.disk.Truthful) (hdown : plan.disk.GoesDown)
    (htraced : Traced plan roots) (hnodup : (ps.map Place.mark).Nodup)
    (hways : ∀ p ∈ ps, ∃ before, Way plan roots (p :: before) ∧ ∀ q ∈ before, q ∈ ps) :
    (ps.length : ℕ∞) ≤ (marksOfRoots plan.disk roots).dedup.length +
      plan.disk.heldEntries.encard := by
  classical
  let markOf (x : Place × DirEntry) : List Path.Component := (x.1.ofEntry plan.disk x.2).mark
  have hmem : ∀ mark ∈ ps.map Place.mark,
      mark ∈ (↑(marksOfRoots plan.disk roots).toFinset ∪ markOf '' heldUnder plan.disk ps :
        Set (List Path.Component)) := by
    intro mark hmark
    obtain ⟨p, hp, rfl⟩ := List.mem_map.mp hmark
    obtain ⟨before, hway, hclaimed⟩ := hways p hp
    cases before with
    | nil =>
        cases hway with
        | root hkept =>
            obtain ⟨path, hpath, rfl⟩ := exists_root_of_mem_keptRoots hkept
            exact .inl (List.mem_toFinset.mpr (List.mem_map_of_mem hpath))
    | cons q qs =>
        obtain ⟨e, hheld, rfl⟩ := hway.exists_held htruthful hdown htraced
        exact .inr ⟨(q, e), ⟨hclaimed q List.mem_cons_self, hheld⟩, rfl⟩
  calc (ps.length : ℕ∞) = (ps.map Place.mark).length := by rw [List.length_map]
    _ ≤ _ := length_le_encard hnodup hmem
    _ ≤ _ := Set.encard_union_le _ _
    _ ≤ _ := by
        rw [Set.encard_coe_eq_coe_finsetCard, List.card_toFinset]
        gcongr
        exact (Set.encard_image_le _ _).trans (encard_heldUnder_le hnodup)

/-! ## Jobs -/

section Runs

variable {search : Search} {bystanders : List (List Bool)} {reliable : Bool}
  {m : Machine Place Examination Record} {history : History Place}

theorem disk_of_plan (hplan : search.plan disk = .ok plan) : plan.disk = disk := by
  obtain ⟨-, matcher, -, rfl⟩ := exists_matcher_of_plan hplan
  rfl

/-- No two jobs of a search are accepted with one key.  If the disk can tell of each directory where
it is, no more jobs are accepted than there are keys of roots and entries on the disk. -/
theorem jobs_bounded (hplan : search.plan disk = .ok plan)
    (run : Runs (workload plan) reliable (search.machine disk bystanders) history m) :
    ((accepted history).map (·.job.mark)).Nodup ∧
      (disk.Truthful → disk.GoesDown → Traced plan search.roots →
        ((accepted history).length : ℕ∞) ≤
          (marksOfRoots disk search.roots).dedup.length + disk.heldEntries.encard) := by
  obtain rfl := disk_of_plan hplan
  obtain ⟨claims, hregister⟩ := register_of_runs rfl run
  refine ⟨by simpa [Function.comp_def] using hregister.accepted_nodup, ?_⟩
  intro htruthful hdown htraced
  calc ((accepted history).length : ℕ∞) = ((accepted history).map Admitted.job).length := by
        rw [List.length_map]
    _ ≤ claims.length := by exact_mod_cast hregister.accepted_subperm.length_le
    _ ≤ _ := length_le_of_ways htruthful hdown htraced hregister.nodup hregister.ways

end Runs

/-- Of the one root and the six entries of `braided`, two of which are links to what is met anyhow,
four keys become jobs. -/
theorem jobs_bounded_braided :
    ∃ history m, braidedSearch.plan braided.disk = .ok braidedPlan ∧
      Runs (workload braidedPlan) true (braidedSearch.machine braided.disk []) history m ∧
      (accepted history).length = 4 ∧ ((accepted history).map (·.job.mark)).Nodup ∧
      ((accepted history).length : ℕ∞) ≤ 1 + 6 := by
  have hrun := Machine.runs_settle (workload braidedPlan) 400
    (braidedSearch.machine braided.disk [])
  obtain ⟨hnodup, hbound⟩ :=
    jobs_bounded (show braidedSearch.plan braided.disk = .ok braidedPlan from rfl) hrun
  have htraced : Traced braidedPlan braidedSearch.roots := by
    intro p ps hway hdir
    exact (braided_located.resolves (braided_sites rfl hway.path_mem_sites)).mpr ⟨_, hdir⟩
  refine ⟨_, _, rfl, hrun, rfl, hnodup, ?_⟩
  have hentries : braided.disk.heldEntries.encard ≤ 6 := braided_tidy.heldEntries_le
  have hroots : (marksOfRoots braided.disk braidedSearch.roots).dedup.length = 1 := rfl
  calc ((accepted _).length : ℕ∞) ≤ _ :=
        hbound braided_tidy.truthful braided_tidy.goesDown htraced
    _ = 1 + braided.disk.heldEntries.encard := by rw [hroots, Nat.cast_one]
    _ ≤ 1 + 6 := by gcongr

/-- A directory `r` with a link `a` to itself and a file `f`. -/
def looped : Volume where
  top := .dir [([114], .dir [([97], .link [46]), ([102], .file)])]
  here := []

theorem looped_tidy : looped.Tidy where
  top := by
    refine .dir_singleton (by decide) (.dir (by decide) (by decide) ?_)
    simp only [List.forall_mem_cons]
    exact ⟨.link, .file, nofun⟩
  here := ⟨_, rfl⟩

/-- A disk as it is seen from below a directory that cannot be searched.  Paths from the current
directory lead on, and where they really are cannot be found out. -/
def shutIn (disk : Disk) : Disk := { disk with canonical := fun _ => .error (.numbered 13) }

/-- From the one root and the three entries of `looped` there are nineteen jobs after a while, and
still more to come: `r`, `r/a`, `r/a/a` and so on have keys of their own if none of them has a
location. -/
theorem jobs_exceed_entries :
    ∃ history m, (lone none).plan (shutIn looped.disk) =
        .ok (lonePlan none (shutIn looped.disk)) ∧
      Runs (workload (lonePlan none (shutIn looped.disk))) true
        ((lone none).machine (shutIn looped.disk) []) history m ∧
      (shutIn looped.disk).Truthful ∧ (shutIn looped.disk).GoesDown ∧
      (marksOfRoots (shutIn looped.disk) (lone none).roots).dedup.length +
        looped.disk.heldEntries.encard < (accepted history).length := by
  refine ⟨_, _, rfl, runs_loneRun none _, nofun, nofun, ?_⟩
  have hentries : looped.disk.heldEntries.encard ≤ 3 := looped_tidy.heldEntries_le
  have hroots : (marksOfRoots (shutIn looped.disk) (lone none).roots).dedup.length = 1 := rfl
  have hjobs : (accepted (loneRun none (shutIn looped.disk)).2).length = 19 := by decide +kernel
  rw [hroots, hjobs]
  calc ((1 : Nat) : ℕ∞) + looped.disk.heldEntries.encard ≤ 1 + 3 := by
        rw [Nat.cast_one]
        gcongr
    _ < (19 : Nat) := by decide

end Search

end Frontier
