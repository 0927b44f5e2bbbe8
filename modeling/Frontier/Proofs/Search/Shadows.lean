/-
# Shadows — when a link hides a real place

A place is examined under the path on which its key was met first.  Going down
from the root by names alone there is one path to a place; but a link may lead
to it, or to a directory on the way, and be met before.  Then the place is
reported under the path of the link, and not under its own
(`link_hides_match`).

Nothing else hides a place.  If the keys on the way down are met under no other
paths, then the place is examined under its own (`Covered.exists_of_chain`), and
if it matches it is among the paths that the search collects.
-/
import Frontier.Proofs.Search.Locations
import Frontier.Proofs.Search.Ledger
import Mathlib

namespace Frontier.Search

open Dispatcher
open Dispatcher.Machine (Runs History)

variable {plan : Plan} {disk : Disk} {root : Path} {p q c : Place} {ps qs : List Place}

/-! ## The way down without links -/

/-- The places on the way down from a root through directories and no links, the last one first. -/
inductive Chain (disk : Disk) (root : Path) : List Place → Prop
  | top : Chain disk root [Place.root disk root]
  | down {p : Place} {ps : List Place} {listing : Listing} {e : DirEntry} :
      Chain disk root (p :: ps) → disk.kind p.path = .ok .dir → disk.list p.path = .ok listing →
        .ok e ∈ listing → e.isLink = false → Chain disk root (p.ofEntry disk e :: p :: ps)

/-- The place is met under its own path only. -/
def Unshadowed (plan : Plan) (roots : List Path) (p : Place) : Prop :=
  ∀ ⦃q : Place⦄ ⦃qs : List Place⦄, Way plan roots (q :: qs) → q.mark = p.mark → q.path = p.path

/-- What the directories that a search comes to hold has names. -/
def Named (plan : Plan) (roots : List Path) : Prop :=
  ∀ path ∈ sites plan roots, ∀ e ∈ plan.disk.entries path, Path.Proper e.name

theorem keptRoots_singleton (disk : Disk) (root : Path) :
    keptRoots disk [root] = [Place.root disk root] := rfl

/-- Each level down is one component of the path. -/
theorem Way.length_components (hnamed : Named plan [root]) (h : Way plan [root] (p :: ps)) :
    p.path.components.length = root.components.length + p.depth := by
  induction ps generalizing p with
  | nil =>
      cases h with
      | root hp =>
          rw [keptRoots_singleton, List.mem_singleton] at hp
          rw [hp]
          rfl
  | cons q qs ih =>
      have hlength := ih h.before
      have hsite := h.before.path_mem_sites
      cases h with
      | step _ hchild _ _ =>
          obtain ⟨-, -, listing, e, hlist, he, rfl⟩ := mem_childrenOf_iff.mp hchild
          have hproper := hnamed q.path hsite e ((Disk.mem_entries hlist).mpr he)
          have hpath : (q.ofEntry plan.disk e).path = q.path.join e.name := rfl
          have hdepth : (q.ofEntry plan.disk e).depth = q.depth + 1 := rfl
          rw [hpath, hdepth, Path.components_join _ hproper, List.length_append, hlength]
          rfl

/-- What covers the root has a place that is not shadowed, under its own path. -/
theorem Covered.exists_of_chain (hnamed : Named plan [root]) (h : Covered plan [root] qs)
    (hchain : Chain plan.disk root (p :: ps)) (hdepth : p.depth ≤ plan.maxDepth)
    (hclear : ∀ q ∈ p :: ps, Unshadowed plan [root] q) :
    ∃ q ∈ qs, q.path = p.path ∧ q.mark = p.mark ∧ q.depth = p.depth := by
  induction ps generalizing p with
  | nil =>
      cases hchain with
      | top => exact ⟨_, h.roots_subset _ List.mem_cons_self, rfl, rfl, rfl⟩
  | cons parent above ih =>
      cases hchain with
      | @down _ _ listing e hchain hdir hlist he hlink =>
          have hlt : parent.depth < plan.maxDepth := hdepth
          obtain ⟨q, hq, hpath, hmark, hlevel⟩ :=
            ih hchain hlt.le fun q hq => hclear q (List.mem_cons_of_mem _ hq)
          obtain ⟨before, hway, -⟩ := h.ways q hq
          rw [← hpath] at hdir hlist
          have hproper := hnamed q.path hway.path_mem_sites e ((Disk.mem_entries hlist).mpr he)
          have hchild : q.ofEntry plan.disk e ∈ childrenOf plan q :=
            mem_childrenOf_iff.mpr ⟨hdir, by rw [hlevel]; exact hlt, listing, e, hlist, he, rfl⟩
          obtain ⟨c, hc, hcmark⟩ := List.mem_map.mp (h.closed q hq _ hchild)
          have hown : c.mark = (parent.ofEntry plan.disk e).mark := by
            rw [hcmark, mark_ofEntry hlink hproper, mark_ofEntry hlink hproper, hmark]
          obtain ⟨cbefore, hcway, -⟩ := h.ways c hc
          have hcpath : c.path = (parent.ofEntry plan.disk e).path :=
            hclear _ List.mem_cons_self hcway hown
          refine ⟨c, hc, hcpath, hown, ?_⟩
          -- both are one level below the same path
          have hlength := hcway.length_components hnamed
          have hjoined : c.path = q.path.join e.name := by rw [hcpath, hpath]; rfl
          rw [hjoined, Path.components_join _ hproper, List.length_append,
            hway.length_components hnamed, hlevel] at hlength
          have hdeeper : (parent.ofEntry plan.disk e).depth = parent.depth + 1 := rfl
          rw [List.length_singleton] at hlength
          omega

/-- What is deep enough, of a kind that is reported, and has an entry that matches is reported. -/
theorem reports_of_match {kind : EntryKind} (hkind : plan.disk.classify p.path = .ok kind)
    (hmin : plan.minDepth ≤ p.depth) (haccepts : plan.typeFilter.accepts kind = true)
    (hmatches : plan.matcher (Entry.ofPath p.path kind p.depth) = .accept) :
    reports plan p = true := by
  rw [reports, hkind]
  simp [Examination.isCandidate, hmin, haccepts, hmatches]

section Runs

variable {search : Search} {bystanders : List (List Bool)} {reliable : Bool}
  {m : Machine Place Examination Record} {history : History Place}
  {result : Except Failure Results}

/-- A place down a chain of directories and no links, between the depths, of a kind that is
reported, whose entry the matcher accepts, is among the collected paths of a search of its root that
was not cut short, if neither it nor a directory above it is met under another path.

Neither the matcher nor the sink breaks off. -/
theorem match_found_of_unshadowed (hplan : search.plan disk = .ok plan)
    (hroots : search.roots = [root]) (hcalm : plan.Calm) (hkeeps : search.keepsPaths = true)
    (hnamed : Named plan [root]) (hchain : Chain disk root (p :: ps))
    (hclear : ∀ q ∈ p :: ps, Unshadowed plan [root] q) (hmin : search.minDepth ≤ p.depth)
    (hmax : p.depth ≤ search.maxDepth.getD deepest) {kind : EntryKind}
    (hkind : disk.classify p.path = .ok kind) (haccepts : search.typeFilter.accepts kind = true)
    (hmatches : plan.matcher (Entry.ofPath p.path kind p.depth) = .accept)
    (run : Runs (workload plan) reliable (search.machine disk bystanders) history m)
    (hgoes : m.world.interrupted = false) (hresult : outcome history m.world = some result) :
    ∃ results, result = .ok results ∧ p.path ∈ results.paths := by
  obtain ⟨-, matcher, -, rfl⟩ := exists_matcher_of_plan hplan
  obtain ⟨stats, rfl, -⟩ := exists_results_of_outcome run hresult
  have hexplored := explored_of_runs hcalm.patient rfl run hgoes hresult
  rw [hroots] at hexplored
  obtain ⟨q, hq, hpath, -, hdepth⟩ :=
    hexplored.toCovered.exists_of_chain hnamed hchain hmax hclear
  have hkind' : disk.classify q.path = .ok kind := by rw [hpath, hkind]
  have hmatches' : matcher (Entry.ofPath q.path kind q.depth) = .accept := by
    rw [hpath, hdepth]
    exact hmatches
  refine ⟨_, rfl, (hexplored.agrees hcalm).paths.mem_iff.mpr ?_⟩
  rw [recordOf, if_pos hkeeps, ← hpath]
  exact List.mem_map_of_mem (List.mem_filter.mpr
    ⟨hq, reports_of_match hkind' (hmin.trans hdepth.symm.le) haccepts hmatches'⟩)

end Runs

/-- A directory `r` that holds a directory `b`, in which there are two files `c` and `d`, and a link
`l` to the first of them. -/
def crossed : Volume where
  top := .dir [([114], .dir [([98], .dir [([99], .file), ([100], .file)]),
    ([108], .link [98, 47, 99])])]
  here := []

/-- A search from `r` on one thread, which collects everything. -/
def collecting : Search :=
  { Search.empty with roots := [⟨[114]⟩], threads := 1, keepsPaths := true }

def collectingPlan : Plan where
  disk := crossed.disk
  matcher := fun _ => .accept
  typeFilter := .any
  minDepth := 0
  maxDepth := deepest
  sink := none
  watchesFlag := false
  keepsPaths := true
  keepsFailures := false

/-- What it comes to. -/
def collected : Machine Place Examination Record × History Place :=
  (collecting.machine crossed.disk []).settle (workload collectingPlan) 400

theorem runs_collected : Runs (workload collectingPlan) true (collecting.machine crossed.disk [])
    collected.2 collected.1 :=
  Machine.runs_settle _ _ _

/-- The directory `r/b`. -/
def crossedPlace : Place := ⟨⟨[114, 47, 98]⟩, ⟨[47, 114, 47, 98]⟩, 1⟩

/-- The places `r`, `r/b`, `r/l`, `r/b/c` and `r/b/d`. -/
def crossedPlaces : List Place :=
  [⟨⟨[114]⟩, ⟨[47, 114]⟩, 0⟩, crossedPlace, ⟨⟨[114, 47, 108]⟩, ⟨[47, 114, 47, 98, 47, 99]⟩, 1⟩,
    crossedPlace.ofEntry crossed.disk ⟨[99], false⟩,
    crossedPlace.ofEntry crossed.disk ⟨[100], false⟩]

theorem mem_crossedPlaces (h : Way collectingPlan [⟨[114]⟩] (p :: ps)) : p ∈ crossedPlaces := by
  refine h.mem_of_closed ?_ ?_
  · decide +kernel
  · decide +kernel

/-- The way down to a file in `r/b`. -/
theorem chain_crossed {e : DirEntry} (he : e ∈ crossed.disk.entries crossedPlace.path)
    (hlink : e.isLink = false) : Chain crossed.disk ⟨[114]⟩
      [crossedPlace.ofEntry crossed.disk e, crossedPlace, Place.root crossed.disk ⟨[114]⟩] := by
  have hroot : crossed.disk.list ⟨[114]⟩ = .ok [.ok ⟨[98], false⟩, .ok ⟨[108], true⟩] := by
    decide +kernel
  have hlist : crossed.disk.list crossedPlace.path =
      .ok [.ok ⟨[99], false⟩, .ok ⟨[100], false⟩] := by
    decide +kernel
  have hdir : crossed.disk.kind ⟨[114]⟩ = .ok .dir := by decide +kernel
  have hdir' : crossed.disk.kind crossedPlace.path = .ok .dir := by decide +kernel
  have hplace : crossedPlace =
      (Place.root crossed.disk ⟨[114]⟩).ofEntry crossed.disk ⟨[98], false⟩ := by
    decide +kernel
  refine .down ?_ hdir' hlist ((Disk.mem_entries hlist).mp he) hlink
  rw [hplace]
  exact .down .top hdir hroot List.mem_cons_self rfl

/-- The file `d` is found under its own path: the link leads past it and the directories above. -/
theorem match_found_of_unshadowed_crossed :
    ∃ results, outcome collected.2 collected.1.world = some (.ok results) ∧
      ⟨[114, 47, 98, 47, 100]⟩ ∈ results.paths := by
  have hentry : ⟨[100], false⟩ ∈ crossed.disk.entries crossedPlace.path := by decide +kernel
  have hclear : ∀ q ∈ [crossedPlace.ofEntry crossed.disk ⟨[100], false⟩, crossedPlace,
      Place.root crossed.disk ⟨[114]⟩], Unshadowed collectingPlan [⟨[114]⟩] q := by
    have hplaces : ∀ q ∈ [crossedPlace.ofEntry crossed.disk ⟨[100], false⟩, crossedPlace,
        Place.root crossed.disk ⟨[114]⟩], ∀ p ∈ crossedPlaces, p.mark = q.mark →
          p.path = q.path := by decide +kernel
    intro q hq p ps hway hmark
    exact hplaces q hq p (mem_crossedPlaces hway) hmark
  have hnamed : Named collectingPlan [⟨[114]⟩] := by
    have hplaces : ∀ p ∈ crossedPlaces, ∀ path ∈ [p.path, p.key],
        ∀ e ∈ crossed.disk.entries path, Path.Proper e.name := by decide +kernel
    rintro path ⟨p, ps, hway, hpath⟩ e he
    exact hplaces p (mem_crossedPlaces hway) path (by simpa using hpath) e he
  have hended : (outcome collected.2 collected.1.world).isSome = true := by decide +kernel
  obtain ⟨result, hresult⟩ := Option.isSome_iff_exists.mp hended
  obtain ⟨results, rfl, hfound⟩ := match_found_of_unshadowed
    (show collecting.plan crossed.disk = .ok collectingPlan from rfl) rfl ⟨nofun, nofun, nofun⟩ rfl
    hnamed (chain_crossed hentry rfl) hclear (Nat.zero_le _) (by decide) rfl rfl rfl runs_collected
    rfl hresult
  exact ⟨results, hresult, hfound⟩

/-- The file `c` is not: the link to it is met before. -/
theorem link_hides_match :
    Chain crossed.disk ⟨[114]⟩ [crossedPlace.ofEntry crossed.disk ⟨[99], false⟩, crossedPlace,
        Place.root crossed.disk ⟨[114]⟩] ∧
      crossed.disk.classify ⟨[114, 47, 98, 47, 99]⟩ = .ok .file ∧
      collecting.plan crossed.disk = .ok collectingPlan ∧
      collectingPlan.typeFilter.accepts .file = true ∧
      (∀ entry, collectingPlan.matcher entry = .accept) ∧
      collectingPlan.minDepth ≤ 2 ∧ 2 ≤ collectingPlan.maxDepth ∧
      Runs (workload collectingPlan) true (collecting.machine crossed.disk []) collected.2
        collected.1 ∧
      collected.1.world.interrupted = false ∧
      ∃ results, outcome collected.2 collected.1.world = some (.ok results) ∧
        (crossedPlace.ofEntry crossed.disk ⟨[99], false⟩).path ∉ results.paths := by
  have hentry : ⟨[99], false⟩ ∈ crossed.disk.entries crossedPlace.path := by decide +kernel
  have hended : (outcome collected.2 collected.1.world).isSome = true := by decide +kernel
  have hmissed : (crossedPlace.ofEntry crossed.disk ⟨[99], false⟩).path ∉
      collected.1.world.paths := by decide +kernel
  obtain ⟨result, hresult⟩ := Option.isSome_iff_exists.mp hended
  obtain ⟨stats, rfl, -⟩ := exists_results_of_outcome runs_collected hresult
  exact ⟨chain_crossed hentry rfl, rfl, rfl, rfl, fun _ => rfl, Nat.zero_le _, by decide,
    runs_collected, rfl, _, hresult, hmissed⟩

end Frontier.Search
