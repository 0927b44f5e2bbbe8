/-
# Exhaustive — a search without a limit schedules the keys, each of them once

However the links of a disk run, a search with no greatest depth schedules just
the keys (`Keyed`), examines each of them once, and counts the same whatever the
scheduler does, however many threads there are, and in whatever order the
directories are listed.

    the marks of what was examined are the keys      (`Covered.mem_marks_iff`)
    each job examined its place                      (`jobs_of_quiescent`)
    places of one key count as the same              (`tally_of_alike`)

The keys are found at locations, and a search goes along paths.  If the limits of
the system decide where a path leads, or a sink breaks off within a listing, keys
may be left out (`keys_left_out`).
-/
import Frontier.Proofs.Search.Keys
import Frontier.Proofs.Search.Reordering
import Frontier.Proofs.Search.Return
import Frontier.Proofs.Search.TidyVolume
import Mathlib

namespace Frontier.Search

open Dispatcher
open Dispatcher.Machine (Runs History accepted)

variable {plan plan' : Plan} {disk disk' : Disk} {roots : List Path} {p q c : Place}
  {ps qs : List Place} {record record' : Record}

/-! ## What a place counts for -/

/-- What a place is, if that can be found out, and how much goes wrong with it. -/
def tally (plan : Plan) (p : Place) : Option EntryKind × Nat :=
  (kindOf? plan p, (troubles plan p).length)

/-- How many parts of a listing cannot be read. -/
def unreadable (listing : Listing) : Nat := listing.countP fun part => !part.isOk

theorem length_failures (plan : Plan) (p : Place) (listing : Listing) :
    ((listing.map (partOf plan p)).filterMap failure?).length = unreadable listing := by
  induction listing with
  | nil => rfl
  | cons part rest ih =>
      rw [unreadable, List.countP_cons, ← unreadable, ← ih, List.map_cons]
      cases part <;> rfl

/-- What goes wrong with a place above the limit, said without its failures. -/
theorem length_troubles (hdepth : p.depth < plan.maxDepth) :
    (troubles plan p).length =
      match kindOf? plan p with
      | none => 1
      | some kind =>
          if kind.isDir then
            match plan.disk.list p.path with
            | .ok listing => unreadable listing
            | .error _ => 1
          else 0 := by
  unfold troubles kindOf?
  cases plan.disk.classify p.path with
  | error f => rfl
  | ok kind =>
      simp only [Except.toOption, holdings, Examination.descends, hdepth, decide_true,
        Bool.and_true]
      split
      · unfold listed
        cases plan.disk.list p.path with
        | ok listing => exact length_failures plan p listing
        | error e => rfl
      · rfl

/-- Places that are alike count for the same. -/
theorem tally_of_alike (h : Alike plan.disk p q) (hp : p.depth < plan.maxDepth)
    (hq : q.depth < plan.maxDepth) : tally plan p = tally plan q := by
  have hkind : kindOf? plan p = kindOf? plan q := h.kind
  rw [tally, tally, length_troubles hp, length_troubles hq, ← hkind]
  cases hall : kindOf? plan p with
  | none => rfl
  | some kind =>
      by_cases hdir : kind.isDir
      · obtain rfl : kind = .dir := by simpa [EntryKind.isDir] using hdir
        have hpdir : plan.disk.kind p.path = .ok .dir := by
          rw [← Disk.classify_eq_dir_iff]
          unfold kindOf? at hall
          cases hclass : plan.disk.classify p.path with
          | ok kind =>
              rw [hclass] at hall
              exact congrArg _ (Option.some.inj hall)
          | error f =>
              rw [hclass] at hall
              cases hall
        rw [h.list hpdir]
      · simp only [hdir, Bool.false_eq_true, if_false]

theorem tally_of_reorders (h : plan.disk.Reorders plan'.disk) (hp : p.depth < plan.maxDepth)
    (hp' : p.depth < plan'.maxDepth) : tally plan' p = tally plan p := by
  have hkind : kindOf? plan' p = kindOf? plan p := by rw [kindOf?, kindOf?, h.classify]
  rw [tally, tally, length_troubles hp, length_troubles hp', hkind]
  congr 1
  cases kindOf? plan p with
  | none => rfl
  | some kind =>
      dsimp only
      split
      · cases hlist : plan.disk.list p.path with
        | ok listing =>
            obtain ⟨listing', hlist', hperm⟩ := h.exists_listing hlist
            rw [hlist']
            exact hperm.countP_eq _
        | error e =>
            cases hlist' : plan'.disk.list p.path with
            | ok listing' =>
                obtain ⟨_, hok, -⟩ := h.symm.exists_listing hlist'
                cases hok.symm.trans hlist
            | error e' => rfl
      · rfl

theorem recordOf_counts (plan : Plan) (ps : List Place) :
    (recordOf plan ps).files = ((ps.map (tally plan)).filterMap Prod.fst).countP (!·.isDir) ∧
      (recordOf plan ps).dirs = ((ps.map (tally plan)).filterMap Prod.fst).countP (·.isDir) ∧
        (recordOf plan ps).errors = ((ps.map (tally plan)).map Prod.snd).sum := by
  have hkinds : (ps.map (tally plan)).filterMap Prod.fst = ps.filterMap (kindOf? plan) := by
    rw [List.filterMap_map]
    rfl
  have htroubles : ((ps.map (tally plan)).map Prod.snd).sum =
      (ps.flatMap (troubles plan)).length := by
    rw [List.length_flatMap, List.map_map]
    rfl
  rw [hkinds, htroubles]
  exact ⟨rfl, rfl, rfl⟩

/-- Two lists of places with the same keys, each of them once, count the same if places of one key
do. -/
theorem perm_map_of_marks {β : Type} {g g' : Place → β} (hps : (ps.map Place.mark).Nodup)
    (hqs : (qs.map Place.mark).Nodup)
    (hmarks : ∀ mark, mark ∈ ps.map Place.mark ↔ mark ∈ qs.map Place.mark)
    (hsame : ∀ p ∈ ps, ∀ q ∈ qs, p.mark = q.mark → g p = g' q) :
    (ps.map g).Perm (qs.map g') := by
  have hkeyed {l : List Place} (hl : (l.map Place.mark).Nodup) (f : Place → β) :
      (l.map fun p => (p.mark, f p)).Nodup := by
    refine List.Nodup.of_map Prod.fst ?_
    rw [List.map_map]
    exact hl
  have hperm : (ps.map fun p => (p.mark, g p)).Perm (qs.map fun q => (q.mark, g' q)) := by
    refine (List.perm_ext_iff_of_nodup (hkeyed hps g) (hkeyed hqs g')).mpr ?_
    rintro ⟨mark, x⟩
    simp only [List.mem_map, Prod.mk.injEq]
    constructor
    · rintro ⟨p, hp, rfl, rfl⟩
      obtain ⟨q, hq, heq⟩ := List.mem_map.mp ((hmarks p.mark).mp (List.mem_map_of_mem hp))
      exact ⟨q, hq, heq, (hsame p hp q hq heq.symm).symm⟩
    · rintro ⟨q, hq, rfl, rfl⟩
      obtain ⟨p, hp, heq⟩ := List.mem_map.mp ((hmarks q.mark).mpr (List.mem_map_of_mem hq))
      exact ⟨p, hp, heq, hsame p hp q hq heq⟩
  have hvalues := hperm.map Prod.snd
  rw [List.map_map, List.map_map] at hvalues
  exact hvalues

/-! ## What a search counts -/

/-- Two searches without a limit count the same. -/
theorem Explored.counts_eq
    (hlocated : plan.disk.Located (sites plan roots ∪ keySites plan.disk roots))
    (hfinite : (keys plan.disk roots).encard ≤ plan.maxDepth)
    (hreorders : plan.disk.Reorders plan'.disk) (hmax : plan'.maxDepth = plan.maxDepth)
    (h : Explored plan roots record) (h' : Explored plan' roots record') :
    record'.files = record.files ∧ record'.dirs = record.dirs ∧
      record'.errors = record.errors := by
  have hcovered := h'.toCovered.of_reorders hreorders hmax
  have hways := hlocated.mono Set.subset_union_left
  have hdepth {ps : List Place} (hps : Covered plan roots ps) :
      ∀ p ∈ ps, p.depth < plan.maxDepth := by
    intro p hp
    obtain ⟨before, hway, -⟩ := hps.ways p hp
    exact hway.depth_lt hways hfinite
  have hperm : (record'.examined.map (tally plan')).Perm (record.examined.map (tally plan)) := by
    refine perm_map_of_marks hcovered.nodup h.nodup ?_ ?_
    · intro mark
      rw [hcovered.mem_marks_iff hlocated hfinite, h.mem_marks_iff hlocated hfinite]
    · intro p hp q hq hmark
      have hpdepth := hdepth hcovered p hp
      obtain ⟨pbefore, hpway, -⟩ := hcovered.ways p hp
      obtain ⟨qbefore, hqway, -⟩ := h.ways q hq
      rw [tally_of_reorders hreorders hpdepth (hmax ▸ hpdepth)]
      exact tally_of_alike (hpway.alike hways hqway hmark) hpdepth (hdepth h.toCovered q hq)
  obtain ⟨hfiles, hdirs, herrors⟩ := recordOf_counts plan record.examined
  obtain ⟨hfiles', hdirs', herrors'⟩ := recordOf_counts plan' record'.examined
  rw [h.files, h.dirs, h.errors, h'.files, h'.dirs, h'.errors, hfiles, hdirs, herrors, hfiles',
    hdirs', herrors']
  exact ⟨(hperm.filterMap _).countP_eq _, (hperm.filterMap _).countP_eq _,
    (hperm.map _).sum_eq⟩

/-! ## The search -/

/-- A search has scheduled the keys, each of them once, and each job has examined its place. -/
structure Exhausts (disk : Disk) (roots : List Path) (history : History Place) (record : Record)
    (results : Results) : Prop where
  results_eq : results = resultsOf record results.dispatch
  completed : results.completed = true
  scheduled : ∀ mark, mark ∈ (accepted history).map (·.job.mark) ↔ mark ∈ keys disk roots
  once : ((accepted history).map (·.job.mark)).Nodup
  examined : record.examined.Perm ((accepted history).map Admitted.job)
  submitted : results.dispatch.submitted = (keys disk roots).ncard
  executed : results.dispatch.executed = (keys disk roots).ncard

section Runs

variable {search search' : Search} {bystanders bystanders' : List (List Bool)}
  {reliable reliable' : Bool} {m m' : Machine Place Examination Record}
  {history history' : History Place}

theorem exhausts_of_runs (hpatient : plan.Patient)
    (hlocated : plan.disk.Located (sites plan search.roots ∪ keySites plan.disk search.roots))
    (hfinite : (keys plan.disk search.roots).encard ≤ plan.maxDepth)
    (run : Runs (workload plan) reliable (search.machine plan.disk bystanders) history m)
    (hgoes : m.world.interrupted = false) {result : Except Failure Results}
    (hresult : outcome history m.world = some result) :
    ∃ results, result = .ok results ∧
      Exhausts plan.disk search.roots history m.world results := by
  obtain ⟨stats, rfl, hdrained⟩ := exists_results_of_outcome run hresult
  obtain ⟨hq, hsubmitted, hexecuted⟩ := counts_of_drained run hdrained
  have hexplored := explored_of_runs hpatient rfl run hgoes hresult
  have hexamined := jobs_of_quiescent run hq
  rw [skipped_of_runs run hgoes, List.append_nil] at hexamined
  have hmarks : (m.world.examined.map Place.mark).Perm
      ((accepted history).map (·.job.mark)) := by
    have hmapped := hexamined.map Place.mark
    rw [List.map_map] at hmapped
    exact hmapped
  have hscheduled (mark : List Path.Component) :
      mark ∈ (accepted history).map (·.job.mark) ↔ mark ∈ keys plan.disk search.roots := by
    rw [← hmarks.mem_iff, hexplored.mem_marks_iff hlocated hfinite]
  have honce := hmarks.nodup_iff.mp hexplored.nodup
  have hlength : (accepted history).length = (keys plan.disk search.roots).ncard := by
    have hset : keys plan.disk search.roots =
        ↑((accepted history).map (·.job.mark)).toFinset := by
      ext mark
      rw [← hscheduled, Finset.mem_coe, List.mem_toFinset]
    rw [hset, Set.ncard_coe_finset, List.toFinset_card_of_nodup honce, List.length_map]
  refine ⟨_, rfl, rfl, ?_, hscheduled, honce, hexamined, hsubmitted.trans hlength,
    hexecuted.trans hlength⟩
  rw [resultsOf, hgoes]
  rfl

/-- A search without a greatest depth goes as deep as a machine word can count. -/
theorem disk_eq_of_plan (hplan : search.plan disk = .ok plan) (hmax : search.maxDepth = none) :
    plan.disk = disk ∧ plan.maxDepth = deepest := by
  obtain ⟨-, matcher, -, rfl⟩ := exists_matcher_of_plan hplan
  rw [hmax]
  exact ⟨rfl, rfl⟩

/-- A search without a greatest depth schedules just the keys, examines each of them once, and
counts what any other such search counts.  It comes to its end: a run that cannot be continued has
an outcome, and none can be continued for ever.

The disk knows where things are, and there are no more keys than a machine word can count.  The
sink does not break off where it is told that a part of a listing could not be read: the rest of the
listing would be lost. -/
theorem schedules_keys (hplan : search.plan disk = .ok plan) (hmax : search.maxDepth = none)
    (hpatient : plan.Patient)
    (hlocated : disk.Located (sites plan search.roots ∪ keySites disk search.roots))
    (hfinite : (keys disk search.roots).encard ≤ deepest) :
    (∀ {bystanders : List (List Bool)} {reliable : Bool} {history : History Place}
        {m : Machine Place Examination Record} {result : Except Failure Results},
      Runs (workload plan) reliable (search.machine disk bystanders) history m →
      m.world.interrupted = false → outcome history m.world = some result →
        ∃ results, result = .ok results ∧ Exhausts disk search.roots history m.world results ∧
          ∀ {disk' : Disk} {search' : Search} {plan' : Plan} {bystanders' : List (List Bool)}
              {reliable' : Bool} {history' : History Place}
              {m' : Machine Place Examination Record} {results' : Results},
            disk.Reorders disk' → search'.plan disk' = .ok plan' →
            search'.roots = search.roots → search'.maxDepth = none → plan'.Patient →
            Runs (workload plan') reliable' (search'.machine disk' bystanders') history' m' →
            m'.world.interrupted = false → outcome history' m'.world = some (.ok results') →
              results'.files = results.files ∧ results'.dirs = results.dirs ∧
                results'.errors = results.errors) ∧
    (∀ {bystanders : List (List Bool)} {history : History Place}
        {m : Machine Place Examination Record},
      Runs (workload plan) true (search.machine disk bystanders) history m →
      (∀ t, m.step (workload plan) t true = none) → (outcome history m.world).isSome = true) ∧
    ∀ bystanders : List (List Bool), ¬∃ path : Nat → Machine Place Examination Record,
      path 0 = search.machine disk bystanders ∧
        ∀ k, ∃ t canSpawn occurred,
          (path k).step (workload plan) t canSpawn = some (path (k + 1), occurred) := by
  obtain ⟨rfl, hdeep⟩ := disk_eq_of_plan hplan hmax
  rw [← hdeep] at hfinite
  refine ⟨?_, ?_, ?_⟩
  · intro bystanders reliable history m result run hgoes hresult
    obtain ⟨results, rfl, hexhausts⟩ :=
      exhausts_of_runs hpatient hlocated hfinite run hgoes hresult
    refine ⟨results, rfl, hexhausts, ?_⟩
    intro disk' search' plan' bystanders' reliable' history' m' results' hreorders hplan' hroots
      hmax' hpatient' run' hgoes' hresult'
    obtain ⟨rfl, hdeep'⟩ := disk_eq_of_plan hplan' hmax'
    have hexplored := explored_of_runs hpatient rfl run hgoes hresult
    have hexplored' := explored_of_runs hpatient' rfl run' hgoes' hresult'
    rw [hroots] at hexplored'
    obtain ⟨stats', heq, -⟩ := exists_results_of_outcome run' hresult'
    rw [hexhausts.results_eq, Except.ok.inj heq]
    exact Explored.counts_eq hlocated hfinite hreorders (hdeep'.trans hdeep.symm) hexplored
      hexplored'
  · intro bystanders history m run hrest
    exact outcome_of_rest hplan run hrest
  · rintro bystanders ⟨path, -, hpath⟩
    exact Machine.no_infinite_run (ranking plan) ⟨path, hpath⟩

end Runs

/-- A search from `r` on two threads. -/
def braidedSearch : Search := { Search.empty with roots := [⟨[114]⟩], threads := 2 }

def braidedPlan : Plan where
  disk := braided.disk
  matcher := fun _ => .accept
  typeFilter := .any
  minDepth := 0
  maxDepth := deepest
  sink := none
  watchesFlag := false
  keepsPaths := false
  keepsFailures := false

theorem braided_keyed {k : Path} (hk : Keyed braided.disk [⟨[114]⟩] k) :
    k ∈ braidedPlaces.map Place.key := by
  have hroots : ∀ path ∈ [⟨[114]⟩], (Place.root braided.disk path).key ∈
      braidedPlaces.map Place.key := by decide +kernel
  have hclosed : ∀ k ∈ braidedPlaces.map Place.key, ∀ e ∈ braided.disk.entries k,
      Place.childKey braided.disk ⟨k, k, 0⟩ e ∈ braidedPlaces.map Place.key := by decide +kernel
  exact hk.mem_of_closed (K := {k | k ∈ braidedPlaces.map Place.key}) hroots hclosed

theorem braided_keySites :
    sites braidedPlan [⟨[114]⟩] ∪ keySites braided.disk [⟨[114]⟩] ⊆ {p | p ∈ braidedPaths} := by
  have hkeys : ∀ k ∈ braidedPlaces.map Place.key, k ∈ braidedPaths ∧
      ∀ e ∈ braided.disk.entries k, k.join e.name ∈ braidedPaths := by decide +kernel
  rintro x (hsite | hroot | hkeyed | ⟨k, listing, e, hkeyed, hlist, he, rfl⟩)
  · exact braided_sites rfl hsite
  · rw [List.mem_singleton.mp hroot]
    exact List.mem_cons_self
  · exact (hkeys _ (braided_keyed hkeyed)).1
  · exact (hkeys _ (braided_keyed hkeyed)).2 e ((Disk.mem_entries hlist).mpr he)

/-- The four keys of `r`, `b`, `c` and `x` are scheduled. -/
theorem schedules_keys_braided :
    ∃ history m results, braidedSearch.plan braided.disk = .ok braidedPlan ∧
      Runs (workload braidedPlan) true (braidedSearch.machine braided.disk []) history m ∧
      m.world.interrupted = false ∧ outcome history m.world = some (.ok results) ∧
      Exhausts braided.disk braidedSearch.roots history m.world results ∧
      results.dispatch.executed = 4 := by
  have hfinite : (keys braided.disk braidedSearch.roots).encard ≤ deepest := by
    have hsubset : keys braided.disk braidedSearch.roots ⊆
        ↑((braidedPlaces.map Place.key).map Path.components).toFinset := by
      rintro mark ⟨k, hk, rfl⟩
      rw [Finset.mem_coe, List.mem_toFinset]
      exact List.mem_map_of_mem (braided_keyed hk)
    refine (Set.encard_le_encard hsubset).trans ?_
    rw [Set.encard_coe_eq_coe_finsetCard, Nat.cast_le]
    decide
  obtain ⟨hschedules, -, -⟩ := schedules_keys
    (show braidedSearch.plan braided.disk = .ok braidedPlan from rfl) rfl nofun
    (braided_located.mono braided_keySites) hfinite
  have hrun := Machine.runs_settle (workload braidedPlan) 400
    (braidedSearch.machine braided.disk [])
  have hended : ((outcome
      ((braidedSearch.machine braided.disk []).settle (workload braidedPlan) 400).2
      ((braidedSearch.machine braided.disk []).settle (workload braidedPlan) 400).1.world).bind
        Except.toOption).map (·.dispatch.executed) = some 4 := by
    rfl
  obtain ⟨results, hresults, hexecuted⟩ := Option.map_eq_some_iff.mp hended
  obtain ⟨result, hresult, hok⟩ := Option.bind_eq_some_iff.mp hresults
  obtain ⟨results', rfl, hexhausts, -⟩ := hschedules hrun rfl hresult
  obtain rfl := Option.some.inj hok
  exact ⟨_, _, _, rfl, hrun, rfl, hresult, hexhausts, hexecuted⟩

/-! ## What is left out -/

/-- A search was not cut short and came to its end, and has not scheduled all keys. -/
def LeavesOut (search : Search) (disk : Disk) : Prop :=
  ∃ plan history m, search.plan disk = .ok plan ∧
    Runs (workload plan) true (search.machine disk []) history m ∧
    m.world.interrupted = false ∧ (outcome history m.world).isSome = true ∧
    ∃ mark ∈ keys disk search.roots, mark ∉ (accepted history).map (·.job.mark)

/-- A search from `r` on one thread. -/
def lone (sink : Option Sink) : Search :=
  { Search.empty with roots := [⟨[114]⟩], threads := 1, sink }

def lonePlan (sink : Option Sink) (disk : Disk) : Plan where
  disk
  matcher := fun _ => .accept
  typeFilter := .any
  minDepth := 0
  maxDepth := deepest
  sink
  watchesFlag := false
  keepsPaths := false
  keepsFailures := false

/-- How it goes. -/
def loneRun (sink : Option Sink) (disk : Disk) :
    Machine Place Examination Record × History Place :=
  ((lone sink).machine disk []).settle (workload (lonePlan sink disk)) 400

theorem runs_loneRun (sink : Option Sink) (disk : Disk) : Runs (workload (lonePlan sink disk)) true
    ((lone sink).machine disk []) (loneRun sink disk).2 (loneRun sink disk).1 :=
  Machine.runs_settle _ 400 _

/-- A sink that breaks off when it is told of a failure. -/
def brittle : Sink := ⟨fun _ _ => .none, fun _ => ⟨false, some "failure"⟩⟩

/-- A disk with one more part in each listing, which cannot be read. -/
def patchy (disk : Disk) : Disk :=
  { disk with list := fun path => (disk.list path).map (.error (.numbered 5) :: ·) }

theorem patchy_faithful (h : disk.Faithful) : (patchy disk).Faithful where
  truthful := by
    intro path location hlocation
    obtain ⟨hitself, hkind, hlist⟩ := h.truthful hlocation
    exact ⟨hitself, hkind, congrArg (Except.map _) hlist⟩
  goesDown := by
    intro path location listing e hdir hlist he hlink hlocation
    have hmap : (disk.list path).map (.error (.numbered 5) :: ·) = .ok listing := hlist
    cases hparts : disk.list path with
    | ok parts =>
        rw [hparts] at hmap
        cases hmap
        exact h.goesDown hdir hparts (by simpa using he) hlink hlocation
    | error err =>
        rw [hparts] at hmap
        cases hmap
  resolves := h.resolves

theorem tangled_keyed : Keyed tangled.disk [⟨[114]⟩] ⟨[47, 98]⟩ := by
  have hr : Keyed tangled.disk [⟨[114]⟩] ⟨[47, 114]⟩ :=
    .start List.mem_cons_self (by decide +kernel)
  have ha : Keyed tangled.disk [⟨[114]⟩] ⟨[47, 97]⟩ :=
    hr.child (e := ⟨[108], true⟩) (by decide +kernel) (by decide +kernel) (by decide +kernel)
  exact ha.child (e := ⟨[108], true⟩) (by decide +kernel) (by decide +kernel) (by decide +kernel)

theorem patchy_keyed : Keyed (patchy braided.disk) [⟨[114]⟩] ⟨[47, 114, 47, 98]⟩ := by
  have hr : Keyed (patchy braided.disk) [⟨[114]⟩] ⟨[47, 114]⟩ :=
    .start List.mem_cons_self (by decide +kernel)
  exact hr.child (e := ⟨[98], false⟩) (by decide +kernel) (by decide +kernel) (by decide +kernel)

/-- In `tangled` the key of `b` is left out.  The directory `a` is come to as `r/l`, and `r/l/l`
meets too many links, where the path from the key of `a` does not.

A sink that breaks off at a part of `r` that cannot be read keeps a search from the rest of `r`. -/
theorem keys_left_out :
    (tangled.disk.Faithful ∧ LeavesOut (lone none) tangled.disk) ∧
      (patchy braided.disk).Faithful ∧ LeavesOut (lone (some brittle)) (patchy braided.disk) := by
  refine ⟨⟨tangled_faithful, ?_⟩, patchy_faithful (braided_tidy.faithful (by decide)), ?_⟩
  · exact ⟨_, _, _, rfl, runs_loneRun _ _, by decide +kernel, by decide +kernel, _,
      ⟨_, tangled_keyed, rfl⟩, by decide +kernel⟩
  · exact ⟨_, _, _, rfl, runs_loneRun _ _, by decide +kernel, by decide +kernel, _,
      ⟨_, patchy_keyed, rfl⟩, by decide +kernel⟩

end Frontier.Search
