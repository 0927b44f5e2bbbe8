/-
# Conservation — the numbers that a search returns add up

Each job that was executed has passed its place over or looked at it, and of each
place that was looked at it was found out what it is, or that it cannot be found
out:

    executed = looked at + passed over                   (`jobs_of_quiescent`)
    looked at = files + directories + unclassified       (`sorted_of_quiescent`)

An error is counted where a place could not be classified, a directory not be
listed or a part of a listing not be read; and what is counted as a match or as an
error is what the sink is told of and what is kept (`Channel.settled`).

A matcher or a sink that breaks off costs none of the equations of numbers; only
what is kept falls short then of what the sink was told.
-/
import Frontier.Proofs.Search.Accounts
import Frontier.Proofs.Search.Completed
import Mathlib

namespace Frontier.Search

open Dispatcher
open Dispatcher.Machine (Runs History accepted)

variable {plan : Plan}

/-! ## What was looked at, sorted -/

/-- A place is a directory, or something else, or it cannot be found out what it is. -/
def sortOf (plan : Plan) (p : Place) : Option Bool := (kindOf? plan p).map EntryKind.isDir

/-- How many places were counted of a sort. -/
def Record.sorted (r : Record) : Option Bool → Nat
  | some true => r.dirs
  | some false => r.files
  | none => r.unclassified.length

/-- A place that was looked at and is still to be counted. -/
def Examination.unsorted (sort : Option Bool) : Examination → Nat
  | countKind _ kind => if some kind.isDir = sort then 1 else 0
  | _ => 0

theorem Resumes.unsorted_eq_zero {failure : Failure} {next : Examination}
    (h : Resumes plan failure next) (sort : Option Bool) : next.unsorted sort = 0 := by
  cases h <;> rfl

theorem Record.sorted_countKind (r : Record) (kind : EntryKind) (sort : Option Bool) :
    (r.countKind kind).sorted sort = r.sorted sort + if some kind.isDir = sort then 1 else 0 := by
  unfold countKind
  cases kind.isDir <;> rcases sort with _ | _ | _ <;> rfl

theorem countP_sortOf_append (examined : List Place) (p : Place) (sort : Option Bool) :
    (examined ++ [p]).countP (sortOf plan · = sort) =
      examined.countP (sortOf plan · = sort) + if sortOf plan p = sort then 1 else 0 := by
  simp only [List.countP_append, List.countP_singleton, decide_eq_true_eq]

/-- A place that is looked at is counted in the next step, if it can be classified. -/
theorem Examination.Acts.unsorted (sort : Option Bool) {ex next : Examination} {r r' : Record}
    (h : Acts plan r ex r' next) (hex : ex.OnCourse plan) :
    r'.sorted sort + next.unsorted sort + r.examined.countP (sortOf plan · = sort) =
      r.sorted sort + ex.unsorted sort + r'.examined.countP (sortOf plan · = sort) := by
  cases h with
  | @classified p kind hkind =>
      have hsort : sortOf plan p = some kind.isDir := by rw [sortOf, kindOf?, hkind]; rfl
      rw [countP_sortOf_append, hsort]
      dsimp only [Examination.unsorted, Record.sorted]
      omega
  | @unclassified p failure hfailure =>
      have hsort : sortOf plan p = none := by rw [sortOf, kindOf?, hfailure]; rfl
      rw [countP_sortOf_append, hsort]
      rcases sort with _ | _ | _
      · simp only [Record.sorted, Examination.unsorted, List.length_append, List.length_singleton,
          if_true]
        omega
      · rfl
      · rfl
  | descend p kind | stay p kind =>
      rw [Record.sorted_countKind, Record.countKind_eq]
      rfl
  | keepFailure | discardFailure =>
      rw [Resumes.unsorted_eq_zero hex]
      rfl
  | judge p kind => cases plan.matcher (Entry.ofPath p.path kind p.depth) <;> rfl
  | _ => rfl

/-- The places of a sort that were looked at and are still to be counted. -/
def unsorted (plan : Plan) (sort : Option Bool) : Burden plan Nat where
  body := Examination.unsorted sort
  offered _ := 0
  accepted _ := 0
  body_arrive _ := rfl
  body_prepare _ _ _ _ := rfl
  body_submit _ _ _ _ := rfl
  body_of_finish hmove := by cases Examination.makes_of_move hmove <;> rfl
  body_close := rfl
  body_breakOff _ := rfl

theorem length_eq_sorts (plan : Plan) (examined : List Place) :
    examined.length = examined.countP (sortOf plan · = some false) +
      examined.countP (sortOf plan · = some true) + examined.countP (sortOf plan · = none) := by
  induction examined with
  | nil => rfl
  | cons p examined ih =>
      simp only [List.length_cons, List.countP_cons, decide_eq_true_eq, ih]
      rcases sortOf plan p with _ | _ | _ <;> simp <;> omega

section Runs

variable {disk : Disk} {search : Search} {bystanders : List (List Bool)} {reliable : Bool}
  {m : Machine Place Examination Record} {history : History Place}

/-- When the dispatcher has been drained, the places that were looked at were counted, each as what
it is. -/
theorem sorted_of_quiescent
    (run : Runs (workload plan) reliable (search.machine disk bystanders) history m)
    (hq : m.shared.gate.lifecycle = .quiescent) (sort : Option Bool) :
    m.world.sorted sort = m.world.examined.countP (sortOf plan · = sort) := by
  have hbalanced := (unsorted plan sort).balanced ⟨fun _ => rfl, fun _ _ _ => rfl⟩
    (Record.sorted · sort) (·.examined.countP (sortOf plan · = sort))
    (fun _ _ => by rcases sort with _ | _ | _ <;> exact ⟨rfl, rfl⟩)
    (Examination.Acts.unsorted sort)
    (by rcases sort with _ | _ | _ <;> rfl) run
  have hnone (ps : List Place) : (ps.map (unsorted plan sort).accepted).sum = 0 :=
    List.sum_eq_zero (by simp [unsorted])
  rwa [(unsorted plan sort).total_of_quiescent run hq, hnone, add_zero, add_zero] at hbalanced

/-! ## What the numbers say -/

/-- The numbers that a search returns, in terms of what its examinations met with. -/
structure Conserved (plan : Plan) (record : Record) (results : Results) : Prop where
  executed : results.dispatch.executed =
    results.files + results.dirs + record.unclassified.length + record.skipped.length
  files : results.files = record.examined.countP (sortOf plan · = some false)
  dirs : results.dirs = record.examined.countP (sortOf plan · = some true)
  unclassified : record.unclassified.length = record.examined.countP (sortOf plan · = none)
  errors : results.errors =
    record.unclassified.length + record.unlisted.length + record.unread.length
  matched : results.matched = record.judged.countP (plan.matcher · = .accept)
  matches_told : plan.sink ≠ none → record.toldMatches.length = results.matched
  matches_kept : plan.Steady → plan.keepsPaths = true →
    results.paths.length = results.matched ∧
      (plan.sink ≠ none → results.paths.Perm record.toldMatches)
  matches_unkept : plan.keepsPaths = false → results.paths = []
  failures_told : plan.sink ≠ none → record.toldFailures.length = results.errors
  failures_kept : plan.Steady → plan.keepsFailures = true →
    results.failures.length = results.errors ∧
      (plan.sink ≠ none → results.failures.Perm record.toldFailures)
  failures_unkept : plan.keepsFailures = false → results.failures = []
  untold : plan.sink = none → record.toldMatches = [] ∧ record.toldFailures = []

/-- The numbers of a search that has ended add up, whatever is on the disk, whoever raised or cleared
the flag, and whether or not the matcher or the sink broke off.  What is kept is what the sink was
told of, unless the sink broke off; whether the matcher did makes no difference. -/
theorem statistics_conserved
    (run : Runs (workload plan) reliable (search.machine disk bystanders) history m)
    {result : Except Failure Results} (hresult : outcome history m.world = some result) :
    ∃ results, result = .ok results ∧ Conserved plan m.world results := by
  obtain ⟨stats, rfl, hdrained⟩ := exists_results_of_outcome run hresult
  obtain ⟨hq, -, hexecuted⟩ := counts_of_drained run hdrained
  have hsorted := sorted_of_quiescent run hq
  have hmatches := (matchChannel plan).settled run hq
  have hfailures := (failureChannel plan).settled run hq
  -- as many were executed as jobs were accepted, and each of them looked or passed over
  have hjobs : m.world.examined.length + m.world.skipped.length = (accepted history).length := by
    have hlength := (jobs_of_quiescent run hq).length_eq
    rwa [List.length_append, List.length_map] at hlength
  refine ⟨_, rfl, {
    executed := ?_
    files := hsorted (some false)
    dirs := hsorted (some true)
    unclassified := hsorted none
    errors := hfailures.counted
    matched := hmatches.counted
    matches_told := hmatches.told
    matches_kept := fun hsteady hkeeps =>
      ⟨hmatches.kept hsteady hkeeps, hmatches.kept_perm hsteady hkeeps⟩
    matches_unkept := hmatches.unkept
    failures_told := hfailures.told
    failures_kept := fun hsteady hkeeps =>
      ⟨hfailures.kept hsteady hkeeps, hfailures.kept_perm hsteady hkeeps⟩
    failures_unkept := hfailures.unkept
    untold := fun hnone => ⟨hmatches.untold hnone, hfailures.untold hnone⟩ }⟩
  calc stats.executed = m.world.examined.length + m.world.skipped.length :=
        hexecuted.trans hjobs.symm
    _ = m.world.sorted (some false) + m.world.sorted (some true) + m.world.sorted none +
          m.world.skipped.length := by
        rw [length_eq_sorts plan, hsorted, hsorted, hsorted]

end Runs

/-- A search from a place that there is not and from `r`, which is stopped by its sink at the first
match. -/
def halted : Search :=
  { Search.empty with
    roots := [⟨[120]⟩, ⟨[114]⟩]
    threads := 2
    sink := some impatient
    stopFlag := some false
    keepsPaths := true
    keepsFailures := true }

def haltedPlan : Plan where
  disk := nest.disk
  matcher := fun _ => .accept
  typeFilter := .any
  minDepth := 0
  maxDepth := deepest
  sink := some impatient
  watchesFlag := true
  keepsPaths := true
  keepsFailures := true

theorem haltedPlan_steady : haltedPlan.Steady where
  onMatch hsink _ _ := by cases hsink; rfl
  onFailure hsink _ := by cases hsink; rfl

/-- Four jobs: one place is missing, `r` is a directory, and what it holds is passed over. -/
theorem statistics_conserved_halted :
    ∃ history m results, halted.plan nest.disk = .ok haltedPlan ∧
      Runs (workload haltedPlan) true (halted.machine nest.disk []) history m ∧
      outcome history m.world = some (.ok results) ∧
      results.files = 0 ∧ results.dirs = 1 ∧ m.world.unclassified.length = 1 ∧
      m.world.skipped.length = 2 ∧ results.dispatch.executed = 4 ∧ results.errors = 1 ∧
      results.paths.Perm m.world.toldMatches ∧ results.failures.length = 1 := by
  have hrun := Machine.runs_settle (workload haltedPlan) 300 (halted.machine nest.disk [])
  have hended : (outcome ((halted.machine nest.disk []).settle (workload haltedPlan) 300).2
      ((halted.machine nest.disk []).settle (workload haltedPlan) 300).1.world).isSome = true := by
    rfl
  obtain ⟨result, hresult⟩ := Option.isSome_iff_exists.mp hended
  obtain ⟨results, rfl, h⟩ := statistics_conserved hrun hresult
  have hunclassified : ((halted.machine nest.disk []).settle (workload haltedPlan)
      300).1.world.unclassified.length = 1 := by rfl
  have hskipped : ((halted.machine nest.disk []).settle (workload haltedPlan)
      300).1.world.skipped.length = 2 := by rfl
  have hfiles : results.files = 0 := h.files.trans (by rfl)
  have hdirs : results.dirs = 1 := h.dirs.trans (by rfl)
  have herrors : results.errors = 1 := h.errors.trans (by rfl)
  have hexecuted := h.executed
  rw [hfiles, hdirs, hunclassified, hskipped] at hexecuted
  exact ⟨_, _, results, rfl, hrun, hresult, hfiles, hdirs, hunclassified, hskipped, hexecuted,
    herrors, (h.matches_kept haltedPlan_steady rfl).2 (Option.some_ne_none impatient),
    (h.failures_kept haltedPlan_steady rfl).1.trans herrors⟩

end Frontier.Search
