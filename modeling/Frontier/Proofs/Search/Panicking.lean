/-
# Panicking — a matcher that breaks off costs its own entry only

A place is judged when its children have their jobs, and a verdict that breaks off ends
only the body that asked for it.  So a search whose matcher breaks off finds what it would
find if the matcher rejected the entry instead; only the dispatcher counts the bodies that
broke off.

    what was looked at covers what the walk comes to, and no more   (`Covered.perm_reached`)
    what is recorded of it does not depend on who breaks off        (`sequential_hushed`)
    each of the verdicts that broke off was counted                 (`panicked_of_drained`)
-/
import Frontier.Proofs.Search.Refinement
import Mathlib

namespace Frontier

/-- The verdict with a rejection where the matcher broke off. -/
def Verdict.hushed : Verdict → Verdict
  | panic _ => reject
  | verdict => verdict

/-- The matcher that rejects what the matcher breaks off on. -/
def Matcher.hushed (matcher : Matcher) : Matcher := fun e => (matcher e).hushed

theorem Verdict.hushed_eq_accept_iff {verdict : Verdict} :
    verdict.hushed = .accept ↔ verdict = .accept := by
  cases verdict <;> simp [hushed]

theorem Verdict.hushed_ofBool (accepted : Bool) : (ofBool accepted).hushed = ofBool accepted := by
  cases accepted <;> rfl

theorem Verdict.isPanic_hushed (verdict : Verdict) : verdict.hushed.isPanic = false := by
  cases verdict <;> rfl

/-- The results say the same, maybe in another order; of the bodies that broke off they need not. -/
structure Results.Agrees (results results' : Results) : Prop where
  matched : results.matched = results'.matched
  paths : results.paths.Perm results'.paths
  files : results.files = results'.files
  dirs : results.dirs = results'.dirs
  errors : results.errors = results'.errors
  failures : results.failures.Perm results'.failures
  submitted : results.dispatch.submitted = results'.dispatch.submitted
  executed : results.dispatch.executed = results'.dispatch.executed

namespace Search

open CommandLine Dispatcher
open Dispatcher.Machine (Runs History accepted)

variable {plan : Plan} {disk : Disk} {search : Search} {bystanders : List (List Bool)}
  {reliable : Bool} {m : Machine Place Examination Record} {history : History Place}
  {marks : List (List Path.Component)} {roots : List Path} {p q c : Place} {ps qs : List Place}

theorem Record.Agrees.resultsOf {r r' : Record} (h : r.Agrees r') {stats stats' : Stats}
    (hsubmitted : stats.submitted = stats'.submitted)
    (hexecuted : stats.executed = stats'.executed) :
    (Search.resultsOf r stats).Agrees (Search.resultsOf r' stats') :=
  ⟨h.matched, h.paths, h.files, h.dirs, h.errors, h.failures, hsubmitted, hexecuted⟩

/-! ## The matcher that rejects instead -/

/-- The plan whose matcher rejects what the matcher breaks off on. -/
def Plan.hushed (plan : Plan) : Plan := { plan with matcher := plan.matcher.hushed }

theorem reports_hushed (plan : Plan) : reports plan.hushed = reports plan := by
  funext p
  have hverdict (e : Entry) : (plan.hushed.matcher e = .accept) = (plan.matcher e = .accept) :=
    propext Verdict.hushed_eq_accept_iff
  simp only [reports, hverdict]
  rfl

theorem walk_hushed (plan : Plan) (levels : Nat) :
    walk plan.hushed marks levels = walk plan marks levels := by
  induction levels with
  | zero => rfl
  | succ levels ih =>
      funext p
      rw [walk, walk, ih]
      rfl

theorem reached_hushed (plan : Plan) (roots : List Path) :
    reached plan.hushed roots = reached plan roots := by
  rw [reached, walk_hushed]
  rfl

theorem sequential_hushed (plan : Plan) (roots : List Path) :
    sequential plan.hushed roots = sequential plan roots := by
  rw [sequential, reached_hushed, recordOf, reports_hushed]
  rfl

theorem breaksAt_hushed (plan : Plan) (p : Place) : breaksAt plan.hushed p = false := by
  refine breaksAt_eq_false ?_ p
  intro e
  exact Verdict.isPanic_hushed (plan.matcher e)

/-- The search whose matcher rejects what the matcher breaks off on. -/
def hushed (search : Search) : Search :=
  { search with matcher := search.matcher.map Matcher.hushed }

/-- The matcher of a pattern does not break off, so it stays as it is. -/
theorem effectiveMatcher_hushed (search : Search) :
    search.hushed.effectiveMatcher = search.effectiveMatcher.map Matcher.hushed := by
  unfold effectiveMatcher hushed
  cases search.matcher with
  | some matcher => rfl
  | none =>
      cases search.pattern with
      | none => rfl
      | some pattern =>
          dsimp only [Option.map_none, patternMatcher]
          cases pattern.compile with
          | error failure => rfl
          | ok accepts =>
              exact congrArg Except.ok (funext fun e => (Verdict.hushed_ofBool _).symm)

/-- Both searches pass the same checks. -/
theorem plan_hushed (disk : Disk) (search : Search) :
    search.hushed.plan disk = (search.plan disk).map Plan.hushed := by
  rw [plan, plan, effectiveMatcher_hushed]
  by_cases hroots : search.roots.isEmpty = true
  · rw [if_pos hroots, if_pos (show search.hushed.roots.isEmpty = true from hroots)]
    rfl
  rw [if_neg hroots, if_neg (show ¬search.hushed.roots.isEmpty = true from hroots)]
  by_cases hthreads : search.threads = 0
  · rw [if_pos hthreads, if_pos (show search.hushed.threads = 0 from hthreads)]
    rfl
  rw [if_neg hthreads, if_neg (show ¬search.hushed.threads = 0 from hthreads),
    show Configuration.checkDepths search.hushed.minDepth search.hushed.maxDepth =
      Configuration.checkDepths search.minDepth search.maxDepth from rfl]
  cases Configuration.checkDepths search.minDepth search.maxDepth with
  | error failure => rfl
  | ok _ => cases search.effectiveMatcher <;> rfl

theorem Plan.Steady.hushed (h : plan.Steady) : plan.hushed.Steady := ⟨h.onMatch, h.onFailure⟩

/-- A search whose matcher breaks off on some entries, and whose sink never does, finds what the
search finds whose matcher rejects them.  Every run that has an outcome and was not interrupted
returns results, and they agree with those of any such run of the other search; the dispatcher has
counted the places that were looked at, are of a kind and a depth that is reported, and on which the
matcher breaks off.  A run that cannot be continued has an outcome, and none can be continued for
ever. -/
theorem panic_costs_entry (hplain : disk.Plain) (hplan : search.plan disk = .ok plan)
    (hsteady : plan.Steady) :
    search.hushed.plan disk = .ok plan.hushed ∧
    (∀ {bystanders : List (List Bool)} {reliable : Bool} {history : History Place}
        {m : Machine Place Examination Record} {result : Except Failure Results},
      Runs (workload plan) reliable (search.machine disk bystanders) history m →
      m.world.interrupted = false → outcome history m.world = some result →
        ∃ results, result = .ok results ∧ results.completed = true ∧
          results.dispatch.panicked = m.world.examined.countP (breaksAt plan) ∧
          ∀ {bystanders' : List (List Bool)} {reliable' : Bool} {history' : History Place}
              {m' : Machine Place Examination Record} {result' : Except Failure Results},
            Runs (workload plan.hushed) reliable' (search.hushed.machine disk bystanders')
              history' m' →
            m'.world.interrupted = false → outcome history' m'.world = some result' →
              ∃ results', result' = .ok results' ∧ results.Agrees results' ∧
                m.world.examined.Perm m'.world.examined ∧ results'.dispatch.panicked = 0) ∧
    (∀ {bystanders : List (List Bool)} {history : History Place}
        {m : Machine Place Examination Record},
      Runs (workload plan) true (search.machine disk bystanders) history m →
      (∀ t, m.step (workload plan) t true = none) → (outcome history m.world).isSome = true) ∧
    ∀ bystanders : List (List Bool), ¬∃ path : Nat → Machine Place Examination Record,
      path 0 = search.machine disk bystanders ∧
        ∀ k, ∃ t canSpawn occurred,
          (path k).step (workload plan) t canSpawn = some (path (k + 1), occurred) := by
  have hplan' : search.hushed.plan disk = .ok plan.hushed := by
    rw [plan_hushed, hplan]
    rfl
  refine ⟨hplan', ?_, ?_, ?_⟩
  · intro _ _ history m result run hgoes hresult
    obtain ⟨stats, rfl, hagrees, hsubmitted, hexecuted, hpanicked⟩ :=
      finds_of_steady hplain hplan hsteady run hgoes hresult
    refine ⟨_, rfl, by rw [resultsOf, hgoes]; rfl, hpanicked, ?_⟩
    intro _ _ history' m' result' run' hgoes' hresult'
    obtain ⟨stats', rfl, hagrees', hsubmitted', hexecuted', hpanicked'⟩ :=
      finds_of_steady hplain hplan' hsteady.hushed run' hgoes' hresult'
    -- both records agree with that of the walk, which nobody who breaks off takes part in
    rw [sequential_hushed] at hagrees'
    rw [reached_hushed] at hsubmitted' hexecuted'
    have hsame := hagrees.trans hagrees'.symm
    refine ⟨_, rfl, ?_, hsame.examined, ?_⟩
    · exact hsame.resultsOf (hsubmitted.trans hsubmitted'.symm) (hexecuted.trans hexecuted'.symm)
    · rw [resultsOf, hpanicked', List.countP_eq_zero]
      intro p _
      rw [breaksAt_hushed]
      exact Bool.false_ne_true
  · intro _ history m run hrest
    exact outcome_of_rest hplan run hrest
  · rintro _ ⟨path, -, hpath⟩
    exact Machine.no_infinite_run (ranking plan) ⟨path, hpath⟩

/-- A search below `r` whose matcher breaks off on directories. -/
def wary : Search :=
  { Search.empty with
    roots := [⟨[114]⟩]
    matcher := some fun e => if e.kind.isDir then .panic "a directory" else .accept
    threads := 2
    minDepth := 1
    keepsPaths := true }

def waryPlan : Plan where
  disk := nest.disk
  matcher := fun e => if e.kind.isDir then .panic "a directory" else .accept
  typeFilter := .any
  minDepth := 1
  maxDepth := deepest
  sink := none
  watchesFlag := false
  keepsPaths := true
  keepsFailures := false

/-- The two files are found and one body breaks off: the matcher is not asked about `r`, which is
not deep enough. -/
theorem panic_costs_entry_wary :
    ∃ history m results history' m' results',
      Runs (workload waryPlan) true (wary.machine nest.disk []) history m ∧
      outcome history m.world = some (.ok results) ∧
      Runs (workload waryPlan.hushed) true (wary.hushed.machine nest.disk []) history' m' ∧
      outcome history' m'.world = some (.ok results') ∧
      results.Agrees results' ∧ results.completed = true ∧
      results.matched = 2 ∧ results.dispatch.executed = 4 ∧ results.dispatch.panicked = 1 ∧
      results'.dispatch.panicked = 0 := by
  have hplan : wary.plan nest.disk = .ok waryPlan := rfl
  obtain ⟨-, hcosts, -, -⟩ := panic_costs_entry nest_plain hplan ⟨nofun, nofun⟩
  have hrun := Machine.runs_settle (workload waryPlan) 300 (wary.machine nest.disk [])
  have hrun' := Machine.runs_settle (workload waryPlan.hushed) 300 (wary.hushed.machine nest.disk [])
  have hended : ((outcome ((wary.machine nest.disk []).settle (workload waryPlan) 300).2
      ((wary.machine nest.disk []).settle (workload waryPlan) 300).1.world).bind
        Except.toOption).map (fun results =>
          (results.matched, results.dispatch.executed, results.dispatch.panicked)) =
      some (2, 4, 1) := by
    rfl
  have hended' : (outcome
      ((wary.hushed.machine nest.disk []).settle (workload waryPlan.hushed) 300).2
      ((wary.hushed.machine nest.disk []).settle (workload waryPlan.hushed) 300).1.world).isSome =
      true := by
    rfl
  obtain ⟨results, hresults, hcounts⟩ := Option.map_eq_some_iff.mp hended
  obtain ⟨result, hresult, hok⟩ := Option.bind_eq_some_iff.mp hresults
  obtain ⟨result', hresult'⟩ := Option.isSome_iff_exists.mp hended'
  obtain ⟨results, rfl, hcompleted, hpanicked, hagrees⟩ := hcosts hrun rfl hresult
  obtain ⟨results', rfl, hagrees, -, hnone⟩ := hagrees hrun' rfl hresult'
  obtain rfl := Option.some.inj hok
  obtain ⟨hmatched, hexecuted, hcount⟩ : _ = 2 ∧ _ = 4 ∧ _ = 1 := by simpa using hcounts
  exact ⟨_, _, results, _, _, results', hrun, hresult, hrun', hresult', hagrees, hcompleted,
    hmatched, hexecuted, hcount, hnone⟩

end Search

end Frontier
