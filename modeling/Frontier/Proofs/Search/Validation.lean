/-
# Validation — a configuration is checked as the search it asks for is

Arguments are checked when they become a configuration, and a search is checked when it is
begun.  The type of entries is read only for the configuration; behind that both make the
same checks in the same order (`checks`).

    the configuration is refused for anything but the type
        the search of the same values is refused with the same failure,
        before there is a dispatcher                            (`Comes.refused`)
    the configuration is accepted
        its search passes its checks, and behind them it has no failure left
                                                                (`Comes.isOk`)

`Comes` is what a search may come to under any scheduler; `run` is one of these ways
(`comes_of_run`).
-/
import Frontier.CommandLine.Program
import Frontier.Proofs.Search.Completed
import Mathlib

namespace Frontier.Search

open Dispatcher CommandLine
open Dispatcher.Machine (Runs History)

variable {disk : Disk} {search : Search} {plan : Plan} {args : Arguments}
  {bystanders : List (List Bool)} {history : History Place} {record : Record}
  {result : Except Failure Results}

/-! ## What a search may come to -/

/-- A search is refused before it has done anything, or the machine runs until there is an
outcome, whatever its scheduler does and whoever changes the flag meanwhile. -/
inductive Comes (disk : Disk) (search : Search) (bystanders : List (List Bool)) :
    History Place → Record → Except Failure Results → Prop
  | refused {failure : Failure} (hplan : search.plan disk = .error failure) :
      Comes disk search bystanders [] (Record.empty (search.stopFlag.getD false)) (.error failure)
  | ended {plan : Plan} {reliable : Bool} {history : History Place}
      {m : Machine Place Examination Record} {result : Except Failure Results}
      (hplan : search.plan disk = .ok plan)
      (run : Runs (workload plan) reliable (search.machine disk bystanders) history m)
      (hresult : outcome history m.world = some result) :
      Comes disk search bystanders history m.world result

/-- A search that has passed its checks and comes to anything comes to results. -/
theorem Comes.isOk (h : Comes disk search bystanders history record result)
    (hplan : search.plan disk = .ok plan) : ∃ results, result = .ok results := by
  cases h with
  | refused hrefused => cases hplan.symm.trans hrefused
  | ended _ run hresult =>
      obtain ⟨stats, rfl, -⟩ := exists_results_of_outcome run hresult
      exact ⟨_, rfl⟩

/-- A search that is refused comes to that failure only, and nothing has happened. -/
theorem Comes.eq_of_refused (h : Comes disk search bystanders history record result)
    {failure : Failure} (hplan : search.plan disk = .error failure) :
    history = [] ∧ record = Record.empty (search.stopFlag.getD false) ∧ result = .error failure := by
  cases h with
  | refused hrefused =>
      cases hplan.symm.trans hrefused
      exact ⟨rfl, rfl, rfl⟩
  | ended haccepted => cases hplan.symm.trans haccepted

/-- A search that has passed its checks comes to the outcome of one schedule. -/
theorem run_eq_elim (hplan : search.plan disk = .ok plan) {m : Machine Place Examination Record}
    (hsettle : (search.machine disk []).settle (workload plan) patience = (m, history)) :
    search.run disk = (outcome history m.world).elim (.ok none) fun result =>
      result.map fun results => some ⟨results, m.world, history⟩ := by
  rw [run, hplan]
  dsimp only [bind, Except.bind]
  rw [hsettle]
  dsimp only
  cases outcome history m.world with
  | none => rfl
  | some result => cases result <;> rfl

/-- Whatever `run` comes to, the search may come to. -/
theorem comes_of_run :
    (∀ finished, search.run disk = .ok (some finished) →
      Comes disk search [] finished.history finished.record (.ok finished.results)) ∧
    ∀ failure, search.run disk = .error failure →
      ∃ history record, Comes disk search [] history record (.error failure) := by
  cases hplan : search.plan disk with
  | error refusal =>
      have hrun : search.run disk = .error refusal := by
        rw [run, hplan]
        rfl
      rw [hrun]
      constructor
      · intro finished hfinished
        cases hfinished
      · intro failure hfailure
        cases hfailure
        exact ⟨_, _, .refused hplan⟩
  | ok plan =>
      have hruns := Machine.runs_settle (workload plan) patience (search.machine disk [])
      rcases hsettle : (search.machine disk []).settle (workload plan) patience with ⟨m, history⟩
      rw [hsettle] at hruns
      rw [run_eq_elim hplan hsettle]
      cases hresult : outcome history m.world with
      | none =>
          constructor
          · intro finished hfinished
            cases hfinished
          · intro failure hfailure
            cases hfailure
      | some result =>
          have hcomes := Comes.ended hplan hruns hresult
          constructor
          · intro finished hfinished
            cases result <;> cases hfinished
            exact hcomes
          · intro failure hfailure
            cases result <;> cases hfailure
            exact ⟨_, _, hcomes⟩

/-! ## The checks -/

/-- The search has the values that the arguments give. -/
structure Takes (search : Search) (args : Arguments) : Prop where
  roots : search.roots = if args.roots.isEmpty then [Configuration.currentDirectory] else args.roots
  pattern : search.pattern = Configuration.patternOf args
  matcher : search.matcher = none
  threads : search.threads = args.jobs
  minDepth : search.minDepth = args.minDepth.getD 0
  maxDepth : search.maxDepth = args.maxDepth

/-- The checks that are made twice. -/
def checks (args : Arguments) : Except Failure Unit :=
  if args.jobs = 0 then .error (.invalidThreadCount args.jobs)
  else do
    Configuration.checkDepths (args.minDepth.getD 0) args.maxDepth
    Configuration.checkPattern (Configuration.patternOf args)

/-- A pattern is refused as an argument and by a search alike. -/
theorem patternMatcher_map (pattern : Option NamePattern) :
    (patternMatcher pattern).map (fun _ => ()) = Configuration.checkPattern pattern := by
  cases pattern with
  | none => rfl
  | some p =>
      simp only [patternMatcher, Configuration.checkPattern]
      cases p.compile <;> rfl

/-- Behind the type, a configuration is refused by the checks only. -/
theorem ofArguments_map {filter : TypeFilter} (hfilter : Configuration.typeFilterOf args = .ok filter) :
    (Configuration.ofArguments args).map (fun _ => ()) = checks args := by
  simp only [Configuration.ofArguments, hfilter, checks, bind, Except.bind]
  split
  · rfl
  · cases Configuration.checkDepths (args.minDepth.getD 0) args.maxDepth with
    | error _ => rfl
    | ok _ => cases Configuration.checkPattern (Configuration.patternOf args) <;> rfl

/-- A search that has a root is refused by the checks only. -/
theorem plan_map (h : search.Takes args) (disk : Disk) :
    (search.plan disk).map (fun _ => ()) = checks args := by
  have hroots : search.roots.isEmpty = false := by
    rw [h.roots]
    split
    · rfl
    · next hsome => simpa using hsome
  simp only [plan, effectiveMatcher, hroots, h.matcher, h.threads, h.minDepth, h.maxDepth, h.pattern,
    checks, Bool.false_eq_true, if_false, pure, Except.pure, bind, Except.bind]
  split
  · rfl
  · cases Configuration.checkDepths (args.minDepth.getD 0) args.maxDepth with
    | error _ => rfl
    | ok _ =>
        rw [← patternMatcher_map]
        cases patternMatcher (Configuration.patternOf args) <;> rfl

/-- A type that is none is the only failure before the checks. -/
theorem typeFilterOf_eq_error {failure : Failure}
    (h : Configuration.typeFilterOf args = .error failure) : ∃ text, failure = .unknownTypeFilter text := by
  unfold Configuration.typeFilterOf at h
  split at h
  · unfold TypeFilter.ofString at h
    split at h <;> cases h
    exact ⟨_, rfl⟩
  · cases h

/-- A configuration is refused with a failure but for the type exactly if a search of the same
values is. -/
theorem plan_eq_error (h : search.Takes args) {failure : Failure}
    (hfailure : ∀ text, failure ≠ .unknownTypeFilter text)
    (hargs : Configuration.ofArguments args = .error failure) : search.plan disk = .error failure := by
  cases hfilter : Configuration.typeFilterOf args with
  | error e =>
      -- the type is looked at first, and its failure is the one that is left out
      have hfirst : Configuration.ofArguments args = .error e := by
        simp only [Configuration.ofArguments, hfilter, bind, Except.bind]
      cases hargs.symm.trans hfirst
      obtain ⟨text, rfl⟩ := typeFilterOf_eq_error hfilter
      exact absurd rfl (hfailure text)
  | ok filter =>
      have hsame := (plan_map h disk).trans (ofArguments_map hfilter).symm
      rw [hargs] at hsame
      cases hplan : search.plan disk with
      | ok _ => rw [hplan] at hsame; cases hsame
      | error _ => rw [hplan] at hsame; cases hsame; rfl

/-- A configuration has the values of its arguments. -/
theorem eq_of_ofArguments {c : Configuration} (hargs : Configuration.ofArguments args = .ok c) :
    ∃ typeFilter, Configuration.typeFilterOf args = .ok typeFilter ∧ c = {
      roots := if args.roots.isEmpty then [Configuration.currentDirectory] else args.roots
      pattern := Configuration.patternOf args
      typeFilter
      minDepth := args.minDepth.getD 0
      maxDepth := args.maxDepth
      threads := args.jobs
      verbose := args.verbose } := by
  cases hfilter : Configuration.typeFilterOf args with
  | error _ =>
      simp only [Configuration.ofArguments, hfilter, bind, Except.bind] at hargs
      cases hargs
  | ok typeFilter =>
      simp only [Configuration.ofArguments, hfilter, bind, Except.bind] at hargs
      refine ⟨typeFilter, rfl, ?_⟩
      split at hargs
      · cases hargs
      · cases hdepths : Configuration.checkDepths (args.minDepth.getD 0) args.maxDepth with
        | error _ => rw [hdepths] at hargs; cases hargs
        | ok _ =>
            rw [hdepths] at hargs
            cases hpattern : Configuration.checkPattern (Configuration.patternOf args) with
            | error _ => rw [hpattern] at hargs; cases hargs
            | ok _ => rw [hpattern] at hargs; cases hargs; rfl

/-- The search of a configuration that was accepted passes its checks. -/
theorem exists_plan_of_ofArguments {c : Configuration}
    (hargs : Configuration.ofArguments args = .ok c) (disk : Disk) (sink : Option Sink)
    (stopFlag : Option Bool) (keepsPaths keepsFailures : Bool) :
    ∃ plan, Search.plan disk { ofConfiguration c with sink, stopFlag, keepsPaths, keepsFailures } =
      .ok plan := by
  obtain ⟨filter, hfilter, rfl⟩ := eq_of_ofArguments hargs
  generalize hsearch : ({ ofConfiguration _ with sink, stopFlag, keepsPaths, keepsFailures } : Search) =
    search
  have htakes : search.Takes args := by
    subst hsearch
    exact ⟨rfl, rfl, rfl, rfl, rfl, rfl⟩
  have hsame := (plan_map htakes disk).trans (ofArguments_map hfilter).symm
  rw [hargs] at hsame
  cases hplan : search.plan disk with
  | error _ => rw [hplan] at hsame; cases hsame
  | ok plan => exact ⟨plan, rfl⟩

/-! ## Both validators -/

/-- The search returns results under every scheduler: no job of a root is refused, a run that
cannot be continued has an outcome, none can be continued for ever, and no outcome is a failure. -/
structure Succeeds (disk : Disk) (search : Search) (bystanders : List (List Bool)) : Prop where
  results : ∀ {history record result}, Comes disk search bystanders history record result →
    ∃ results, result = .ok results
  admitted : ∀ {plan reliable history m},
    Runs (workload plan) reliable (search.machine disk bystanders) history m →
      rootRefused history = false
  returns : ∃ plan, search.plan disk = .ok plan ∧ ∀ {history m},
    Runs (workload plan) true (search.machine disk bystanders) history m →
      (∀ t, m.step (workload plan) t true = none) → (outcome history m.world).isSome = true
  ends : ∀ {plan}, ¬∃ path : Nat → Machine Place Examination Record,
    path 0 = search.machine disk bystanders ∧
      ∀ k, ∃ t canSpawn occurred,
        (path k).step (workload plan) t canSpawn = some (path (k + 1), occurred)

theorem succeeds_of_plan (hplan : search.plan disk = .ok plan) (bystanders : List (List Bool)) :
    Succeeds disk search bystanders where
  results hcomes := hcomes.isOk hplan
  admitted run := rootRefused_eq_false (not_refused_of_runs run)
  returns := ⟨plan, hplan, fun run hrest => outcome_of_rest hplan run hrest⟩
  ends := by
    rintro plan ⟨path, -, hpath⟩
    exact Machine.no_infinite_run (ranking plan) ⟨path, hpath⟩

/-- Where a configuration is accepted, its search returns results, with any sink and any flag, and
so the program does not end in a failed search.  Where one is refused, and not for the type, a
search of the same values is refused with the same failure, and nothing has happened. -/
theorem validators_agree (args : Arguments) (disk : Disk) (bystanders : List (List Bool)) :
    (∀ c, Configuration.ofArguments args = .ok c →
      (∀ (sink : Option Sink) (stopFlag : Option Bool) (keepsPaths keepsFailures : Bool),
        Succeeds disk { ofConfiguration c with sink, stopFlag, keepsPaths, keepsFailures }
          bystanders) ∧
      ∀ failure, c.search.run disk ≠ .error failure) ∧
    (∀ failure, Configuration.ofArguments args = .error failure →
      (∀ text, failure ≠ .unknownTypeFilter text) → ∀ search : Search, search.Takes args →
        search.run disk = .error failure ∧
        (∃ history record, Comes disk search bystanders history record (.error failure)) ∧
        ∀ history record result, Comes disk search bystanders history record result →
          history = [] ∧ record = Record.empty (search.stopFlag.getD false) ∧
            result = .error failure) := by
  refine ⟨fun c hargs => ⟨?_, ?_⟩, ?_⟩
  · intro sink stopFlag keepsPaths keepsFailures
    obtain ⟨plan, hplan⟩ :=
      exists_plan_of_ofArguments hargs disk sink stopFlag keepsPaths keepsFailures
    exact succeeds_of_plan hplan bystanders
  · intro failure hfailed
    obtain ⟨plan, hplan⟩ :=
      exists_plan_of_ofArguments hargs disk (some .quiet) (some false) false false
    obtain ⟨history, record, hcomes⟩ := comes_of_run.2 failure hfailed
    obtain ⟨results, hresults⟩ := hcomes.isOk hplan
    cases hresults
  · intro failure hargs hfailure search htakes
    have hplan : search.plan disk = .error failure := plan_eq_error htakes hfailure hargs
    refine ⟨?_, ⟨_, _, .refused hplan⟩, fun _ _ _ hcomes => hcomes.eq_of_refused hplan⟩
    rw [run, hplan]
    rfl

/-- Arguments with two mistakes behind a type that is right. -/
def mistaken : Arguments where
  type := some "f"
  minDepth := some 2
  maxDepth := some 1
  jobs := 1
  regex := some "("

/-- A search of the same values, which raises the flag at the first match. -/
def mistakenSearch : Search :=
  { Search.empty with
    roots := [Configuration.currentDirectory]
    pattern := some (.regex "(")
    threads := 1
    minDepth := 2
    maxDepth := some 1
    sink := some impatient }

/-- Without arguments a search succeeds whose flag is raised and cleared meanwhile; mistaken ones
are refused twice for their depths. -/
theorem validators_agree_mistaken :
    (∃ c, Configuration.ofArguments {} = .ok c ∧
      Succeeds nest.disk { ofConfiguration c with sink := some impatient, stopFlag := some false }
        [[true, false]]) ∧
    Configuration.ofArguments mistaken = .error (.invalidDepthRange 2 1) ∧
    mistakenSearch.Takes mistaken ∧
    mistakenSearch.run nest.disk = .error (.invalidDepthRange 2 1) := by
  have haccepted : Configuration.ofArguments {} = .ok ⟨[Configuration.currentDirectory], none, .any,
      0, none, 1, false⟩ := rfl
  have hrefused : Configuration.ofArguments mistaken = .error (.invalidDepthRange 2 1) := rfl
  have htakes : mistakenSearch.Takes mistaken := ⟨rfl, rfl, rfl, rfl, rfl, rfl⟩
  refine ⟨⟨_, haccepted, ?_⟩, hrefused, htakes, ?_⟩
  · exact ((validators_agree {} nest.disk [[true, false]]).1 _ haccepted).1 _ _ false false
  · exact ((validators_agree mistaken nest.disk []).2 _ hrefused (fun _ => nofun) _ htakes).1

end Frontier.Search
