/-
# Refinement — the search on many threads refines the sequential search

Whatever the scheduler does, a search of a disk without symbolic links comes to
an end, and when it has come to an end without having been cut short, it has
found what the sequential search finds.

    what it comes to is right            `finds_of_runs`
    where nobody can go on it has ended  `outcome_of_rest`
    it does not go on for ever           `Machine.no_infinite_run`
-/
import Frontier.Proofs.Search.Agreement
import Frontier.Proofs.Search.Return
import Mathlib

namespace Frontier.Search

open Dispatcher
open Dispatcher.Machine (Runs History)

variable {plan : Plan} {disk : Disk} {search : Search}

/-- A search of a plain disk that has passed its checks, with a matcher and a sink that do not break
off, returns what the sequential search of its roots finds: so does every run that has an outcome
and was not interrupted, a run that cannot be continued has an outcome, and none can be continued
for ever. -/
theorem refines_sequential (hplain : disk.Plain) (hplan : search.plan disk = .ok plan)
    (hcalm : plan.Calm) (bystanders : List (List Bool)) :
    (∀ {reliable : Bool} {history : History Place} {m : Machine Place Examination Record}
        {result : Except Failure Results},
      Runs (workload plan) reliable (search.machine disk bystanders) history m →
      m.world.interrupted = false → outcome history m.world = some result →
        ∃ results, result = .ok results ∧ Finds plan search.roots m.world results) ∧
    (∀ {history : History Place} {m : Machine Place Examination Record},
      Runs (workload plan) true (search.machine disk bystanders) history m →
      (∀ t, m.step (workload plan) t true = none) → (outcome history m.world).isSome = true) ∧
    ¬∃ path : Nat → Machine Place Examination Record,
      path 0 = search.machine disk bystanders ∧
        ∀ k, ∃ t canSpawn occurred,
          (path k).step (workload plan) t canSpawn = some (path (k + 1), occurred) := by
  refine ⟨?_, ?_, ?_⟩
  · intro _ history m result run huninterrupted hresult
    exact finds_of_runs hplain hplan hcalm run huninterrupted hresult
  · intro history m run hrest
    exact outcome_of_rest hplan run hrest
  · rintro ⟨path, -, hpath⟩
    exact Machine.no_infinite_run (ranking plan) ⟨path, hpath⟩

/-- A directory `r` that holds a file `a` and a directory `b`, which holds a file `c`. -/
def nest : Volume where
  top := .dir [([114], .dir [([97], .file), ([98], .dir [([99], .file)])])]
  here := []

/-- A search from `r`, from `r/b` inside of it, and from `r` once more. -/
def nested : Search :=
  { Search.empty with
    roots := [⟨[114]⟩, ⟨[114, 47, 98]⟩, ⟨[114]⟩]
    threads := 2
    keepsPaths := true }

def nestedPlan : Plan where
  disk := nest.disk
  matcher := fun _ => .accept
  typeFilter := .any
  minDepth := 0
  maxDepth := deepest
  sink := none
  watchesFlag := false
  keepsPaths := true
  keepsFailures := false

theorem nest_plain : nest.disk.Plain := by
  have hletter (b : UInt8) (hdot : b ≠ Path.dot) (hseparator : b ≠ Path.separator) :
      Path.Proper [b] := ⟨by simp, by simp [hseparator.symm], by simp [hdot], by simp⟩
  have hb : Node.Plain (.dir [([99], .file)]) := by
    refine .dir (by decide) ?_ ?_
    · simpa using hletter 99 (by decide) (by decide)
    · simpa using Node.Plain.file
  have hr : Node.Plain (.dir [([97], .file), ([98], .dir [([99], .file)])]) := by
    refine .dir (by decide) ?_ ?_
    · simpa using ⟨hletter 97 (by decide) (by decide), hletter 98 (by decide) (by decide)⟩
    · simpa using ⟨Node.Plain.file, hb⟩
  refine Volume.plain_disk (.dir (by decide) ?_ ?_)
  · simpa using hletter 114 (by decide) (by decide)
  · simpa using hr

/-- The four places below `r` are found, each of them once. -/
theorem refines_sequential_nested :
    ∃ history m results, Runs (workload nestedPlan) true (nested.machine nest.disk []) history m ∧
      outcome history m.world = some (.ok results) ∧
      Finds nestedPlan nested.roots m.world results ∧ results.matched = 4 := by
  have hcalm : nestedPlan.Calm := ⟨nofun, nofun, nofun⟩
  obtain ⟨hfinds, -, -⟩ := refines_sequential nest_plain
    (show nested.plan nest.disk = .ok nestedPlan from rfl) hcalm []
  have hrun := Machine.runs_settle (workload nestedPlan) 300 (nested.machine nest.disk [])
  have hended : (outcome ((nested.machine nest.disk []).settle (workload nestedPlan) 300).2
      ((nested.machine nest.disk []).settle (workload nestedPlan) 300).1.world).isSome = true := by
    rfl
  obtain ⟨result, hresult⟩ := Option.isSome_iff_exists.mp hended
  obtain ⟨results, rfl, hfound⟩ := hfinds hrun rfl hresult
  refine ⟨_, _, results, hrun, hresult, hfound, ?_⟩
  have hmatched : (sequential nestedPlan nested.roots).matched = 4 := rfl
  rw [hfound.results_eq, resultsOf, hfound.agrees.matched, hmatched]

end Frontier.Search
