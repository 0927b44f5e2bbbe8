/-
# Completed — what the results say of a search that may have been stopped

The flag, the note that it was seen, and the gate of the dispatcher are three
pieces of state that different threads change at different moments, and a
submission under way may be refused because of a job elsewhere.  The results
are truthful all the same:

    completed      each job that was accepted has looked at its place, and
                   none was refused
    not completed  some job that was accepted has passed its place over

In both cases each job that was accepted was executed, and behind the job that
closes the dispatcher none is accepted.
-/
import Frontier.Proofs.Dispatcher.Closing
import Frontier.Proofs.Search.Burden
import Frontier.Proofs.Search.Refinement
import Mathlib

namespace Frontier.Search

open Dispatcher
open Dispatcher.Machine (Runs History accepted)

variable {plan : Plan} {disk : Disk} {search : Search} {bystanders : List (List Bool)}
  {reliable : Bool} {m : Machine Place Examination Record} {history : History Place}

theorem completed_eq_false_iff (record : Record) (stats : Stats) :
    (resultsOf record stats).completed = false ↔ record.interrupted = true := by
  simp [resultsOf]

/-- The results of a search that has ended are truthful, whatever the plan of the search, whoever
raised or cleared the flag, and whenever. -/
theorem completed_iff_examined
    (run : Runs (workload plan) reliable (search.machine disk bystanders) history m)
    {result : Except Failure Results} (hresult : outcome history m.world = some result) :
    ∃ results, result = .ok results ∧
      (results.completed = true ↔
        m.world.examined.Perm ((accepted history).map Admitted.job) ∧
          ∀ t p, (t, .event (.refused p)) ∉ history) ∧
      (results.completed = false ↔ ∃ a ∈ accepted history, a.job ∈ m.world.skipped) ∧
      (m.world.examined ++ m.world.skipped).Perm ((accepted history).map Admitted.job) ∧
      results.dispatch.submitted = (accepted history).length ∧
      results.dispatch.executed = results.dispatch.submitted ∧
      ∀ {past later : History Place} {m₁ m₂ m₃ : Machine Place Examination Record} {t : ThreadId}
        {thread : Thread Place Examination Record} {k held : Nat} {canSpawn : Bool}
        {occurred : List (Occurrence Place)},
        Runs (workload plan) reliable (search.machine disk bystanders) past m₁ →
        m₁.threads[t]? = some thread → .run k held .close ∈ thread.frames →
        m₁.step (workload plan) t canSpawn = some (m₂, occurred) →
        Runs (workload plan) reliable m₂ later m₃ → accepted later = [] := by
  obtain ⟨stats, rfl, hdrained⟩ := exists_results_of_outcome run hresult
  obtain ⟨hq, hsubmitted, hexecuted⟩ := counts_of_drained run hdrained
  have hjobs := jobs_of_quiescent run hq
  have hnoticed := noticed_of_runs run
  refine ⟨_, rfl, ?_, ?_, hjobs, hsubmitted, hexecuted.trans hsubmitted.symm, ?_⟩
  · rw [← Bool.not_eq_false, completed_eq_false_iff, Bool.not_eq_true]
    constructor
    · intro hgoes
      have hskipped : m.world.skipped = [] := skipped_of_runs run hgoes
      rw [hskipped, List.append_nil] at hjobs
      exact ⟨hjobs, hnoticed.not_refused hgoes⟩
    · rintro ⟨hexamined, -⟩
      have hlength := (hexamined.trans hjobs.symm).length_eq
      rw [List.length_append] at hlength
      have hskipped : m.world.skipped = [] := List.length_eq_zero_iff.mp (by omega)
      rw [← Bool.not_eq_true]
      exact fun hnoted => hnoticed.skipped_iff.mp hnoted hskipped
  · rw [completed_eq_false_iff, hnoticed.skipped_iff]
    constructor
    · intro hskipped
      obtain ⟨p, others, hp⟩ := List.exists_cons_of_ne_nil hskipped
      have hmem : p ∈ m.world.skipped := by
        rw [hp]
        exact List.mem_cons_self
      obtain ⟨a, ha, rfl⟩ := List.mem_map.mp (hjobs.subset (List.mem_append_right _ hmem))
      exact ⟨a, ha, hmem⟩
    · rintro ⟨a, -, hmem⟩
      exact List.ne_nil_of_mem hmem
  · intro past later m₁ m₂ m₃ t thread k held canSpawn occurred _ hthread hframe hstep hlater
    have hshut := Machine.shuts_of_step hthread hframe rfl hstep
    exact (Machine.Runs.shut hlater hshut).2

/-- A sink that raises the flag at the first match. -/
def impatient : Sink := ⟨fun _ _ => ⟨true, none⟩, fun _ => .none⟩

/-- A search on two threads that is stopped by its sink. -/
def stopped : Search :=
  { Search.empty with
    roots := [⟨[114]⟩]
    threads := 2
    sink := some impatient
    stopFlag := some false }

def stoppedPlan : Plan where
  disk := nest.disk
  matcher := fun _ => .accept
  typeFilter := .any
  minDepth := 0
  maxDepth := deepest
  sink := some impatient
  watchesFlag := true
  keepsPaths := false
  keepsFailures := false

/-- The root is looked at; the two places in it are passed over. -/
theorem completed_iff_examined_stopped :
    ∃ history m results, stopped.plan nest.disk = .ok stoppedPlan ∧
      Runs (workload stoppedPlan) true (stopped.machine nest.disk []) history m ∧
      outcome history m.world = some (.ok results) ∧ results.completed = false ∧
      m.world.examined.length = 1 ∧ m.world.skipped.length = 2 ∧
      results.dispatch.executed = 3 := by
  have hrun := Machine.runs_settle (workload stoppedPlan) 300 (stopped.machine nest.disk [])
  have hended : (outcome ((stopped.machine nest.disk []).settle (workload stoppedPlan) 300).2
      ((stopped.machine nest.disk []).settle
        (workload stoppedPlan) 300).1.world).isSome = true := by
    rfl
  obtain ⟨result, hresult⟩ := Option.isSome_iff_exists.mp hended
  obtain ⟨results, rfl, -, hcompleted, hjobs, hsubmitted, hexecuted, -⟩ :=
    completed_iff_examined hrun hresult
  have hexamined : ((stopped.machine nest.disk []).settle (workload stoppedPlan)
      300).1.world.examined.length = 1 := by rfl
  have hskipped : ((stopped.machine nest.disk []).settle (workload stoppedPlan)
      300).1.world.skipped.length = 2 := by rfl
  have hcount := hjobs.length_eq
  rw [List.length_append, List.length_map, hexamined, hskipped] at hcount
  refine ⟨_, _, results, rfl, hrun, hresult, ?_, hexamined, hskipped, by omega⟩
  rw [hcompleted]
  obtain ⟨p, others, hp⟩ := List.exists_cons_of_length_pos (by rw [hskipped]; exact Nat.two_pos)
  have hmem : p ∈ ((stopped.machine nest.disk []).settle (workload stoppedPlan)
      300).1.world.skipped := by
    rw [hp]
    exact List.mem_cons_self
  obtain ⟨a, ha, rfl⟩ := List.mem_map.mp (hjobs.subset (List.mem_append_right _ hmem))
  exact ⟨a, ha, hmem⟩

end Frontier.Search
