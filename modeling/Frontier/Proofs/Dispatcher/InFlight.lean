/-
# In flight — what the count of the gate is made of

Admission, push, pop and completion are steps under three locks, and the gate
counts under one of them.  Between any two steps its count is

    jobs that are admitted and not pushed        `Frame.unpushed`
  + jobs in the queue
  + jobs that are popped and not completed       `Frame.uncompleted`

The first summand is also what the history says: as many jobs as were accepted
and not pushed (`Runs.length_accepted`).  A thread that is about to complete a
job has that job in its hands, so the count is never lowered at zero; and since
quiescence is declared at zero, no job is in any of the three places then.
-/
import Frontier.Dispatcher.Script
import Frontier.Proofs.Dispatcher.FirstInFirstOut
import Frontier.Proofs.Dispatcher.LatestFirst
import Mathlib

namespace Frontier.Dispatcher

variable {J B ω : Type} {w : Workload J B ω} {n : Neighbours} {v v' : ω} {s s' : Shared J}
  {f g : Frame J B ω} {fs gs below above : Multiset (Frame J B ω)} {q : Result}
  {r r' : Option Result} {told told' : List (Occurrence J)}

/-- The jobs of a submission that are admitted and not pushed. -/
def Frame.unpushed : Frame J B ω → Nat
  | count _ | push _ => 1
  | _ => 0

/-- The jobs that were popped and are not completed. -/
def Frame.uncompleted : Frame J B ω → Nat
  | run .. | submitting .. | starting .. | shed .. | countExecuted _ | countPanicked _
  | complete => 1
  | _ => 0

theorem Frame.pending_eq (f : Frame J B ω) : f.pending = f.unpushed + f.uncompleted := by
  cases f <;> rfl

theorem weigh_pending (fs : Multiset (Frame J B ω)) :
    weigh Frame.pending fs = weigh Frame.unpushed fs + weigh Frame.uncompleted fs := by
  rw [funext Frame.pending_eq, weigh, Multiset.sum_map_add]
  rfl

/-! ## What was accepted and not pushed -/

/-- A turn that accepts a job has it to push, and one that pushes a job has it no more. -/
theorem Turn.unpushed (h : Turn w n v s f v' s' fs r told) :
    weigh Frame.unpushed fs + ((told.filterMap Occurrence.event?).filterMap Event.pushed?).length =
      f.unpushed + (told.filterMap fun o => o.event?.bind Event.accepted?).length := by
  cases h with
  | handBack | giveUp | release =>
      obtain ⟨_, _, events, hrelease, htold⟩ := s.exists_release_eq
      rw [hrelease]
      rcases htold with rfl | rfl <;> rfl
  | finish | panic | shed =>
      rw [weigh_ended (x := 0) (fun _ => rfl) rfl]
      rfl
  | takeRegistry | join =>
      rw [weigh_joining (x := 0) (fun _ _ => rfl) rfl]
      rfl
  | _ => rfl

theorem Receives.unpushed_eq (h : Receives q g gs r told) :
    g.unpushed = weigh Frame.unpushed gs := by
  cases h <;> rfl

namespace Machine

variable {limit : Nat} {world : ω} {first : List (Request J ω)}
  {others : List (List (Request J ω))} {reliable : Bool} {m : Machine J B ω} {history : History J}

theorem Runs.length_accepted
    (run : Runs w reliable (ofClients limit world first others) history m) :
    (accepted history).length = (pushed history).length + weigh Frame.unpushed m.frames := by
  refine run.frames_induction (P := fun _ _ fs past =>
    (accepted past).length = (pushed past).length + weigh Frame.unpushed fs) ?_ ?_
  · rw [weigh_ofClients fun _ _ => rfl]
    rfl
  · intro n v s f v' s' fs below above rest r r' told told' past _ hturn hpasses _ h
    have hchange := hturn.unpushed
    rw [weigh_cons, weigh_add, hpasses.weigh_eq Receives.unpushed_eq] at h
    rw [accepted_append_map, pushed_append_map, List.filterMap_append, List.filterMap_append,
      hpasses.filterMap_event, hpasses.no_event, List.append_nil, List.append_nil,
      List.length_append, List.length_append, weigh_add, weigh_add]
    omega

/-- The gate counts the jobs that are accepted and not pushed, those in the queue and those that were
popped and are not completed, in every state.  So a job is completed only when one is counted, and
when quiescence has been declared there is none in any of the three places. -/
theorem Runs.pending_exact
    (run : Runs w reliable (ofClients limit world first others) history m) :
    m.shared.gate.pending = weigh Frame.unpushed m.frames + m.shared.queue.items.length +
        weigh Frame.uncompleted m.frames ∧
      (accepted history).length = (pushed history).length + weigh Frame.unpushed m.frames ∧
      (.complete ∈ m.frames → m.shared.complete.gate.pending + 1 = m.shared.gate.pending) ∧
      (m.shared.gate.lifecycle = .quiescent →
        weigh Frame.unpushed m.frames = 0 ∧ m.shared.queue.items = [] ∧
          weigh Frame.uncompleted m.frames = 0) := by
  have hjobs := run.accounted
  have hsum := hjobs.pending_eq
  rw [weigh_pending] at hsum
  refine ⟨by omega, run.length_accepted, ?_, ?_⟩
  · intro hcomplete
    have hone : 0 < weigh Frame.uncompleted m.frames := by
      obtain ⟨rest, hrest⟩ := Multiset.exists_cons_of_mem hcomplete
      rw [hrest, weigh_cons]
      exact Nat.add_pos_left Nat.one_pos _
    exact Nat.sub_add_cancel (by omega)
  · intro hquiescent
    have hnone := hjobs.pending_of_quiescent hquiescent
    exact ⟨by omega, hjobs.queue_of_quiescent hquiescent, by omega⟩

/-- A client submits three jobs and drains. -/
def scattered : Machine Script.Job Script.Body Script.World :=
  ofClients 1 .empty [.start, .submit [] 0, .submit [] 0, .submit [] 0, .drain] []

/-- The worker is about to complete the first job, the second is queued, and the third has yet to be
pushed. -/
def scatteredAbout : Machine Script.Job Script.Body Script.World × History Script.Job :=
  let (m, history) := scattered.settle Script.workload 25
  overtake Script.workload 3 m history

/-- All three are counted, and completing the first lowers the count.  In the end there is none. -/
theorem pending_exact_scattered :
    ∃ history m later m', Runs Script.workload true scattered history m ∧
      Runs Script.workload true m later m' ∧ weigh Frame.unpushed m.frames = 1 ∧
      m.shared.queue.items.length = 1 ∧ weigh Frame.uncompleted m.frames = 1 ∧
      m.shared.gate.pending = 3 ∧ m.shared.complete.gate.pending = 2 ∧
      m'.shared.gate.lifecycle = .quiescent ∧ weigh Frame.uncompleted m'.frames = 0 := by
  have hrun : Runs Script.workload true scattered scatteredAbout.2 scatteredAbout.1 :=
    runs_overtake 3 (runs_settle Script.workload 25 scattered)
  have hlater := runs_settle Script.workload 60 scatteredAbout.1
  have hunpushed : weigh Frame.unpushed scatteredAbout.1.frames = 1 := by decide
  have hqueue : scatteredAbout.1.shared.queue.items.length = 1 := by decide
  have huncompleted : weigh Frame.uncompleted scatteredAbout.1.frames = 1 := by decide
  have hmem : .complete ∈ scatteredAbout.1.frames :=
    mem_frames.mpr ⟨.worker 0 (some .complete), List.mem_of_getElem? (i := 1) rfl,
      Multiset.mem_singleton_self _⟩
  have hquiescent : (scatteredAbout.1.settle Script.workload 60).1.shared.gate.lifecycle =
    .quiescent := by decide
  obtain ⟨hpending, -, hcomplete, -⟩ := Runs.pending_exact hrun
  obtain ⟨-, -, -, hnone⟩ := Runs.pending_exact (hrun.trans hlater)
  rw [hunpushed, hqueue, huncompleted] at hpending
  have hlowered := hcomplete hmem
  rw [hpending] at hlowered
  exact ⟨_, _, _, _, hrun, hlater, hunpushed, hqueue, huncompleted, hpending,
    Nat.succ.inj hlowered, hquiescent, (hnone hquiescent).2.2⟩

end Machine

end Frontier.Dispatcher
