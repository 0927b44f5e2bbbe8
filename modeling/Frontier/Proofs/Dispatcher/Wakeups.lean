/-
# Wakeups — a drain that has not returned can go on, or another thread can

A drain blocks in three places, and what it waits for is announced under three
different locks:

    parked    until no job is unfinished      announced by the last `complete`
    dozing    until no slot is held           announced by the last `release`
    join      until a worker has returned

Only a thread that sleeps at that moment is woken, and before it looks again a
new job may come.  It is enough that a sleeper has something to wait for
(`Runs.sleeping`): then a job is queued and attended, or a slot has an owner
(`Runs.disengaged`).
-/
import Frontier.Dispatcher.Schedule
import Frontier.Dispatcher.Script
import Frontier.Proofs.Dispatcher.Rest
import Mathlib

namespace Frontier.Dispatcher

variable {J B ω : Type} {w : Workload J B ω}

/-- The drain that a call is or has made. -/
def Call.drain? : Call J B → Option (Draining J B)
  | draining p => some p
  | dropping (.drain p) => some p
  | _ => none

/-- A frame in which no body is between its first move and its last is not blocked. -/
theorem Frame.not_blocked_of_bodies {f : Frame J B ω} {world : ω} (h : f.bodies = 0) :
    ¬f.Blocked w world := by
  cases f with
  | run k h' b => cases h
  | _ => exact id

namespace Machine

variable {limit : Nat} {world : ω} {first : List (Request J ω)}
  {others : List (List (Request J ω))} {reliable : Bool} {m : Machine J B ω}
  {history : History J} {t : ThreadId} {p : Draining J B}

/-- The thread is a client that has not returned from a drain, and this is where it is. -/
def DrainsAt (m : Machine J B ω) (t : ThreadId) (p : Draining J B) : Prop :=
  ∃ held call script,
    m.threads[t]? = some (.client ⟨held, some call, script⟩) ∧ call.drain? = some p

/-- A thread sleeps for the gate only while a job is unfinished. -/
theorem Runs.pending_pos (run : Runs w reliable (ofClients limit world first others) history m)
    (hself : t ∈ m.shared.gateSleepers) : 0 < m.shared.gate.pending :=
  Nat.pos_of_ne_zero (run.sleeping.gate (List.ne_nil_of_mem hself))

/-- A thread sleeps for the slots only while one is held. -/
theorem Runs.active_pos (run : Runs w reliable (ofClients limit world first others) history m)
    (hself : t ∈ m.shared.slotSleepers) : 0 < m.shared.slots.active :=
  Nat.pos_of_ne_zero (run.sleeping.slots (List.ne_nil_of_mem hself))

/-- While a client is in a call, a thread that is engaged can take a step, unless a body is
blocked. -/
theorem Runs.exists_step (run : Runs w true (ofClients limit world first others) history m)
    (hlimit : 0 < limit) {c : Client J B ω} (hclient : m.threads[t]? = some (.client c))
    (hcall : c.call ≠ none) (hbodies : ∀ f ∈ m.frames, ¬f.Blocked w m.world) :
    ∃ u th, m.threads[u]? = some th ∧ th.isEngaged = true ∧ m.step w u true ≠ none := by
  by_contra hstuck
  have hrest : ∀ u th, m.threads[u]? = some th → th.isEngaged = true →
      m.step w u true = none := by
    intro u th hth hengaged
    by_contra hstep
    exact hstuck ⟨u, th, hth, hengaged, hstep⟩
  exact hcall ((run.disengaged hlimit hrest hbodies).2 t c hclient)

/-- Where threads can be spawned no drain is ever stuck, however many there are and whatever else
goes on.  As long as one has not returned and no body runs, a thread that serves or is in the middle
of a call can take a step.  A drain that is parked and has not been woken has an unfinished job to
wait for, and one that dozes and has not been woken a slot that is held. -/
theorem Runs.drain_never_stuck
    (run : Runs w true (ofClients limit world first others) history m) (hlimit : 0 < limit)
    (hdrain : m.DrainsAt t p) :
    ((∀ f ∈ m.frames, f.bodies = 0) →
      ∃ u th, m.threads[u]? = some th ∧ th.isEngaged = true ∧ m.step w u true ≠ none) ∧
    (p = .parked → t ∈ m.shared.gateSleepers → 0 < m.shared.gate.pending) ∧
    (p = .dozing → t ∈ m.shared.slotSleepers → 0 < m.shared.slots.active) := by
  obtain ⟨held, call, script, hthread, -⟩ := hdrain
  refine ⟨?_, fun _ => run.pending_pos, fun _ => run.active_pos⟩
  intro hbodies
  refine run.exists_step hlimit hthread (Option.some_ne_none call) ?_
  intro f hf
  exact Frame.not_blocked_of_bodies (hbodies f hf)

/-- Two clients drain at once, and one has submitted a job before. -/
def awaited : Machine Script.Job Script.Body Script.World :=
  ofClients 1 .empty [.submit [.log "one"] 0, .clone, .give 1, .drain] [[.drain]]

/-- Both drains sleep for the gate and the worker has yet to take the job: it can. -/
theorem drain_never_stuck_awaited :
    ∃ history m, Runs Script.workload true awaited history m ∧
      m.shared.gateSleepers = [1, 0] ∧ 0 < m.shared.gate.pending ∧
      ∃ u th, m.threads[u]? = some th ∧ th.isEngaged = true ∧
        m.step Script.workload u true ≠ none := by
  have hrun := runs_settle Script.workload 22 awaited
  have hsleepers : (awaited.settle Script.workload 22).1.shared.gateSleepers = [1, 0] := by decide
  have hdrain : (awaited.settle Script.workload 22).1.DrainsAt 0 .parked :=
    ⟨1, .draining .parked, [], rfl, rfl⟩
  have hbodies : weigh Frame.bodies (awaited.settle Script.workload 22).1.frames = 0 := by decide
  obtain ⟨hstep, hpending, -⟩ := Runs.drain_never_stuck hrun Nat.one_pos hdrain
  refine ⟨_, _, hrun, hsleepers, hpending rfl ?_, hstep fun f hf => eq_zero_of_weigh hbodies hf⟩
  rw [hsleepers]
  decide

end Machine

end Frontier.Dispatcher
