import Frontier.Dispatcher.Gate
import Frontier.Dispatcher.Queue
import Frontier.Dispatcher.Slots
import Frontier.Dispatcher.Workload

/-!
# The state that threads share

Gate, queue, slots and worker registry each have a lock of their own, and no thread holds two of
them; the counters are changed by single atomic accesses.  So every function here is one indivisible
step of a thread.

A thread that waits for the gate or for the slots is a sleeper until it is woken, and only a thread
that sleeps at that moment is woken.
-/
namespace Frontier.Dispatcher

/-- The index of a thread. -/
abbrev ThreadId := Nat

/-- A job that was admitted.  Tickets count admissions. -/
structure Admitted (J : Type) where
  ticket : Nat
  job : J
  /-- The handles that the job owns. -/
  handles : Nat
  deriving DecidableEq, Repr

/-- What all threads see. -/
structure Shared (J : Type) where
  gate : Gate
  /-- The threads that wait until no job is unfinished. -/
  gateSleepers : List ThreadId
  queue : Queue (Admitted J)
  slots : Slots
  /-- The threads that wait until no slot is held. -/
  slotSleepers : List ThreadId
  /-- Workers that were spawned and not yet joined. -/
  registry : List ThreadId
  /-- The number that the next worker gets. -/
  nextWorker : Nat
  submitted : Nat
  executed : Nat
  panicked : Nat
  /-- Handles that have not been dropped. -/
  handles : Nat
  /-- The ticket of the next job that is admitted. -/
  nextTicket : Nat
  deriving Repr

/-- What happened in a step. -/
inductive Event (J : Type) where
  | accepted (job : Admitted J)
  | refused (job : J)
  | pushed (job : Admitted J)
  | popped (job : Admitted J)
  /-- A worker found the queue empty. -/
  | nothingPopped
  /-- A body came to an end. -/
  | ended (ticket : Nat) (ending : Ending)
  /-- The complaint about a body that broke off. -/
  | complained (message : String)
  /-- A slot was given back though none was held. -/
  | overReleased
  | spawned (number : Nat)
  deriving DecidableEq, Repr

/-- The line that is written about a body that broke off. -/
def panicLine (message : String) : String := "job panicked: " ++ message

/-- What a dispatcher has done. -/
structure Stats where
  submitted : Nat
  executed : Nat
  panicked : Nat
  peakActive : Nat
  deriving DecidableEq, Repr

namespace Shared

variable {J : Type}

/-- A dispatcher of that many slots, with one handle. -/
def ofLimit (limit : Nat) : Shared J where
  gate := .fresh
  gateSleepers := []
  queue := .empty
  slots := .ofLimit limit
  slotSleepers := []
  registry := []
  nextWorker := 0
  submitted := 0
  executed := 0
  panicked := 0
  handles := 1
  nextTicket := 0

/-! ## The gate -/

/-- Admits a job that owns so many handles, and gives it the next ticket. -/
def enroll (s : Shared J) (job : J) (handles : Nat) : Except Failure (Admitted J × Shared J) := do
  let gate ← s.gate.enroll
  pure (⟨s.nextTicket, job, handles⟩, { s with gate, nextTicket := s.nextTicket + 1 })

/-- Counts a job as finished.  The last one wakes the threads that wait for the gate. -/
def complete (s : Shared J) : Shared J :=
  let gate := s.gate.complete
  { s with gate, gateSleepers := if gate.pending = 0 then [] else s.gateSleepers }

/-- Lets jobs run. -/
def start (s : Shared J) : Shared J := { s with gate := s.gate.start }

/-- Refuses all jobs from now on. -/
def close (s : Shared J) : Shared J := { s with gate := s.gate.close }

/-- Declares quiescence, or puts the thread to sleep if there are unfinished jobs. -/
def settle (s : Shared J) (self : ThreadId) : Shared J × Bool :=
  if s.gate.pending = 0 then ({ s with gate := s.gate.settle }, true)
  else ({ s with gateSleepers := self :: s.gateSleepers }, false)

/-! ## Queue and slots -/

/-- Puts a job into the queue. -/
def push (s : Shared J) (a : Admitted J) : Shared J := { s with queue := s.queue.push a }

/-- Takes a job out of the queue. -/
def pop? (s : Shared J) : Option (Admitted J × Shared J) :=
  match s.queue.pop with
  | .ok (a, queue) => some (a, { s with queue })
  | .error _ => none

/-- Takes a slot. -/
def acquire? (s : Shared J) : Option (Shared J) :=
  s.slots.acquire?.map fun slots => { s with slots }

/-- Gives a slot back.  The last one wakes the threads that wait for the slots. -/
def release (s : Shared J) : Shared J × List (Event J) :=
  match s.slots.release? with
  | some slots => ({ s with slots, slotSleepers := if slots.isIdle then [] else s.slotSleepers }, [])
  | none => (s, [.overReleased])

/-- Whether no slot is held; if one is, the thread goes to sleep. -/
def awaitIdle (s : Shared J) (self : ThreadId) : Shared J × Bool :=
  if s.slots.isIdle then (s, true) else ({ s with slotSleepers := self :: s.slotSleepers }, false)

/-! ## Counters -/

/-- Takes the number of a new worker. -/
def takeNumber (s : Shared J) : Nat × Shared J :=
  (s.nextWorker, { s with nextWorker := s.nextWorker + 1 })

/-- Counts a job as submitted. -/
def countSubmitted (s : Shared J) : Shared J := { s with submitted := s.submitted + 1 }

/-- Counts a job as executed. -/
def countExecuted (s : Shared J) : Shared J := { s with executed := s.executed + 1 }

/-- Counts a job as broken off. -/
def countPanicked (s : Shared J) : Shared J := { s with panicked := s.panicked + 1 }

/-- Makes a handle. -/
def addHandle (s : Shared J) : Shared J := { s with handles := s.handles + 1 }

/-- Drops a handle. -/
def dropHandle (s : Shared J) : Shared J := { s with handles := s.handles - 1 }

/-- The counters, all read at one moment. -/
def stats (s : Shared J) : Stats := ⟨s.submitted, s.executed, s.panicked, s.slots.peak⟩

/-- The answer to a question that a body asks on the worker of that number. -/
def answer (s : Shared J) (number? : Option Nat) : Question → Answer
  | .queued => .count s.queue.length
  | .active => .count s.slots.active
  | .lifecycle => .stage s.gate.lifecycle
  | .accepting => .flag s.gate.isAccepting
  | .worker => .worker number?

end Shared

end Frontier.Dispatcher
