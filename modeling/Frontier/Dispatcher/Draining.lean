import Frontier.Dispatcher.Serving

/-!
# Draining

To drain a dispatcher is to let its jobs run, to wait until none is unfinished and no slot is held,
and to join the workers.  A thread that cannot spawn a worker serves the queue itself.  The drop of
the last handle drains what has not been drained.
-/
namespace Frontier.Dispatcher

variable {J B ω : Type}

/-! ## Reading the counters -/

/-- Where a thread is that reads the counters one after another. -/
inductive Reading where
  | submitted
  | executed (submitted : Nat)
  | panicked (submitted executed : Nat)
  | peak (submitted executed panicked : Nat)
  deriving DecidableEq, Repr

/-- One step of reading. -/
def Reading.step (s : Shared J) : Reading → Stepped J (Progress Reading Stats)
  | submitted => .silent s (.more (executed s.submitted))
  | executed a => .silent s (.more (panicked a s.executed))
  | panicked a b => .silent s (.more (peak a b s.panicked))
  | peak a b c => .silent s (.done ⟨a, b, c, s.slots.peak⟩)

/-! ## Draining -/

/-- Where a thread is that drains the dispatcher. -/
inductive Draining (J B : Type) where
  | opening (call : Starting)
  /-- No worker could be spawned. -/
  | acquireSelf
  | serve (point : Serving J B)
  | declare
  /-- The thread sleeps until no job is unfinished. -/
  | parked
  | checkIdle
  /-- The thread sleeps until no slot is held. -/
  | dozing
  | takeRegistry
  /-- The thread waits for a worker to end, then for the others. -/
  | join (worker : ThreadId) (others : List ThreadId)
  | reading (point : Reading)

namespace Draining

/-- The workers that are still to be joined. -/
def joining : List ThreadId → Draining J B
  | [] => reading .submitted
  | t :: rest => join t rest

/-- What follows an attempt to declare quiescence. -/
def afterSettle (settled : Bool) : Progress (Draining J B) Stats :=
  .more (if settled then checkIdle else parked)

/-- What follows a look at the slots. -/
def afterIdle (idle : Bool) : Progress (Draining J B) Stats :=
  .more (if idle then takeRegistry else dozing)

/-- One step of draining.  There is none while the thread sleeps or waits for a worker to end. -/
def step (w : Workload J B ω) (n : Neighbours) (world : ω) (s : Shared J) :
    Draining J B → Option (ω × Stepped J (Progress (Draining J B) Stats))
  | opening call =>
    some (world, (call.step n s).map fun p => .more <| p.embed opening fun filled =>
      if filled then declare else acquireSelf)
  | acquireSelf =>
    match s.acquire? with
    | some s' => some (world, .silent s' (.more (serve .pop)))
    | none => some (world, .silent s (.more declare))
  | serve point =>
    (point.step w none n world s).map fun (world', r) =>
      (world', r.map fun p => .more (p.embed serve fun _ => declare))
  | declare =>
    let (s', settled) := { s with gate := s.gate.drain }.settle n.self
    some (world, .silent s' (afterSettle settled))
  | parked =>
    if n.self ∈ s.gateSleepers then none
    else
      let (s', settled) := s.settle n.self
      some (world, .silent s' (afterSettle settled))
  | checkIdle =>
    let (s', idle) := s.awaitIdle n.self
    some (world, .silent s' (afterIdle idle))
  | dozing =>
    if n.self ∈ s.slotSleepers then none
    else
      let (s', idle) := s.awaitIdle n.self
      some (world, .silent s' (afterIdle idle))
  | takeRegistry => some (world, .silent { s with registry := [] } (.more (joining s.registry)))
  | join t rest => if n.finished t then some (world, .silent s (.more (joining rest))) else none
  | reading point =>
    some (world, (point.step s).map fun p => p.embed (fun r => .more (reading r)) .done)

end Draining

/-! ## Dropping a handle -/

/-- Where a thread is that drops a handle. -/
inductive Dropping (J B : Type) where
  /-- The handle may be dropped while a panic unwinds the thread. -/
  | decrement (unwinding : Bool)
  | checkLifecycle
  /-- The drop of the last handle holds one while it drains. -/
  | reclaim
  | drain (point : Draining J B)
  | forget

/-- One step of dropping a handle outside of a worker. -/
def Dropping.step (w : Workload J B ω) (n : Neighbours) (world : ω) (s : Shared J) :
    Dropping J B → Option (ω × Stepped J (Progress (Dropping J B) Unit))
  | decrement unwinding =>
    some (world, .silent s.dropHandle
      (if s.handles = 1 ∧ unwinding = false then .more checkLifecycle else .done ()))
  | checkLifecycle =>
    some (world, .silent s (if s.gate.lifecycle = .quiescent then .done () else .more reclaim))
  | reclaim => some (world, .silent s.addHandle (.more (drain (.opening .start))))
  | drain point =>
    (point.step w n world s).map fun (world', r) =>
      (world', r.map fun p => .more (p.embed drain fun _ => forget))
  | forget => some (world, .silent s.dropHandle (.done ()))

end Frontier.Dispatcher
