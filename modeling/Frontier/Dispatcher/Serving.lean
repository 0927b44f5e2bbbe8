import Frontier.Dispatcher.Filling

/-!
# Serving the queue

A worker owns a slot.  It takes jobs and runs them until it finds the queue empty; then it gives the
slot back and looks once more, because a job may have been pushed by a thread that found no free
slot.  The handles of a job are dropped when its body has ended, and only then is it counted.  A job
never drains the dispatcher that runs it, not even when it drops the last handle.
-/
namespace Frontier.Dispatcher

variable {J B ω : Type}

/-- Where a thread is that serves the queue.  It owns a slot up to `release`. -/
inductive Serving (J B : Type) where
  | pop
  /-- A body is between two moves.  It owns so many handles. -/
  | run (ticket handles : Nat) (body : B)
  | submitting (ticket handles : Nat) (call : Submitting J) (next : Bool → B)
  | starting (ticket handles : Nat) (call : Starting) (next : B)
  /-- The body has ended.  One of its handles is dropped, and so many follow. -/
  | shed (left : Nat) (ending : Ending)
  | countExecuted (ending : Ending)
  | countPanicked (message : String)
  | complete
  | release
  | checkEmpty
  | reacquire

namespace Serving

/-- The thread owns a slot of its own. -/
def ownsSlot : Serving J B → Bool
  | checkEmpty | reacquire => false
  | _ => true

/-- A body is running. -/
def isRunning : Serving J B → Bool
  | run .. | submitting .. | starting .. => true
  | _ => false

/-- A body has ended that owns so many handles. -/
def ended : Nat → Ending → Serving J B
  | 0, e => countExecuted e
  | n + 1, e => shed n e

/-- The question needs a handle. -/
def needsHandle : Question → Bool
  | .worker => false
  | .queued | .active | .lifecycle | .accepting => true

/-- What happens when a body makes its next move.  There is no step while the body waits, nor for a
call that needs a handle when the body owns none. -/
def move (number? : Option Nat) (world : ω) (s : Shared J) (ticket handles : Nat) :
    Move J B ω → Option (ω × Stepped J (Progress (Serving J B) Unit))
  | .finish =>
    some (world, .noted s (.more (ended handles .finished)) [.ended ticket .finished])
  | .panic message =>
    some (world, .noted s (.more (ended handles (.panicked message)))
      [.ended ticket (.panicked message)])
  | .act effect =>
    let (world', body) := effect world
    some (world', .silent s (.more (run ticket handles body)))
  | .wait ready next =>
    if ready world then some (world, .silent s (.more (run ticket handles next))) else none
  | .submit job given next =>
    if given < handles then
      some (world, .silent s (.more (submitting ticket (handles - given) (.enroll job given) next)))
    else none
  | .start next =>
    if 0 < handles then some (world, .silent s (.more (starting ticket handles .start next)))
    else none
  | .close next =>
    if 0 < handles then some (world, .silent s.close (.more (run ticket handles next))) else none
  | .ask question next =>
    if needsHandle question && handles == 0 then none
    else some (world, .silent s (.more (run ticket handles (next (s.answer number? question)))))
  | .clone next =>
    if 0 < handles then some (world, .silent s.addHandle (.more (run ticket (handles + 1) next)))
    else none
  | .drop next =>
    if 0 < handles then some (world, .silent s.dropHandle (.more (run ticket (handles - 1) next)))
    else none

/-- One step of serving, on the worker of that number. -/
def step (w : Workload J B ω) (number? : Option Nat) (n : Neighbours) (world : ω) (s : Shared J) :
    Serving J B → Option (ω × Stepped J (Progress (Serving J B) Unit))
  | pop =>
    match s.pop? with
    | some (a, s') =>
      some (world, .noted s' (.more (run a.ticket a.handles (w.enter a.job))) [.popped a])
    | none => some (world, .noted s (.more release) [.nothingPopped])
  | run ticket handles body => move number? world s ticket handles (w.move body)
  | submitting ticket handles call next =>
    some (world, (call.step n s).map fun p => .more <| p.embed
      (fun call => submitting ticket handles call next) fun ok => run ticket handles (next ok))
  | starting ticket handles call next =>
    some (world, (call.step n s).map fun p => .more <| p.embed
      (fun call => starting ticket handles call next) fun _ => run ticket handles next)
  | shed left ending => some (world, .silent s.dropHandle (.more (ended left ending)))
  | countExecuted ending =>
    some (world, .silent s.countExecuted <| .more <| match ending with
      | .finished => complete
      | .panicked message => countPanicked message)
  | countPanicked message =>
    some (world, .noted s.countPanicked (.more complete) [.complained message])
  | complete => some (world, .silent s.complete (.more pop))
  | release => some (world, .noted s.release.1 (.more checkEmpty) s.release.2)
  | checkEmpty =>
    some (world, .silent s (if s.queue.isEmpty then .done () else .more reacquire))
  | reacquire =>
    match s.acquire? with
    | some s' => some (world, .silent s' (.more pop))
    | none => some (world, .silent s (.done ()))

end Serving

end Frontier.Dispatcher
