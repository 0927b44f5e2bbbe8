import Frontier.Dispatcher.Gate

/-!
# What jobs do

The dispatcher knows nothing of its jobs but the moves they make while they run.  A workload says how
the body of a job begins and which move it makes next; between two moves any other thread may run.
Bodies change a world that they share, and they call the dispatcher through handles that they own.
-/
namespace Frontier.Dispatcher

/-- What a body may ask its dispatcher. -/
inductive Question where
  /-- How many jobs are queued. -/
  | queued
  /-- How many slots are held. -/
  | active
  | lifecycle
  /-- Whether a job that came now would be admitted. -/
  | accepting
  /-- The number of the worker that runs the body. -/
  | worker
  deriving DecidableEq, Repr

/-- The answer to a question. -/
inductive Answer where
  | count (n : Nat)
  | stage (l : Lifecycle)
  | flag (b : Bool)
  /-- No number: the body runs on a draining thread. -/
  | worker (number? : Option Nat)
  deriving DecidableEq, Repr

/-- The next move of a body, for jobs `J`, bodies `B` and a world `ω`. -/
inductive Move (J B ω : Type) where
  /-- The body comes to its end. -/
  | finish
  /-- The body breaks off. -/
  | panic (message : String)
  /-- The body looks at the world and changes it. -/
  | act (effect : ω → ω × B)
  /-- The body waits until the world is ready. -/
  | wait (ready : ω → Bool) (next : B)
  /-- The body submits a job and moves some of its handles into it.  It learns whether the job was
  accepted. -/
  | submit (job : J) (handles : Nat) (next : Bool → B)
  | start (next : B)
  | close (next : B)
  | ask (question : Question) (next : Answer → B)
  /-- The body makes one more handle from one it owns. -/
  | clone (next : B)
  /-- The body drops one of its handles. -/
  | drop (next : B)

/-- How jobs run. -/
structure Workload (J B ω : Type) where
  /-- The body of a job. -/
  enter : J → B
  /-- The next move of a body. -/
  move : B → Move J B ω

/-- How a body ended. -/
inductive Ending where
  | finished
  | panicked (message : String)
  deriving DecidableEq, Repr

end Frontier.Dispatcher
