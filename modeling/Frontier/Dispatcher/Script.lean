import Frontier.Dispatcher.Workload

/-!
# Jobs that follow a script

A job that is a list of actions: it writes lines, waits at named doors, calls the dispatcher and
breaks off as its list says.  It owns a handle if an action of its own needs one.
-/
namespace Frontier.Dispatcher.Script

/-- What a job does. -/
inductive Action where
  | log (line : String)
  /-- Wait until the door is open. -/
  | wait (door : String)
  /-- Submit a job, and write a line about it if that is wanted. -/
  | submit (reported : Bool) (job : List Action)
  | close
  | start
  | ask (question : Question)
  /-- Submit so many jobs that do the same one level further down. -/
  | tree (fanout depth : Nat)
  | panic (message : String)
  deriving Repr

/-- A job is its list of actions. -/
abbrev Job := List Action

/-- The action needs a handle. -/
def Action.needsHandle : Action → Bool
  | log _ | wait _ | panic _ | ask .worker => false
  | submit .. | close | start | ask _ | tree .. => true

/-- The handles that a job owns. -/
def handlesOf (job : Job) : Nat := if job.any (·.needsHandle) then 1 else 0

/-- What the jobs have written, and which doors are open. -/
structure World where
  log : List String
  opened : List String
  deriving DecidableEq, Repr

namespace World

/-- Nothing is written and every door is shut. -/
def empty : World := ⟨[], []⟩

/-- Writes a line. -/
def write (world : World) (line : String) : World := { world with log := world.log ++ [line] }

/-- Opens a door for good. -/
def unlock (world : World) (door : String) : World := { world with opened := door :: world.opened }

end World

/-- Where a body is in its script. -/
inductive Body where
  | next (actions : List Action)
  /-- The handle for a job is made. -/
  | handing (reported : Bool) (job : Job) (rest : List Action)
  | writing (line : String) (rest : List Action)
  deriving Repr

/-- The name of a stage of the lifecycle. -/
def stageName : Lifecycle → String
  | .created => "Created"
  | .admitting => "Admitting"
  | .draining => "Draining"
  | .quiescent => "Quiescent"

/-- The name of a worker thread. -/
def workerName (number : Nat) : String := s!"fff-worker-{number}"

/-- The line about an answer. -/
def answerLine : Question → Answer → String
  | .queued, .count n => s!"len:{n}"
  | .active, .count n => s!"active:{n}"
  | .lifecycle, .stage l => s!"state:{stageName l}"
  | .accepting, .flag b => s!"accepting:{b}"
  | .worker, .worker (some n) => s!"thread:{workerName n}"
  | _, _ => "thread:unnamed"

/-- The line about a submission. -/
def submitLine (accepted : Bool) : String :=
  if accepted then "submit:ok" else "submit:DispatcherClosed"

/-- How a body goes on after a submission. -/
def afterSubmit (reported : Bool) (rest : List Action) (accepted : Bool) : Body :=
  if reported then .writing (submitLine accepted) rest else .next rest

/-- The next move of a body. -/
def move : Body → Move Job Body World
  | .next [] => .finish
  | .next (.log line :: rest) => .act fun world => (world.write line, .next rest)
  | .next (.wait door :: rest) => .wait (fun world => door ∈ world.opened) (.next rest)
  | .next (.submit reported job :: rest) =>
    if handlesOf job = 0 then .submit job 0 (afterSubmit reported rest)
    else .clone (.handing reported job rest)
  | .next (.close :: rest) => .close (.next rest)
  | .next (.start :: rest) => .start (.next rest)
  | .next (.ask question :: rest) => .ask question fun a => .writing (answerLine question a) rest
  | .next (.tree _ 0 :: rest) => .act fun world => (world, .next rest)
  | .next (.tree fanout (depth + 1) :: rest) =>
    .act fun world =>
      (world, .next (List.replicate fanout (.submit false [.tree fanout depth]) ++ rest))
  | .next (.panic message :: _) => .panic message
  | .handing reported job rest => .submit job 1 (afterSubmit reported rest)
  | .writing line rest => .act fun world => (world.write line, .next rest)

/-- Jobs that follow their scripts. -/
def workload : Workload Job Body World := ⟨.next, move⟩

end Frontier.Dispatcher.Script
