import Frontier.Dispatcher.Schedule
import Frontier.Dispatcher.Script

/-!
# Sessions

A session is a conversation with a dispatcher whose jobs follow scripts.  After every order all
threads go on until none can.  One client owns the handles that the conversation names by numbers;
it always uses the one of the lowest number.
-/
namespace Frontier.Dispatcher

open Script (Job Action Body World)

/-- What is asked of a session. -/
inductive Order where
  | submit (job : Job)
  /-- So many threads submit so many empty jobs each. -/
  | produce (threads each : Nat)
  | start
  | close
  | drain
  /-- Drain on another thread. -/
  | drainAside
  /-- Wait for the youngest drain on another thread. -/
  | joinDrain
  /-- Wait for something that has happened when no thread can go on. -/
  | await (needsHandle : Bool)
  | unlock (door : String)
  | clone
  | drop (index : Nat)
  /-- The lines that were written. -/
  | log
  | snapshot
  deriving Repr

/-- What a dispatcher looks like from outside. -/
structure Snapshot where
  length : Nat
  active : Nat
  limit : Nat
  lifecycle : Lifecycle
  accepting : Bool
  stats : Stats
  deriving Repr

/-- What a session answers. -/
inductive Reply where
  | noHandle
  | nothing
  | accepted
  | refused (cause : Failure)
  | count (n : Nat)
  | stats (stats : Stats)
  | dropped (found : Bool)
  /-- The lines of jobs, and the complaints since they were last told. -/
  | lines (log complaints : List String)
  | snapshot (view : Snapshot) (log complaints : List String)
  deriving Repr

/-- A conversation with a dispatcher. -/
structure Session where
  machine : Machine Job Body World
  /-- For each handle that was named, whether it is alive. -/
  handles : List Bool
  /-- Drains on other threads that have not been waited for, youngest first. -/
  asides : List ThreadId
  drained : List (ThreadId × Stats)
  complaints : List String

namespace Session

/-- More steps than a conversation takes. -/
def patience : Nat := 1000000000000

/-- The results of drains in a history. -/
def drainsOf (history : Machine.History Job) : List (ThreadId × Stats) :=
  history.filterMap fun
    | (t, .returned (.drained stats)) => some (t, stats)
    | _ => none

/-- The complaints in a history. -/
def complaintsOf {J : Type} (history : Machine.History J) : List String :=
  history.filterMap fun
    | (_, .event (.complained message)) => some (panicLine message)
    | (_, .event .overReleased) => some Slots.overRelease
    | _ => none

/-- How many submissions were accepted in a history. -/
def acceptedIn (history : Machine.History Job) : Nat :=
  history.countP fun
    | (_, .returned (.submitted true)) => true
    | _ => false

/-- Lets all threads go on until none can. -/
def settle (s : Session) : Session × Machine.History Job :=
  let (machine, history) := s.machine.settle Script.workload patience
  ({ s with
      machine
      drained := drainsOf history ++ s.drained
      complaints := s.complaints ++ complaintsOf history }, history)

/-- The client makes these requests next. -/
def enqueue (s : Session) (requests : List (Request Job World)) : Session :=
  match s.machine.threads[0]? with
  | some (Thread.client c) =>
    { s with machine := s.machine.withClient 0 { c with script := c.script ++ requests } }
  | _ => s

/-- The client makes these requests. -/
def make (s : Session) (requests : List (Request Job World)) : Session × Machine.History Job :=
  (s.enqueue requests).settle

/-- Another client, to which the first one gives a handle of its own. -/
def employ (s : Session) (script : List (Request Job World)) : Session :=
  let newcomer := s.machine.threads.length
  let s := s.enqueue [.clone, .give newcomer]
  { s with machine := { s.machine with
      threads := s.machine.threads ++ [.client ⟨0, none, script⟩] } }

/-- Begins a conversation. -/
def begin? (limit : Nat) (autoStart : Bool) : Except Failure Session := do
  let machine ← Machine.create limit .empty (if autoStart then [.start] else []) []
  pure (settle ⟨machine, [true], [], [], []⟩).1

/-- Some handle is alive. -/
def hasHandle (s : Session) : Bool := s.handles.any id

/-- The dispatcher from outside. -/
def view (s : Session) : Snapshot where
  length := s.machine.shared.queue.length
  active := s.machine.shared.slots.active
  limit := s.machine.shared.slots.limit
  lifecycle := s.machine.shared.gate.lifecycle
  accepting := s.machine.shared.gate.isAccepting
  stats := s.machine.shared.stats

/-- The result of the latest drain of a thread. -/
def drainOf (s : Session) (t : ThreadId) : Reply :=
  match s.drained.find? (·.1 == t) with
  | some (_, stats) => .stats stats
  | none => .nothing

/-- The order is one that needs a handle. -/
def needsHandle : Order → Bool
  | .submit _ | .produce .. | .start | .close | .drain | .drainAside | .clone | .snapshot => true
  | .await needed => needed
  | .joinDrain | .unlock _ | .drop _ | .log => false

/-- Submits a job, with a handle of its own if it needs one. -/
def submit (s : Session) (job : Job) : Session × Reply :=
  let handles := Script.handlesOf job
  let (s, history) := s.make (List.replicate handles .clone ++ [.submit job handles])
  (s, if acceptedIn history = 0 then .refused .dispatcherClosed else .accepted)

/-- Carries out an order for which there is a handle. -/
def obey (s : Session) : Order → Session × Reply
  | .submit job => s.submit job
  | .produce threads each =>
    let script := List.replicate each (.submit [] 0) ++ [.drop false]
    let (s, history) := (Nat.repeat (·.employ script) threads s).settle
    (s, .count (acceptedIn history))
  | .start => ((s.make [.start]).1, .nothing)
  | .close => ((s.make [.close]).1, .nothing)
  | .drain =>
    let s := (s.make [.drain]).1
    (s, s.drainOf 0)
  | .drainAside =>
    let t := s.machine.threads.length
    (({ s.employ [.drain, .drop false] with asides := t :: s.asides }).settle.1, .nothing)
  | .joinDrain =>
    match s.asides with
    | [] => (s, .nothing)
    | t :: rest => ({ s with asides := rest }, s.drainOf t)
  | .await _ => (s, .nothing)
  | .unlock door => ((s.make [.touch (·.unlock door)]).1, .nothing)
  | .clone =>
    let s' := (s.make [.clone]).1
    ({ s' with handles := s.handles ++ [true] }, .count s.handles.length)
  | .drop index =>
    if s.handles[index]? = some true then
      let s' := (s.make [.drop false]).1
      ({ s' with handles := s.handles.set index false }, .dropped true)
    else (s, .dropped false)
  | .log => ({ s with complaints := [] }, .lines s.machine.world.log s.complaints)
  | .snapshot =>
    ({ s with complaints := [] }, .snapshot s.view s.machine.world.log s.complaints)

/-- Carries out an order. -/
def order (s : Session) (o : Order) : Session × Reply :=
  if needsHandle o && !s.hasHandle then (s, .noHandle) else s.obey o

/-- Carries out orders one after another. -/
def orders (s : Session) : List Order → List Reply
  | [] => []
  | o :: rest =>
    let (s', reply) := s.order o
    reply :: s'.orders rest

end Session

end Frontier.Dispatcher
