import Frontier.Dispatcher.Draining

/-!
# The dispatcher as a machine

Threads outside of the dispatcher are clients: each makes the requests of its script, one after
another, through handles that it owns.  Workers are threads that the dispatcher spawns.  In a step of
the machine one thread takes one indivisible step; which thread, and whether the system can spawn
another one at that moment, is up to the scheduler.  `Runs` is the relation of all its choices.
-/
namespace Frontier.Dispatcher

variable {J B ω : Type}

/-- What a client asks for. -/
inductive Request (J ω : Type) where
  /-- Submit a job and move so many handles into it. -/
  | submit (job : J) (handles : Nat)
  | start
  | close
  | drain
  /-- Read the counters. -/
  | stats
  /-- Make one more handle. -/
  | clone
  /-- Drop a handle, maybe while a panic unwinds the thread. -/
  | drop (unwinding : Bool)
  /-- Give a handle to another client. -/
  | give (receiver : ThreadId)
  /-- Change the world without the dispatcher. -/
  | touch (effect : ω → ω)

/-- What a call returns. -/
inductive Returned where
  | submitted (accepted : Bool)
  | started
  | closed
  | drained (stats : Stats)
  | stats (stats : Stats)
  | dropped
  deriving DecidableEq, Repr

/-- Where a client is that makes a call. -/
inductive Call (J B : Type) where
  | submitting (point : Submitting J)
  | starting (point : Starting)
  | draining (point : Draining J B)
  | reading (point : Reading)
  | dropping (point : Dropping J B)

/-- A thread outside of the dispatcher. -/
structure Client (J B ω : Type) where
  /-- The handles it owns and has not moved into a call. -/
  held : Nat
  call : Option (Call J B)
  script : List (Request J ω)

/-- A thread. -/
inductive Thread (J B ω : Type) where
  | client (c : Client J B ω)
  /-- A worker that has returned serves no more. -/
  | worker (number : Nat) (serving : Option (Serving J B))

/-- A worker that has returned. -/
def Thread.isFinishedWorker : Thread J B ω → Bool
  | worker _ none => true
  | _ => false

/-- Something that happened: an event of the dispatcher, or the return of a call. -/
inductive Occurrence (J : Type) where
  | event (e : Event J)
  | returned (r : Returned)
  deriving DecidableEq, Repr

/-- Threads, the state they share, and the world of the bodies. -/
structure Machine (J B ω : Type) where
  shared : Shared J
  world : ω
  threads : List (Thread J B ω)

/-! ## Calls of a client -/

/-- A call goes on, or returns. -/
abbrev CallProgress (J B : Type) := Progress (Call J B) Returned

/-- One step of a call. -/
def Call.step (w : Workload J B ω) (n : Neighbours) (world : ω) (s : Shared J) :
    Call J B → Option (ω × Stepped J (CallProgress J B))
  | submitting p =>
    some (world, (p.step n s).map fun r =>
      r.embed (fun p => .more (submitting p)) fun ok => .done (.submitted ok))
  | starting p =>
    some (world, (p.step n s).map fun r => r.embed (fun p => .more (starting p)) fun _ => .done .started)
  | draining p =>
    (p.step w n world s).map fun (world', r) =>
      (world', r.map fun q => q.embed (fun p => .more (draining p)) fun st => .done (.drained st))
  | reading p =>
    some (world, (p.step s).map fun r => r.embed (fun p => .more (reading p)) fun st => .done (.stats st))
  | dropping p =>
    (p.step w n world s).map fun (world', r) =>
      (world', r.map fun q => q.embed (fun p => .more (dropping p)) fun _ => .done .dropped)

namespace Machine

/-- The dispatcher of that many slots, whose only handle the first client owns. -/
def ofClients (limit : Nat) (world : ω) (first : List (Request J ω))
    (others : List (List (Request J ω))) : Machine J B ω where
  shared := .ofLimit limit
  world := world
  threads := .client ⟨1, none, first⟩ :: others.map fun script => .client ⟨0, none, script⟩

/-- The dispatcher of that many slots, unless there is none. -/
def create (limit : Nat) (world : ω) (first : List (Request J ω))
    (others : List (List (Request J ω))) : Except Failure (Machine J B ω) :=
  if limit = 0 then .error (.invalidThreadCount limit)
  else .ok (ofClients limit world first others)

/-- What a thread knows of the others. -/
def neighbours (m : Machine J B ω) (t : ThreadId) (canSpawn : Bool) : Neighbours where
  self := t
  newcomer := m.threads.length
  finished u := (m.threads[u]?).any (·.isFinishedWorker)
  canSpawn := canSpawn

/-- The thread becomes `next`, and a worker joins that was spawned. -/
def commit {σ : Type} (m : Machine J B ω) (t : ThreadId) (world : ω) (r : Stepped J σ)
    (next : σ → Thread J B ω) : Machine J B ω where
  shared := r.shared
  world := world
  threads := m.threads.set t (next r.next) ++
    r.spawned.toList.map fun number => .worker number (some .pop)

/-- The thread becomes that client. -/
def withClient (m : Machine J B ω) (t : ThreadId) (c : Client J B ω) : Machine J B ω :=
  { m with threads := m.threads.set t (.client c) }

/-- A client that owns a handle enters a call. -/
def enter (m : Machine J B ω) (t : ThreadId) (held left : Nat) (call : Call J B)
    (rest : List (Request J ω)) : Option (Machine J B ω × List (Occurrence J)) :=
  if 0 < held then some (m.withClient t ⟨left, some call, rest⟩, []) else none

/-- A client takes up a request.  It owns so many handles, and these requests follow. -/
def request (m : Machine J B ω) (t : ThreadId) (held : Nat) (rest : List (Request J ω)) :
    Request J ω → Option (Machine J B ω × List (Occurrence J))
  | .submit job given =>
    if given < held then m.enter t held (held - given) (.submitting (.enroll job given)) rest
    else none
  | .start => m.enter t held held (.starting .start) rest
  | .close =>
    if 0 < held then
      some ({ m.withClient t ⟨held, none, rest⟩ with shared := m.shared.close },
        [.returned .closed])
    else none
  | .drain => m.enter t held held (.draining (.opening .start)) rest
  | .stats => m.enter t held held (.reading .submitted) rest
  | .clone =>
    if 0 < held then
      some ({ m.withClient t ⟨held + 1, none, rest⟩ with shared := m.shared.addHandle }, [])
    else none
  | .drop unwinding => m.enter t held (held - 1) (.dropping (.decrement unwinding)) rest
  | .give receiver =>
    match m.threads[receiver]? with
    | some (.client other) =>
      if 0 < held ∧ receiver ≠ t then
        some ((m.withClient t ⟨held - 1, none, rest⟩).withClient receiver
          { other with held := other.held + 1 }, [])
      else none
    | _ => none
  | .touch effect =>
    some ({ m.withClient t ⟨held, none, rest⟩ with world := effect m.world }, [])

/-- One step of the thread `t`, if it can take one. -/
def step (w : Workload J B ω) (m : Machine J B ω) (t : ThreadId) (canSpawn : Bool) :
    Option (Machine J B ω × List (Occurrence J)) :=
  let n := m.neighbours t canSpawn
  match m.threads[t]? with
  | none | some (.worker _ none) | some (.client ⟨_, none, []⟩) => none
  | some (.worker number (some serving)) =>
    (serving.step w (some number) n m.world m.shared).map fun (world, r) =>
      (m.commit t world r fun p => p.embed (fun s => .worker number (some s))
        fun _ => .worker number none, r.events.map .event)
  | some (.client ⟨held, some call, script⟩) =>
    (call.step w n m.world m.shared).map fun (world, r) =>
      (m.commit t world r fun p => p.embed (fun q => .client ⟨held, some q, script⟩)
        fun _ => .client ⟨held, none, script⟩,
       r.events.map .event ++ r.next.embed (fun _ => []) fun result => [.returned result])
  | some (.client ⟨held, none, r :: rest⟩) => m.request t held rest r

/-- What happened, and in whose step. -/
abbrev History (J : Type) := List (ThreadId × Occurrence J)

/-- Some choices of the scheduler lead from one state to another, and this happened meanwhile.  On a
reliable system a thread can always be spawned. -/
inductive Runs (w : Workload J B ω) (reliable : Bool) (m : Machine J B ω) :
    History J → Machine J B ω → Prop
  | refl : Runs w reliable m [] m
  | step {history : History J} {m' m'' : Machine J B ω} {t : ThreadId} {canSpawn : Bool}
      {occurred : List (Occurrence J)} (run : Runs w reliable m history m')
      (spawns : reliable = true → canSpawn = true)
      (last : m'.step w t canSpawn = some (m'', occurred)) :
      Runs w reliable m (history ++ occurred.map (t, ·)) m''

end Machine

end Frontier.Dispatcher
