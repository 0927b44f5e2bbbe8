import Frontier.Dispatcher.Shared

/-!
# Putting idle slots to work

A thread that submits a job, starts the dispatcher or drains it goes on to fill the slots: it reads
the length of the queue once and tries that many times to take a slot and to spawn a worker that
owns it.  Each constructor of `Filling`, `Submitting` and `Starting` is a point between two
indivisible steps.
-/
namespace Frontier.Dispatcher

/-- What a thread knows of the others when it takes a step. -/
structure Neighbours where
  self : ThreadId
  /-- The index that a thread spawned now will have. -/
  newcomer : ThreadId
  /-- The thread has come to its end. -/
  finished : ThreadId → Bool
  /-- The system can spawn a thread now. -/
  canSpawn : Bool

/-- A call goes on at a point, or returns. -/
inductive Progress (σ ρ : Type) where
  | more (point : σ)
  | done (result : ρ)

/-- Maps the points of a call. -/
def Progress.embed {σ τ ρ : Type} (p : Progress σ ρ) (point : σ → τ) (result : ρ → τ) : τ :=
  match p with
  | more s => point s
  | done r => result r

/-- The effect of one step. -/
structure Stepped (J σ : Type) where
  shared : Shared J
  next : σ
  events : List (Event J)
  /-- The number of the worker that was spawned. -/
  spawned : Option Nat

namespace Stepped

variable {J σ τ : Type}

/-- A step that nothing is reported of. -/
def silent (shared : Shared J) (next : σ) : Stepped J σ := ⟨shared, next, [], none⟩

/-- A step with its events. -/
def noted (shared : Shared J) (next : σ) (events : List (Event J)) : Stepped J σ :=
  ⟨shared, next, events, none⟩

/-- The same step, seen by the caller. -/
def map (f : σ → τ) (r : Stepped J σ) : Stepped J τ := { r with next := f r.next }

end Stepped

variable {J : Type}

/-! ## Filling slots -/

/-- Where a thread is that fills slots.  From `checkQuiescent` to `spawn` it owns a slot. -/
inductive Filling where
  | checkOpen
  | readLength
  /-- So many attempts follow this one. -/
  | acquire (left : Nat)
  | checkQuiescent (left : Nat)
  /-- Quiescence was declared: the slot goes back. -/
  | handBack
  | takeNumber (left : Nat)
  | spawn (left number : Nat)
  /-- No thread could be spawned: the slot goes back. -/
  | giveUp
  deriving DecidableEq, Repr

/-- How filling ended: whether every thread that was wanted could be spawned. -/
abbrev Filled := Bool

namespace Filling

/-- The thread owns a slot. -/
def ownsSlot : Filling → Bool
  | checkQuiescent _ | handBack | takeNumber _ | spawn .. | giveUp => true
  | checkOpen | readLength | acquire _ => false

/-- So many attempts are left. -/
def attempts : Nat → Progress Filling Filled
  | 0 => .done true
  | n + 1 => .more (acquire n)

/-- One step of filling. -/
def step (n : Neighbours) (s : Shared J) : Filling → Stepped J (Progress Filling Filled)
  | checkOpen => .silent s (if s.gate.isOpen then .more readLength else .done true)
  | readLength => .silent s (attempts s.queue.length)
  | acquire left =>
    match s.acquire? with
    | some s' => .silent s' (.more (checkQuiescent left))
    | none => .silent s (.done true)
  | checkQuiescent left =>
    .silent s (.more (if s.gate.lifecycle = .quiescent then handBack else takeNumber left))
  | handBack => .noted s.release.1 (.done true) s.release.2
  | takeNumber left => .silent s.takeNumber.2 (.more (spawn left s.takeNumber.1))
  | spawn left number =>
    if n.canSpawn then
      { shared := { s with registry := s.registry.filter (!n.finished ·) ++ [n.newcomer] }
        next := attempts left
        events := [.spawned number]
        spawned := some number }
    else .silent s (.more giveUp)
  | giveUp => .noted s.release.1 (.done false) s.release.2

end Filling

/-! ## Submitting a job -/

/-- Where a thread is that submits a job. -/
inductive Submitting (J : Type) where
  | enroll (job : J) (handles : Nat)
  /-- The job was refused.  One of its handles is dropped, and so many follow. -/
  | discard (left : Nat)
  | count (job : Admitted J)
  | push (job : Admitted J)
  | checkOpen
  | fill (point : Filling)
  deriving Repr

namespace Submitting

/-- A refused job has so many handles left. -/
def refuse : Nat → Progress (Submitting J) Bool
  | 0 => .done false
  | n + 1 => .more (discard n)

/-- One step of submitting.  The call returns whether the job was accepted. -/
def step (n : Neighbours) (s : Shared J) :
    Submitting J → Stepped J (Progress (Submitting J) Bool)
  | enroll job handles =>
    match s.enroll job handles with
    | .ok (a, s') => .noted s' (.more (count a)) [.accepted a]
    | .error _ => .noted s (refuse handles) [.refused job]
  | discard left => .silent s.dropHandle (refuse left)
  | count a => .silent s.countSubmitted (.more (push a))
  | push a => .noted (s.push a) (.more checkOpen) [.pushed a]
  | checkOpen => .silent s (if s.gate.isOpen then .more (fill .checkOpen) else .done true)
  | fill f => (f.step n s).map fun p => p.embed (fun f => .more (fill f)) fun _ => .done true

end Submitting

/-! ## Starting -/

/-- Where a thread is that lets jobs run. -/
inductive Starting where
  | start
  | fill (point : Filling)
  deriving DecidableEq, Repr

/-- One step of starting.  The call returns how filling ended. -/
def Starting.step (n : Neighbours) (s : Shared J) : Starting → Stepped J (Progress Starting Filled)
  | start => .silent s.start (.more (fill .checkOpen))
  | fill f => (f.step n s).map fun p => p.embed (fun f => .more (fill f)) .done

end Frontier.Dispatcher
