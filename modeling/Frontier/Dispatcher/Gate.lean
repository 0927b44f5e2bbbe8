import Frontier.Failure

/-!
# The gate

The gate admits jobs and counts those that have not finished, queued and running alike.  Its
lifecycle moves from created through admitting and draining to quiescent.  Admission and lifecycle
change together, so nothing is admitted once quiescence has been declared.
-/
namespace Frontier

/-- Where a dispatcher is in its life. -/
inductive Lifecycle where
  /-- Jobs are accepted and kept. -/
  | created
  /-- Jobs are accepted and run. -/
  | admitting
  /-- A thread waits for the work to run dry. -/
  | draining
  /-- There is no work and none will be accepted. -/
  | quiescent
  deriving DecidableEq, Repr, Inhabited

/-- The place of a stage in the order of the lifecycle. -/
def Lifecycle.rank : Lifecycle → Nat
  | created => 0
  | admitting => 1
  | draining => 2
  | quiescent => 3

/-- Admission, lifecycle, and the number of unfinished jobs. -/
structure Gate where
  lifecycle : Lifecycle
  accepting : Bool
  pending : Nat
  deriving DecidableEq, Repr, Inhabited

namespace Gate

/-- A gate that nothing has passed. -/
def fresh : Gate := ⟨.created, true, 0⟩

/-- A job that came now would be admitted. -/
def isAccepting (g : Gate) : Bool := g.accepting && g.lifecycle != .quiescent

/-- Counts one more job, or refuses it. -/
def enroll (g : Gate) : Except Failure Gate :=
  if g.isAccepting then .ok { g with pending := g.pending + 1 } else .error .dispatcherClosed

/-- Counts one job less. -/
def complete (g : Gate) : Gate := { g with pending := g.pending - 1 }

/-- Lets jobs run, unless they already may. -/
def start (g : Gate) : Gate :=
  if g.lifecycle = .created then { g with lifecycle := .admitting } else g

/-- Refuses all jobs from now on. -/
def close (g : Gate) : Gate := { g with accepting := false }

/-- Jobs may run. -/
def isOpen (g : Gate) : Bool := g.lifecycle != .created

/-- Says that a thread waits for the work to run dry. -/
def drain (g : Gate) : Gate :=
  if g.lifecycle = .quiescent then g else { g with lifecycle := .draining }

/-- Declares that there is no work left and refuses all jobs from now on. -/
def settle (g : Gate) : Gate := { g with lifecycle := .quiescent, accepting := false }

end Gate

end Frontier
