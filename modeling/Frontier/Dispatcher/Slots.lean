/-!
# Worker slots

A thread takes a slot before a worker starts and the worker gives it back when it stops.  No more
slots are held than the limit allows, and the most that were ever held at once is remembered.
-/
namespace Frontier

/-- Slots for a limited number of workers. -/
structure Slots where
  limit : Nat
  active : Nat
  peak : Nat
  deriving DecidableEq, Repr, Inhabited

namespace Slots

/-- Slots of which none is held. -/
def ofLimit (limit : Nat) : Slots := ⟨limit, 0, 0⟩

/-- Takes a slot if one is free. -/
def acquire? (s : Slots) : Option Slots :=
  if s.active < s.limit then some { s with active := s.active + 1, peak := max s.peak (s.active + 1) }
  else none

/-- Gives a slot back if one is held. -/
def release? (s : Slots) : Option Slots :=
  match s.active with
  | 0 => none
  | n + 1 => some { s with active := n }

/-- No slot is held. -/
def isIdle (s : Slots) : Bool := s.active == 0

/-- Gives back every slot. -/
def releaseAll (s : Slots) : Slots := { s with active := 0 }

/-- The complaint about a slot that is given back though none is held. -/
def overRelease : String := "worker slot released more often than acquired"

/-- A slot that is taken and given back leaves the number of held slots as it was. -/
theorem active_of_release_acquire {s t u : Slots} (h : s.acquire? = some t)
    (k : t.release? = some u) : u.active = s.active := by
  unfold acquire? at h
  split at h
  · cases h
    simp only [release?, Option.some.injEq] at k
    rw [← k]
  · cases h

end Slots

end Frontier
