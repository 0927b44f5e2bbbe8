import Frontier.Path

/-!
# Places that were seen

A set of keys.  Two paths are one key when their components agree.
-/
namespace Frontier

/-- The keys that were inserted, by their components, latest first. -/
structure Visited where
  keys : List (List Path.Component)
  deriving DecidableEq, Repr

namespace Visited

/-- The set that holds nothing. -/
def empty : Visited := ⟨[]⟩

/-- The key is in the set. -/
def contains (v : Visited) (key : Path) : Bool := v.keys.contains key.components

/-- Puts a key into the set, and tells whether it was new. -/
def insert (v : Visited) (key : Path) : Visited × Bool :=
  if v.contains key then (v, false) else (⟨key.components :: v.keys⟩, true)

/-- Puts keys into the set, one after another, and tells how many were new. -/
def insertAll (v : Visited) : List Path → Visited × Nat
  | [] => (v, 0)
  | key :: rest =>
    let (v', fresh) := v.insert key
    let (v'', n) := v'.insertAll rest
    (v'', if fresh then n + 1 else n)

/-- How many keys there are. -/
def size (v : Visited) : Nat := v.keys.length

/-- There is no key. -/
def isEmpty (v : Visited) : Bool := v.keys.isEmpty

theorem contains_iff {v : Visited} {key : Path} : v.contains key ↔ key.components ∈ v.keys := by
  simp [contains]

/-- A key is new if it was not in the set. -/
@[simp] theorem insert_snd (v : Visited) (key : Path) : (v.insert key).2 = !v.contains key := by
  unfold insert
  split <;> simp_all

theorem insert_of_new {v : Visited} {key : Path} (h : (v.insert key).2 = true) :
    key.components ∉ v.keys ∧ (v.insert key).1 = ⟨key.components :: v.keys⟩ := by
  rw [insert_snd, Bool.not_eq_true'] at h
  refine ⟨?_, by rw [insert, h]; rfl⟩
  rw [← contains_iff, h]
  exact Bool.false_ne_true

theorem insert_of_known {v : Visited} {key : Path} (h : (v.insert key).2 = false) :
    key.components ∈ v.keys ∧ (v.insert key).1 = v := by
  rw [insert_snd, Bool.not_eq_false'] at h
  exact ⟨contains_iff.mp h, by rw [insert, h]; rfl⟩

end Visited

end Frontier
