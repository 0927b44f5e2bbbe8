import Frontier.Failure

/-!
# First in, first out

A queue is the list of what it holds, oldest first.  Every operation is one step of a machine that
shares the queue among threads.
-/
namespace Frontier

/-- A queue, oldest item first. -/
structure Queue (α : Type) where
  items : List α
  deriving DecidableEq, Repr

namespace Queue

variable {α : Type}

/-- The queue that holds nothing. -/
def empty : Queue α := ⟨[]⟩

instance : Inhabited (Queue α) := ⟨empty⟩

/-- Puts an item behind all others. -/
def push (q : Queue α) (a : α) : Queue α := ⟨q.items ++ [a]⟩

/-- Puts items behind all others, one after another. -/
def pushAll (q : Queue α) (as : List α) : Queue α := as.foldl push q

/-- Takes the oldest item. -/
def pop (q : Queue α) : Except Failure (α × Queue α) :=
  match q.items with
  | [] => .error .emptyQueue
  | a :: rest => .ok (a, ⟨rest⟩)

/-- The oldest item. -/
def peek? (q : Queue α) : Option α := q.items.head?

/-- How many items there are. -/
def length (q : Queue α) : Nat := q.items.length

/-- There is no item. -/
def isEmpty (q : Queue α) : Bool := q.items.isEmpty

@[simp] theorem items_empty : (empty : Queue α).items = [] := rfl

@[simp] theorem items_push (q : Queue α) (a : α) : (q.push a).items = q.items ++ [a] := rfl

@[simp] theorem items_pushAll (q : Queue α) (as : List α) :
    (q.pushAll as).items = q.items ++ as := by
  induction as generalizing q with
  | nil => simp [pushAll]
  | cons a as ih =>
    have h := ih (q.push a)
    simp only [pushAll, List.foldl_cons] at h ⊢
    simp [h]

theorem pop_eq_ok_iff {q r : Queue α} {a : α} : q.pop = .ok (a, r) ↔ q.items = a :: r.items := by
  rcases q with ⟨_ | ⟨b, rest⟩⟩ <;> rcases r with ⟨items⟩ <;> simp [pop]

/-- Taking fails on the empty queue alone. -/
theorem pop_eq_error_iff {q : Queue α} : q.pop = .error .emptyQueue ↔ q.isEmpty := by
  rcases q with ⟨_ | ⟨b, rest⟩⟩ <;> simp [pop, isEmpty]

end Queue

end Frontier
