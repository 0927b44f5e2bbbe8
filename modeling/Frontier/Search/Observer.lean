import Frontier.Search.Disk

/-!
# Those who look on

A matcher decides which entries a search reports; a sink is told of matches and failures as they are
found.  Both are given by the user of the search and may break off the examination that asks them,
and a sink may raise the flag that stops the search.
-/
namespace Frontier

/-- What a matcher says of an entry. -/
inductive Verdict where
  | accept
  | reject
  | panic (message : String)
  deriving DecidableEq, Repr

/-- The verdict of a condition. -/
def Verdict.ofBool (accepted : Bool) : Verdict := if accepted then accept else reject

/-- Decides which entries are reported. -/
abbrev Matcher := Entry → Verdict

/-- How a sink reacts. -/
structure Reaction where
  /-- It raises the flag that stops the search. -/
  raises : Bool
  /-- It breaks off with that message. -/
  panics : Option String
  deriving DecidableEq, Repr

/-- A sink that goes on. -/
def Reaction.none : Reaction := ⟨false, .none⟩

/-- Is told of matches and failures. -/
structure Sink where
  /-- The reaction to a match that so many came before. -/
  onMatch : Nat → Path → Reaction
  onFailure : Failure → Reaction

/-- The sink that only takes note. -/
def Sink.quiet : Sink := ⟨fun _ _ => .none, fun _ => .none⟩

end Frontier
