import Frontier.Regex.CharSet

/-!
# Regular expressions by their meaning

A `Regex` has no flags: each character is a set, each assertion says what it asks of the characters
before and after a position.  `Matches text r i j` is the reference: `r` can match from position
`i` of the text to position `j`, whatever it prefers.  `Regex.ends` computes the ends that a set of
starts can reach, and `Regex.isMatch` is the search for a match anywhere.

A set of positions is a number whose bit `i` is set when position `i` is in the set.
-/
namespace Frontier.Regex

/-- What an assertion asks of a position. -/
inductive Look where
  | textStart
  | textEnd
  | lineStart
  | lineEnd
  /-- Lines may also end in a carriage return, with or without a line feed. -/
  | anyLineStart
  | anyLineEnd
  /-- The boundaries of words; `unicode` says which characters make up words. -/
  | wordEdge (unicode : Bool)
  | noWordEdge (unicode : Bool)
  | wordStart (unicode : Bool)
  | wordEnd (unicode : Bool)
  | wordStartHalf (unicode : Bool)
  | wordEndHalf (unicode : Bool)
  deriving DecidableEq, Repr

/-- The character is part of a word. -/
def isWordChar (unicode : Bool) (c : Char) : Bool :=
  if unicode then wordRanges.contains c else AsciiClass.word.ranges.contains c

/-- The assertion holds between these two characters; at an end of the text there is none. -/
def Look.holds (l : Look) (before after : Option Char) : Bool :=
  let word (unicode : Bool) (c : Option Char) : Bool := c.any (isWordChar unicode)
  match l with
  | textStart => before.isNone
  | textEnd => after.isNone
  | lineStart => before.all (· == '\n')
  | lineEnd => after.all (· == '\n')
  | anyLineStart =>
    match before with
    | none => true
    | some c => c == '\n' || (c == '\r' && after != some '\n')
  | anyLineEnd =>
    match after with
    | none => true
    | some c => c == '\r' || (c == '\n' && before != some '\r')
  | wordEdge u => word u before != word u after
  | noWordEdge u => word u before == word u after
  | wordStart u => !word u before && word u after
  | wordEnd u => word u before && !word u after
  | wordStartHalf u => !word u before
  | wordEndHalf u => !word u after

end Frontier.Regex

/-- A regular expression without flags. -/
inductive Frontier.Regex where
  | empty
  | one (s : Frontier.Regex.CharSet)
  | look (l : Frontier.Regex.Look)
  | seq (r s : Frontier.Regex)
  | alt (r s : Frontier.Regex)
  | repeated (least : Nat) (most : Option Nat) (r : Frontier.Regex)

namespace Frontier.Regex

/-! ## Matching as a relation -/

/-- The assertion holds at position `i` of the text. -/
def Look.holdsAt (l : Look) (text : Array Char) (i : Nat) : Bool :=
  l.holds (if i = 0 then none else text[i - 1]?) text[i]?

mutual

/-- The expression matches the text from position `i` to position `j`. -/
inductive Matches (text : Array Char) : Regex → Nat → Nat → Prop where
  | empty {i : Nat} : Matches text .empty i i
  | one {s : CharSet} {i : Nat} {c : Char} :
      text[i]? = some c → s.contains c = true → Matches text (.one s) i (i + 1)
  | look {l : Look} {i : Nat} : l.holdsAt text i = true → Matches text (.look l) i i
  | seq {r s : Regex} {i j k : Nat} :
      Matches text r i j → Matches text s j k → Matches text (.seq r s) i k
  | left {r s : Regex} {i j : Nat} : Matches text r i j → Matches text (.alt r s) i j
  | right {r s : Regex} {i j : Nat} : Matches text s i j → Matches text (.alt r s) i j
  | repeated {least : Nat} {most : Option Nat} {r : Regex} {n i j : Nat} :
      least ≤ n → (∀ m, most = some m → n ≤ m) → Rounds text r n i j →
      Matches text (.repeated least most r) i j

/-- So many matches one after another lead from position `i` to position `j`. -/
inductive Rounds (text : Array Char) : Regex → Nat → Nat → Nat → Prop where
  | nil {r : Regex} {i : Nat} : Rounds text r 0 i i
  | cons {r : Regex} {n i j k : Nat} :
      Matches text r i j → Rounds text r n j k → Rounds text r (n + 1) i k

end

/-! ## Sets of positions -/

/-- A set of positions, one bit each. -/
abbrev Positions := Nat

namespace Positions

/-- The positions below `n` that are in `m` and satisfy `p`. -/
def select (p : Nat → Bool) (m : Positions) : Nat → Positions
  | 0 => 0
  | n + 1 => if m.testBit n && p n then select p m n ||| 1 <<< n else select p m n

/-- Every position below `n`. -/
def below (n : Nat) : Positions := 1 <<< n - 1

/-- `f` applied `n` times.  Once a set comes out unchanged the rest makes no difference. -/
def iterate (f : Positions → Positions) : Nat → Positions → Positions
  | 0, m => m
  | n + 1, m => if f m = m then m else iterate f n (f m)

end Positions

/-! ## Matching -/

/-- The positions where a match can end that starts at one of the given positions. -/
def ends (text : Array Char) : Regex → Positions → Positions
  | empty, m => m
  | one s, m => Positions.select (fun i => text[i]?.any s.contains) m text.size <<< 1
  | look l, m => Positions.select (l.holdsAt text) m (text.size + 1)
  | seq r s, m => s.ends text (r.ends text m)
  | alt r s, m => r.ends text m ||| s.ends text m
  | repeated least most r, m =>
    let more := match most with
      | some most => most - least
      | none => text.size
    Positions.iterate (fun m => m ||| r.ends text m) more
      (Positions.iterate (r.ends text) least m)

/-- The expression matches somewhere in the text. -/
def isMatch (r : Regex) (text : Array Char) : Bool :=
  r.ends text (Positions.below (text.size + 1)) != 0

end Frontier.Regex
