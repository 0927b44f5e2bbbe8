import Frontier.Regex.Fault

/-!
# Regular expressions as they are written

An `Expr` records what a text says before any flag has had its effect: `i` and its kin are still
items in a list, a `.` is still a `.`.  A `Bracket` is the inside of a character class.  The depth
of an expression is what the nesting limit bounds.
-/
namespace Frontier.Regex

/-- The flags that `(?…)` sets and clears. -/
inductive Flag where
  | ignoreCase
  | multiLine
  | dotAll
  | swapGreed
  | unicode
  | carriageReturn
  | verbose
  deriving DecidableEq, Repr

/-- One character of a flag list. -/
inductive FlagItem where
  | flag (f : Flag)
  /-- The `-` after which flags are cleared. -/
  | negation
  deriving DecidableEq, Repr

namespace FlagItem

/-- What a flag list says about `f`, if anything: the first mention counts. -/
def state? (f : Flag) : List FlagItem → Bool → Option Bool
  | [], _ => none
  | negation :: rest, _ => state? f rest true
  | flag g :: rest, negated => if g = f then some (!negated) else state? f rest negated

/-- The value of a flag after a flag list, given its value before. -/
def apply (items : List FlagItem) (f : Flag) (before : Bool) : Bool :=
  (state? f items false).getD before

end FlagItem

/-- Assertions about a position, before multi-line mode and its kin are taken into account. -/
inductive Anchor where
  | lineStart
  | lineEnd
  | textStart
  | textEnd
  | wordEdge
  | noWordEdge
  | wordStart
  | wordEnd
  | wordStartHalf
  | wordEndHalf
  deriving DecidableEq, Repr

/-- The classes `\d`, `\s` and `\w`. -/
inductive Shorthand where
  | digit
  | space
  | word
  deriving DecidableEq, Repr

/-- The ASCII classes, written `[:alpha:]` inside brackets. -/
inductive AsciiClass where
  | alnum | alpha | ascii | blank | cntrl | digit | graph | lower | print | punct | space
  | upper | word | xdigit
  deriving DecidableEq, Repr

/-- What a `\p` asks for. -/
inductive Query where
  | letter (c : Char)
  | named (name : List Char)
  | valued (name value : List Char)
  deriving DecidableEq, Repr

/-- One character that stands for itself.  `octet` marks those written as two hexadecimal digits:
without Unicode they are bytes. -/
structure Literal where
  char : Char
  octet : Bool
  deriving DecidableEq, Repr

/-- Operators between two parts of a character class. -/
inductive SetOp where
  | intersection
  | difference
  | symmetricDifference
  deriving DecidableEq, Repr

/-- The inside of a character class. -/
inductive Bracket where
  | empty
  | literal (l : Literal)
  | range (first last : Literal)
  | ascii (negated : Bool) (c : AsciiClass)
  | property (negated : Bool) (q : Query)
  | shorthand (negated : Bool) (s : Shorthand)
  | nested (negated : Bool) (body : Bracket)
  | union (items : List Bracket)
  | op (kind : SetOp) (left right : Bracket)

/-- A regular expression as it is written.  Capturing makes no difference to what matches, so a
group records only its flags. -/
inductive Expr where
  | empty
  | flags (items : List FlagItem)
  | literal (l : Literal)
  | dot
  | anchor (a : Anchor)
  | property (negated : Bool) (q : Query)
  | shorthand (negated : Bool) (s : Shorthand)
  | bracket (negated : Bool) (body : Bracket)
  | repetition (least : Nat) (most : Option Nat) (e : Expr)
  | group (flags : List FlagItem) (e : Expr)
  | alternation (branches : List Expr)
  | concat (parts : List Expr)

/-! ## Putting parts together -/

/-- The items of a class side by side; one item alone stands for itself. -/
def Bracket.ofItems : List Bracket → Bracket
  | [] => .empty
  | [b] => b
  | bs => .union bs

namespace Expr

/-- Expressions one after another; one alone stands for itself. -/
def ofParts : List Expr → Expr
  | [] => .empty
  | [e] => e
  | es => .concat es

/-- Whether a repetition operator may follow. -/
def repeatable : Expr → Bool
  | .empty | .flags _ => false
  | _ => true

end Expr

/-! ## Depth -/

mutual

/-- How deeply the parts of a class are nested. -/
def Bracket.depth : Bracket → Nat
  | .nested _ b => b.depth + 1
  | .union bs => Bracket.depths bs + 1
  | .op _ l r => max l.depth r.depth + 1
  | _ => 0

/-- The greatest depth in a list. -/
def Bracket.depths : List Bracket → Nat
  | [] => 0
  | b :: bs => max b.depth (Bracket.depths bs)

end

mutual

/-- How deeply an expression is nested: classes, repetitions, groups, alternations and sequences
count one each. -/
def Expr.depth : Expr → Nat
  | .bracket _ b => b.depth + 1
  | .repetition _ _ e => e.depth + 1
  | .group _ e => e.depth + 1
  | .alternation es => Expr.depths es + 1
  | .concat es => Expr.depths es + 1
  | _ => 0

/-- The greatest depth in a list. -/
def Expr.depths : List Expr → Nat
  | [] => 0
  | e :: es => max e.depth (Expr.depths es)

end

end Frontier.Regex
