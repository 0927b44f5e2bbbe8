import Frontier.Regex.Expr
import Frontier.Unicode.Property

/-!
# Reading what a backslash begins

The readers take the text that is left and return what they read with the text after it.  In
verbose mode blanks and comments between two characters do not count, also inside an escape: `skip`
passes over them, and `spanSkipping` reads characters that may have them in between.

An `Atom` is what a backslash and the characters after it stand for, inside brackets or outside.
-/
namespace Frontier.Regex

open Frontier.Unicode (Ranges)

/-- The characters that verbose mode passes over. -/
def blanks : Ranges := Unicode.Property.whiteSpace.ranges

/-- A blank of verbose mode. -/
def isBlank (c : Char) : Bool := blanks.contains c

/-- Drops blanks and comments.  A comment runs from `#` through the end of its line; `comment` says
that one is open. -/
def dropBlank (comment : Bool) : List Char → List Char
  | [] => []
  | c :: rest =>
    if comment then dropBlank (c ≠ '\n') rest
    else if isBlank c then dropBlank false rest
    else if c = '#' then dropBlank true rest
    else c :: rest

/-- Drops blanks and comments in verbose mode, and nothing otherwise. -/
def skip (verbose : Bool) (s : List Char) : List Char :=
  if verbose then dropBlank false s else s

/-- Splits off the longest beginning whose characters satisfy `p`, blanks and comments of verbose
mode aside. -/
def spanSkipping (verbose : Bool) (p : Char → Bool) (comment : Bool) :
    List Char → List Char × List Char
  | [] => ([], [])
  | c :: rest =>
    if comment then spanSkipping verbose p (c ≠ '\n') rest
    else if verbose && isBlank c then spanSkipping verbose p false rest
    else if verbose && c == '#' then spanSkipping verbose p true rest
    else if p c then
      let (taken, left) := spanSkipping verbose p false rest
      (c :: taken, left)
    else ([], c :: rest)

/-! ## Characters by number -/

/-- The value of a hexadecimal digit. -/
def hexDigit? (c : Char) : Option Nat :=
  if '0' ≤ c ∧ c ≤ '9' then some (c.toNat - '0'.toNat)
  else if 'a' ≤ c ∧ c ≤ 'f' then some (c.toNat - 'a'.toNat + 10)
  else if 'A' ≤ c ∧ c ≤ 'F' then some (c.toNat - 'A'.toNat + 10)
  else none

/-- The character with this number. -/
def charOfNat? (n : Nat) : Except Fault Char :=
  if n.isValidChar then .ok (Char.ofNat n) else .error .hexInvalid

/-- Reads exactly `n` more hexadecimal digits. -/
def hexDigits (verbose : Bool) : (n value : Nat) → List Char → Except Fault (Nat × List Char)
  | 0, value, s => .ok (value, s)
  | _ + 1, _, [] => .error .escapeUnfinished
  | n + 1, value, c :: rest =>
    match hexDigit? c with
    | none => .error .hexDigitInvalid
    | some d => hexDigits verbose n (16 * value + d) (skip verbose rest)

/-- Reads a number in braces, from after the opening one. -/
def hexBraced (verbose : Bool) (s : List Char) : Except Fault (Char × List Char) :=
  let (digits, left) := spanSkipping verbose (· ≠ '}') false s
  match digits.mapM hexDigit?, left with
  | none, _ => .error .hexDigitInvalid
  | some _, [] => .error .escapeUnfinished
  | some [], _ => .error .hexMissing
  | some ds, _ :: rest => do
    let c ← charOfNat? (ds.foldl (fun n d => 16 * n + d) 0)
    pure (c, skip verbose rest)

/-- Reads a character by its number: `width` digits, or any number of them in braces. -/
def hexChar (verbose : Bool) (width : Nat) (s : List Char) :
    Except Fault (Literal × List Char) :=
  match skip verbose s with
  | [] => .error .escapeUnfinished
  | '{' :: rest => do
    let (c, rest) ← hexBraced verbose rest
    pure (⟨c, false⟩, rest)
  | s => do
    let (n, rest) ← hexDigits verbose width 0 s
    let c ← charOfNat? n
    pure (⟨c, width = 2⟩, rest)

/-! ## Properties -/

/-- Splits at the first occurrence of `mark`. -/
def splitAt? (mark : List Char) : List Char → Option (List Char × List Char)
  | [] => none
  | c :: rest =>
    if mark.isPrefixOf (c :: rest) then some ([], (c :: rest).drop mark.length)
    else (splitAt? mark rest).map fun (before, after) => (c :: before, after)

/-- What stands between the braces of a `\p`. -/
def Query.ofName (name : List Char) : Query :=
  match splitAt? ['!', '='] name <|> splitAt? [':'] name <|> splitAt? ['='] name with
  | some (name, value) => .valued name value
  | none => .named name

/-- Reads a property: one letter, or a name in braces. -/
def query (verbose : Bool) (s : List Char) : Except Fault (Query × List Char) :=
  match skip verbose s with
  | [] => .error .escapeUnfinished
  | '{' :: rest =>
    match spanSkipping verbose (· ≠ '}') false rest with
    | (_, []) => .error .escapeUnfinished
    | (name, _ :: rest) => .ok (.ofName name, rest)
  | c :: rest => if c = '\\' then .error .propertyInvalid else .ok (.letter c, skip verbose rest)

/-! ## Atoms -/

/-- What a backslash and the characters after it stand for. -/
inductive Atom where
  | literal (l : Literal)
  | anchor (a : Anchor)
  | property (negated : Bool) (q : Query)
  | shorthand (negated : Bool) (s : Shorthand)

namespace Atom

/-- The atom outside brackets. -/
def toExpr : Atom → Expr
  | literal l => .literal l
  | anchor a => .anchor a
  | property n q => .property n q
  | shorthand n s => .shorthand n s

/-- The atom inside brackets, where assertions have no place. -/
def toBracket : Atom → Except Fault Bracket
  | literal l => .ok (.literal l)
  | anchor _ => .error .classEscapeInvalid
  | property n q => .ok (.property n q)
  | shorthand n s => .ok (.shorthand n s)

/-- The atom as one end of a range. -/
def toLiteral : Atom → Except Fault Literal
  | literal l => .ok l
  | _ => .error .classRangeLiteral

end Atom

/-- The characters with a meaning of their own somewhere in an expression. -/
def metaChars : List Char :=
  ['\\', '.', '+', '*', '?', '(', ')', '|', '[', ']', '{', '}', '^', '$', '#', '&', '-', '~']

/-- A backslash before such a character makes it stand for itself. -/
def standsForItself (c : Char) : Bool :=
  c.toNat < 128 && !c.isAlphanum && c != '<' && c != '>'

/-- Letters of a named word boundary. -/
def isBoundaryLetter (c : Char) : Bool := c.isAlpha || c == '-'

/-- Reads the name of a word boundary, from after its opening brace.  The answer is `none` if a
counted repetition stands here. -/
def boundary (verbose : Bool) (s : List Char) : Except Fault (Option (Anchor × List Char)) :=
  match skip verbose s with
  | [] => .error .boundaryUnfinished
  | c :: rest =>
    if !isBoundaryLetter c then .ok none
    else
      match spanSkipping verbose isBoundaryLetter false (c :: rest) with
      | (name, '}' :: rest) =>
        if name = "start".toList then .ok (some (.wordStart, rest))
        else if name = "end".toList then .ok (some (.wordEnd, rest))
        else if name = "start-half".toList then .ok (some (.wordStartHalf, rest))
        else if name = "end-half".toList then .ok (some (.wordEndHalf, rest))
        else .error .boundaryUnrecognized
      | _ => .error .boundaryUnclosed

/-- Reads `\b`, from after the letter. -/
def wordEdge (verbose : Bool) (s : List Char) : Except Fault (Atom × List Char) :=
  match s with
  | '{' :: rest => do
    match ← boundary verbose rest with
    | some (a, rest) => pure (.anchor a, rest)
    | none => pure (.anchor .wordEdge, s)
  | _ => .ok (.anchor .wordEdge, s)

/-- What a letter after a backslash stands for, if it needs no more text. -/
def letterAtom? : Char → Option Atom
  | 'd' => some (.shorthand false .digit)
  | 'D' => some (.shorthand true .digit)
  | 's' => some (.shorthand false .space)
  | 'S' => some (.shorthand true .space)
  | 'w' => some (.shorthand false .word)
  | 'W' => some (.shorthand true .word)
  | 'a' => some (.literal ⟨'\x07', false⟩)
  | 'f' => some (.literal ⟨'\x0C', false⟩)
  | 't' => some (.literal ⟨'\t', false⟩)
  | 'n' => some (.literal ⟨'\n', false⟩)
  | 'r' => some (.literal ⟨'\r', false⟩)
  | 'v' => some (.literal ⟨'\x0B', false⟩)
  | 'A' => some (.anchor .textStart)
  | 'z' => some (.anchor .textEnd)
  | 'B' => some (.anchor .noWordEdge)
  | '<' => some (.anchor .wordStart)
  | '>' => some (.anchor .wordEnd)
  | _ => none

/-- Reads what a backslash begins, from after it. -/
def escape (verbose : Bool) : List Char → Except Fault (Atom × List Char)
  | [] => .error .escapeUnfinished
  | c :: rest =>
    let hex (width : Nat) : Except Fault (Atom × List Char) := do
      let (l, rest) ← hexChar verbose width rest
      pure (.literal l, rest)
    let property (negated : Bool) : Except Fault (Atom × List Char) := do
      let (q, rest) ← query verbose rest
      pure (.property negated q, rest)
    if c.isDigit then .error .backreference
    else if c = 'x' then hex 2
    else if c = 'u' then hex 4
    else if c = 'U' then hex 8
    else if c = 'p' then property false
    else if c = 'P' then property true
    else if c = 'b' then wordEdge verbose rest
    else if standsForItself c then .ok (.literal ⟨c, false⟩, rest)
    else
      match letterAtom? c with
      | some a => .ok (a, rest)
      | none => .error .escapeUnrecognized

end Frontier.Regex
