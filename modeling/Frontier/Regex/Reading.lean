import Frontier.Regex.Bracket
import Frontier.Unicode.Category

/-!
# Reading an expression

An expression is read by a machine whose stack holds a frame for each group that is open and for
the branches of each alternation.  One step reads one construct, so the text gets shorter with
every step; `Expr.ofText` runs the machine on a whole text and then checks the nesting limit.
-/
namespace Frontier.Regex

/-! ## Flags and group openings -/

/-- The flag with that letter. -/
def Flag.ofChar? : Char → Option Flag
  | 'i' => some .ignoreCase
  | 'm' => some .multiLine
  | 's' => some .dotAll
  | 'U' => some .swapGreed
  | 'u' => some .unicode
  | 'R' => some .carriageReturn
  | 'x' => some .verbose
  | _ => none

/-- Reads a flag list up to the `:` or `)` that ends it; `seen` holds the items read so far, last
one first.  Returns whether a `:` ended the list. -/
def flagList (seen : List FlagItem) : List Char → Except Fault (List FlagItem × Bool × List Char)
  | [] => .error .flagUnfinished
  | c :: rest =>
    if c = ':' ∨ c = ')' then
      if seen.head? = some .negation then .error .flagNegationDangling
      else .ok (seen.reverse, c = ':', rest)
    else if c = '-' then
      if .negation ∈ seen then .error .flagNegationRepeated
      else flagList (.negation :: seen) rest
    else
      match Flag.ofChar? c with
      | none => .error .flagUnrecognized
      | some f =>
        if .flag f ∈ seen then .error .flagDuplicate else flagList (.flag f :: seen) rest

/-- A character that a group name may hold. -/
def isNameChar (first : Bool) (c : Char) : Bool :=
  let alphabetic := Unicode.Property.alphabetic.ranges.contains c
  if first then c == '_' || alphabetic
  else c == '_' || c == '.' || c == '[' || c == ']' || alphabetic ||
    Unicode.Category.number.ranges.contains c

/-- Reads a group name through the `>` that ends it; `name` holds what has been read, last
character first. -/
def groupName (name : List Char) : List Char → Except Fault (List Char × List Char)
  | [] => .error .groupNameUnfinished
  | c :: rest =>
    if c = '>' then
      if name.isEmpty then .error .groupNameEmpty else .ok (name.reverse, rest)
    else if isNameChar name.isEmpty c then groupName (c :: name) rest
    else .error .groupNameInvalid

/-- What an opening parenthesis begins. -/
inductive Opening where
  /-- Flags for the rest of the group around it. -/
  | flags (items : List FlagItem)
  /-- A group with flags of its own. -/
  | group (items : List FlagItem)
  | namedGroup (name : List Char)

/-- The text after `mark`, if it begins with that. -/
def stripStart? (mark : String) (s : List Char) : Option (List Char) :=
  if mark.toList.isPrefixOf s then some (s.drop mark.toList.length) else none

/-- Whether look-around begins here. -/
def isLookAround (s : List Char) : Bool :=
  ["?=", "?!", "?<=", "?<!"].any fun mark => (stripStart? mark s).isSome

/-- Reads an opening, from after its parenthesis. -/
def opening (verbose : Bool) (s : List Char) : Except Fault (Opening × List Char) :=
  let s := skip verbose s
  if isLookAround s then .error .lookAround
  else
    match stripStart? "?P<" s <|> stripStart? "?<" s with
    | some rest => do
      let (name, rest) ← groupName [] rest
      pure (.namedGroup name, rest)
    | none =>
      match s with
      | ['?'] => .error .groupUnclosed
      | '?' :: rest => do
        let (items, isGroup, rest) ← flagList [] rest
        if isGroup then pure (.group items, rest)
        else if items.isEmpty then .error .repetitionMissing
        else pure (.flags items, rest)
      | _ => .ok (.group [], s)

/-! ## Repetition counts -/

/-- A decimal count.  It has to fit into 32 bits. -/
def countOf (digits : List Char) : Except Fault Nat :=
  if digits.isEmpty then .error .repetitionCountMissing
  else
    let n := digits.foldl (fun n d => 10 * n + (d.toNat - '0'.toNat)) 0
    if n < 4294967296 then .ok n else .error .decimalInvalid

/-- The digits of a count, with the blanks around it dropped. -/
def countDigits (verbose : Bool) (s : List Char) : List Char × List Char :=
  let (digits, rest) := spanSkipping verbose Char.isDigit false (s.dropWhile isBlank)
  (digits, rest.dropWhile isBlank)

/-- Reads the bounds of a counted repetition, from after its brace up to the closing one. -/
def bounds (verbose : Bool) (s : List Char) : Except Fault ((Nat × Option Nat) × List Char) :=
  match skip verbose s with
  | [] => .error .repetitionCountUnclosed
  | s =>
    match countDigits verbose s with
    | (_, []) => .error .repetitionCountUnclosed
    | (digits, ',' :: rest) =>
      match skip verbose rest with
      | [] => .error .repetitionCountUnclosed
      | '}' :: rest => do
        let least ← countOf digits
        pure ((least, none), '}' :: rest)
      | rest => do
        let least ← countOf digits
        let (digits, rest) := countDigits verbose rest
        let most ← countOf digits
        pure ((least, some most), rest)
    | (digits, rest) => do
      let n ← countOf digits
      pure ((n, some n), rest)

/-- A `?` after a repetition prefers fewer rounds, which makes no difference to what matches. -/
def dropLazyMark : List Char → List Char
  | '?' :: rest => rest
  | s => s

/-! ## The machine -/

/-- What an expression that is being read waits for. -/
inductive Frame where
  /-- The parenthesis that ends a group; `outer` are the parts, last one first, of the sequence
  around it, where `verbose` was in force. -/
  | group (outer : List Expr) (flags : List FlagItem) (verbose : Bool)
  /-- The next branch of an alternation; the branches read so far, last one first. -/
  | alternation (branches : List Expr)

/-- An expression as far as it has been read. -/
structure Reading where
  verbose : Bool
  frames : List Frame
  /-- The parts of the innermost sequence, last one first. -/
  parts : List Expr
  /-- The group names in use. -/
  names : List (List Char)
  left : List Char

namespace Reading

/-- Nothing has been read yet. -/
def start (text : List Char) : Reading := ⟨false, [], [], [], text⟩

/-- Adds a part to the innermost sequence. -/
def push (r : Reading) (e : Expr) (rest : List Char) : Reading :=
  { r with parts := e :: r.parts, left := rest }

/-- The innermost sequence as one expression. -/
def sequence (r : Reading) : Expr := .ofParts r.parts.reverse

/-- Ends a branch and begins the next one. -/
def branch (r : Reading) (rest : List Char) : Reading :=
  match r.frames with
  | .alternation branches :: frames =>
    { r with frames := .alternation (r.sequence :: branches) :: frames, parts := [], left := rest }
  | frames => { r with frames := .alternation [r.sequence] :: frames, parts := [], left := rest }

/-- The innermost sequence with the branches before it, and the frames below. -/
def body (r : Reading) : Expr × List Frame :=
  match r.frames with
  | .alternation branches :: frames => (.alternation (r.sequence :: branches).reverse, frames)
  | frames => (r.sequence, frames)

/-- Begins what a parenthesis opens. -/
def openGroup (r : Reading) (rest : List Char) : Except Fault Reading := do
  let (what, rest) ← opening r.verbose rest
  match what with
  | .flags items =>
    pure { r.push (.flags items) rest with verbose := FlagItem.apply items .verbose r.verbose }
  | .group items =>
    pure { r with
      verbose := FlagItem.apply items .verbose r.verbose,
      frames := .group r.parts items r.verbose :: r.frames, parts := [], left := rest }
  | .namedGroup name =>
    if name ∈ r.names then .error .groupNameDuplicate
    else
      pure { r with
        frames := .group r.parts [] r.verbose :: r.frames, parts := [],
        names := name :: r.names, left := rest }

/-- Ends a group. -/
def closeGroup (r : Reading) (rest : List Char) : Except Fault Reading :=
  match r.body with
  | (e, .group outer flags verbose :: frames) =>
    .ok { r with verbose, frames, parts := .group flags e :: outer, left := rest }
  | _ => .error .groupUnopened

/-- Repeats the last part. -/
def repeatLast (r : Reading) (least : Nat) (most : Option Nat) (rest : List Char) :
    Except Fault Reading :=
  match r.parts with
  | [] => .error .repetitionMissing
  | e :: parts =>
    if e.repeatable then .ok { r with parts := .repetition least most e :: parts, left := rest }
    else .error .repetitionMissing

/-- Repeats the last part as often as the count in braces says. -/
def repeatCounted (r : Reading) (rest : List Char) : Except Fault Reading :=
  if r.parts.head?.all (!·.repeatable) then .error .repetitionMissing
  else do
    match ← bounds r.verbose rest with
    | ((least, most), '}' :: rest) =>
      if most.all (least ≤ ·) then
        r.repeatLast least most (dropLazyMark (skip r.verbose rest))
      else .error .repetitionCountInvalid
    | _ => .error .repetitionCountUnclosed

/-- Reads one construct; `none` once the text is used up. -/
def step (r : Reading) : Except Fault (Option Reading) :=
  match skip r.verbose r.left with
  | [] => .ok none
  | '(' :: rest => (r.openGroup rest).map some
  | ')' :: rest => (r.closeGroup rest).map some
  | '|' :: rest => .ok (some (r.branch rest))
  | '[' :: rest => do
    let (negated, body, rest) ← characterClass r.verbose rest
    pure (some (r.push (.bracket negated body) rest))
  | '?' :: rest => (r.repeatLast 0 (some 1) (dropLazyMark rest)).map some
  | '*' :: rest => (r.repeatLast 0 none (dropLazyMark rest)).map some
  | '+' :: rest => (r.repeatLast 1 none (dropLazyMark rest)).map some
  | '{' :: rest => (r.repeatCounted rest).map some
  | '\\' :: rest => do
    let (a, rest) ← escape r.verbose rest
    pure (some (r.push a.toExpr rest))
  | '.' :: rest => .ok (some (r.push .dot rest))
  | '^' :: rest => .ok (some (r.push (.anchor .lineStart) rest))
  | '$' :: rest => .ok (some (r.push (.anchor .lineEnd) rest))
  | c :: rest => .ok (some (r.push (.literal ⟨c, false⟩) rest))

/-- The expression, if every group has been closed. -/
def finish (r : Reading) : Except Fault Expr :=
  match r.body with
  | (e, []) => .ok e
  | _ => .error .groupUnclosed

/-- Reads to the end.  Every step leaves less text than there was. -/
def run (r : Reading) : Except Fault Expr :=
  match r.step with
  | .error f => .error f
  | .ok none => r.finish
  | .ok (some r') =>
    if r'.left.length < r.left.length then run r' else .error .groupUnclosed
termination_by r.left.length

end Reading

/-- Reads a text as an expression that is not nested too deeply. -/
def Expr.ofText (text : List Char) : Except Fault Expr := do
  let e ← (Reading.start text).run
  if e.depth ≤ nestLimit then pure e else .error .nestingTooDeep

end Frontier.Regex
