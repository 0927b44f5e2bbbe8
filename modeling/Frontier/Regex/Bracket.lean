import Frontier.Regex.Atom

/-!
# Reading a character class

A class is read by a machine with a stack: a frame for each bracket that is open, and above it one
for the left side of an operator that waits for its right side.  All operators bind alike, from
the left.  One step of the machine reads one item, one operator or one bracket, so the text gets
shorter with every step.
-/
namespace Frontier.Regex

/-- The name of an ASCII class. -/
def AsciiClass.name : AsciiClass → String
  | .alnum => "alnum"
  | .alpha => "alpha"
  | .ascii => "ascii"
  | .blank => "blank"
  | .cntrl => "cntrl"
  | .digit => "digit"
  | .graph => "graph"
  | .lower => "lower"
  | .print => "print"
  | .punct => "punct"
  | .space => "space"
  | .upper => "upper"
  | .word => "word"
  | .xdigit => "xdigit"

/-- Every ASCII class. -/
def AsciiClass.all : List AsciiClass :=
  [.alnum, .alpha, .ascii, .blank, .cntrl, .digit, .graph, .lower, .print, .punct, .space,
   .upper, .word, .xdigit]

/-- The ASCII class of that name. -/
def AsciiClass.ofName? (name : List Char) : Option AsciiClass :=
  AsciiClass.all.find? fun c => c.name.toList == name

/-- Reads the rest of `[:name:]` or `[:^name:]`, from after its first bracket.  Anything that does
not read so is no error but an ordinary class. -/
def asciiClass? (s : List Char) : Option (Bracket × List Char) :=
  match s with
  | ':' :: rest =>
    let (negated, rest) := match rest with
      | '^' :: rest => (true, rest)
      | _ => (false, rest)
    match rest.dropWhile (· ≠ ':') with
    | ':' :: ']' :: after =>
      (AsciiClass.ofName? (rest.takeWhile (· ≠ ':'))).map fun c => (.ascii negated c, after)
    | _ => none
  | _ => none

/-- Reads one character of a class, or what a backslash begins. -/
def classAtom (verbose : Bool) : List Char → Except Fault (Atom × List Char)
  | [] => .error .classUnclosed
  | '\\' :: rest => escape verbose rest
  | c :: rest => .ok (.literal ⟨c, false⟩, rest)

/-- The next character that verbose mode sees after the first character of the text.  A comment is
seen through its first character that is no blank. -/
def peekPast (verbose : Bool) (rest : List Char) : Option Char :=
  if verbose then
    match rest.dropWhile isBlank with
    | '#' :: more => (more.dropWhile isBlank).head? <|> rest.head?
    | c :: _ => some c
    | [] => rest.head?
  else rest.head?

/-- Reads one item of a class: a range if a `-` follows that stands neither at the end of the class
nor before another `-`. -/
def classItem (verbose : Bool) (s : List Char) : Except Fault (Bracket × List Char) := do
  let (first, rest) ← classAtom verbose s
  match skip verbose rest with
  | [] => .error .classUnclosed
  | c :: rest =>
    if c ≠ '-' ∨ peekPast verbose rest = some ']' ∨ peekPast verbose rest = some '-' then do
      let item ← first.toBracket
      pure (item, c :: rest)
    else
      match skip verbose rest with
      | [] => .error .classUnclosed
      | s => do
        let (last, rest) ← classAtom verbose s
        let first ← first.toLiteral
        let last ← last.toLiteral
        if first.char ≤ last.char then pure (.range first last, rest)
        else .error .classRangeInvalid

/-- Reads what opens a class, from after its bracket: a `^`, then any number of `-` or else one `]`
that stand for themselves. -/
def classOpening (verbose : Bool) (s : List Char) :
    Except Fault (Bool × List Bracket × List Char) :=
  match skip verbose s with
  | [] => .error .classUnclosed
  | c :: rest =>
    let (negated, s) := if c = '^' then (true, skip verbose rest) else (false, c :: rest)
    match spanSkipping verbose (· = '-') false s with
    | (_, []) => .error .classUnclosed
    | ([], ']' :: rest) =>
      match skip verbose rest with
      | [] => .error .classUnclosed
      | rest => .ok (negated, [.literal ⟨']', false⟩], rest)
    | (dashes, rest) => .ok (negated, dashes.map fun c => .literal ⟨c, false⟩, rest)

/-- What a class that is being read waits for. -/
inductive ClassFrame where
  /-- The closing bracket; `outer` are the items, last one first, of the class around it. -/
  | opened (outer : List Bracket) (negated : Bool)
  /-- The right side of an operator. -/
  | operand (kind : SetOp) (left : Bracket)

/-- A class as far as it has been read: the items of the innermost part, last one first, and the
text that is left. -/
structure ClassReading where
  frames : List ClassFrame
  items : List Bracket
  left : List Char

/-- What one step of reading a class leads to. -/
inductive ClassStep where
  | more (r : ClassReading)
  | done (negated : Bool) (body : Bracket) (rest : List Char)

namespace ClassReading

/-- Begins a class inside whatever is being read. -/
def opening (verbose : Bool) (frames : List ClassFrame) (outer : List Bracket) (s : List Char) :
    Except Fault ClassReading := do
  let (negated, items, rest) ← classOpening verbose s
  pure ⟨.opened outer negated :: frames, items.reverse, rest⟩

/-- Ends the innermost part: if it is the right side of an operator, the operator is applied. -/
def finishPart (frames : List ClassFrame) (items : List Bracket) : Bracket × List ClassFrame :=
  let part := Bracket.ofItems items.reverse
  match frames with
  | .operand kind left :: frames => (.op kind left part, frames)
  | _ => (part, frames)

/-- Ends the left side of an operator. -/
def operator (r : ClassReading) (kind : SetOp) (rest : List Char) : ClassStep :=
  let (part, frames) := finishPart r.frames r.items
  .more ⟨.operand kind part :: frames, [], rest⟩

/-- Ends a class. -/
def close (r : ClassReading) (rest : List Char) : Except Fault ClassStep :=
  match finishPart r.frames r.items with
  | (part, [.opened _ negated]) => .ok (.done negated part rest)
  | (part, .opened outer negated :: frames) =>
    .ok (.more ⟨frames, .nested negated part :: outer, rest⟩)
  | _ => .error .classUnclosed

/-- Reads one item, one operator or one bracket. -/
def step (verbose : Bool) (r : ClassReading) : Except Fault ClassStep :=
  match skip verbose r.left with
  | [] => .error .classUnclosed
  | '[' :: rest =>
    match asciiClass? rest with
    | some (item, rest) => .ok (.more ⟨r.frames, item :: r.items, rest⟩)
    | none => (opening verbose r.frames r.items rest).map .more
  | ']' :: rest => r.close rest
  | '&' :: '&' :: rest => .ok (r.operator .intersection rest)
  | '-' :: '-' :: rest => .ok (r.operator .difference rest)
  | '~' :: '~' :: rest => .ok (r.operator .symmetricDifference rest)
  | s => do
    let (item, rest) ← classItem verbose s
    pure (.more ⟨r.frames, item :: r.items, rest⟩)

/-- Reads to the end of the class.  Every step leaves less text than there was. -/
def run (verbose : Bool) (r : ClassReading) : Except Fault (Bool × Bracket × List Char) :=
  match r.step verbose with
  | .error f => .error f
  | .ok (.done negated body rest) => .ok (negated, body, rest)
  | .ok (.more r') =>
    if r'.left.length < r.left.length then run verbose r' else .error .classUnclosed
termination_by r.left.length

end ClassReading

/-- Reads a class, from after its opening bracket: whether it is negated, what it holds, and the
text after it. -/
def characterClass (verbose : Bool) (s : List Char) :
    Except Fault (Bool × Bracket × List Char) := do
  (← ClassReading.opening verbose [] [] s).run verbose

end Frontier.Regex
