import Frontier.CommandLine.Help

/-!
# Reading arguments

Arguments are read from left to right, and the first mistake is the answer.  An option that takes
its value from the next argument, and a run of paths, stay pending until something else begins:
only then are their values looked at.  So `-j x -h` complains about `x`, while an argument that no
option is written like is reported before a pending value is looked at.
-/
namespace Frontier.CommandLine

/-- What has been begun and not yet recorded. -/
inductive Pending where
  | nothing
  /-- An option that waits for its value, and may get it. -/
  | wanting (s : Setting)
  /-- An option with its value. -/
  | given (s : Setting) (value : OsText)
  /-- Paths. -/
  | paths (ps : List OsText)

/-- Arguments as far as they have been read. -/
structure Progress where
  args : Arguments := {}
  /-- The options with a value that have been recorded. -/
  settings : List Setting := []
  pending : Pending := .nothing
  /-- After `--` every argument is a path. -/
  onlyPaths : Bool := false

namespace Progress

/-- Stores the value of an option.  A text is any valid UTF-8, a number is what `readNumber`
reads. -/
def store (p : Progress) (s : Setting) (value : OsText) : Except Mistake Progress :=
  match value.toString? with
  | none => .error .invalidUtf8
  | some text =>
    let number (put : Nat → Arguments) : Except Mistake Progress :=
      match readNumber text with
      | .ok n => .ok { p with args := put n }
      | .error fault => .error (.invalidNumber text s fault)
    match s with
    | .name => .ok { p with args := { p.args with name := some text } }
    | .iname => .ok { p with args := { p.args with iname := some text } }
    | .regex => .ok { p with args := { p.args with regex := some text } }
    | .iregex => .ok { p with args := { p.args with iregex := some text } }
    | .type => .ok { p with args := { p.args with type := some text } }
    | .minDepth => number fun n => { p.args with minDepth := some n }
    | .maxDepth => number fun n => { p.args with maxDepth := some n }
    | .jobs => number fun n => { p.args with jobs := n }

/-- Records an option with its value.  Each may be given once. -/
def record (p : Progress) (s : Setting) (value : OsText) : Except Mistake Progress :=
  if s ∈ p.settings then .error (.repeated s.shown)
  else { p with settings := s :: p.settings }.store s value

/-- Records paths, none of which may be empty. -/
def recordPaths (p : Progress) (paths : List OsText) : Except Mistake Progress :=
  if paths.any (·.isEmpty) then .error (.valueMissing "[PATH]...")
  else .ok { p with args := { p.args with roots := p.args.roots ++ paths.map Path.mk } }

/-- Records what is pending. -/
def settle (p : Progress) : Except Mistake Progress :=
  let settled := { p with pending := .nothing }
  match p.pending with
  | .nothing => .ok settled
  | .wanting s => .error (.valueMissing s.shown)
  | .given s value => settled.record s value
  | .paths ps => settled.recordPaths ps

/-- Begins an option that takes a value, which may be attached to it. -/
def beginSetting (p : Progress) (s : Setting) (attached : Option OsText) :
    Except Mistake Progress := do
  let p ← p.settle
  match attached with
  | some value => p.record s value
  | none => pure { p with pending := .wanting s }

/-- Acts on an option that stands alone.  `long` says how it was written. -/
def beginToggle (p : Progress) (t : Toggle) (long : Bool) : Except Mistake Progress := do
  let p ← p.settle
  match t with
  | .help => .error (.helpWanted long)
  | .version => .error .versionWanted
  | .verbose =>
    if p.args.verbose then .error (.repeated t.shown)
    else pure { p with args := { p.args with verbose := true } }

/-- Takes an argument as a path. -/
def takePath (p : Progress) (path : OsText) : Except Mistake Progress :=
  match p.pending with
  | .paths ps => .ok { p with pending := .paths (ps ++ [path]) }
  | _ => do
    let p ← p.settle
    pure { p with pending := .paths [path] }

/-- Takes an argument that is no option: a value if one is wanted, else a path. -/
def takeValue (p : Progress) (value : OsText) : Except Mistake Progress :=
  match p.pending with
  | .wanting s => .ok { p with pending := .given s value }
  | _ => p.takePath value

/-- The byte `=`. -/
def equals : UInt8 := 61

/-- Takes an option written with two dashes, from after them. -/
def takeLong (p : Progress) (body : OsText) : Except Mistake Progress :=
  let name := body.takeWhile (· ≠ equals)
  let attached := if name.length < body.length then some (body.drop (name.length + 1)) else none
  match Setting.all.find? (OsText.ofString ·.long == name) with
  | some s => p.beginSetting s attached
  | none =>
    match Toggle.all.find? (OsText.ofString ·.long == name), attached with
    | some t, none => p.beginToggle t true
    | some t, some value => .error (.unexpectedValue (OsText.lossy value) t)
    | none, _ => .error (.unknown ("--" ++ OsText.lossy name))

/-- The value attached to a letter: what follows it, an `=` aside. -/
def attachedValue (rest : List OsText.Piece) : Option OsText :=
  let bytes := rest.flatMap fun
    | .char c => OsText.ofChars [c]
    | .stray bs => bs
  match bytes with
  | [] => none
  | b :: more => some (if b = equals then more else bytes)

/-- Takes options written as letters after one dash.  A letter that takes a value takes the rest of
the argument. -/
def takeLetters (p : Progress) : List OsText.Piece → Except Mistake Progress
  | [] => .ok p
  | .stray bytes :: rest =>
    .error (.unknown (String.ofList ('-' :: (OsText.Piece.stray bytes :: rest).map (·.shown))))
  | .char c :: rest =>
    if c = 'j' then p.beginSetting .jobs (attachedValue rest)
    else
      match Toggle.all.find? (·.short == c) with
      | some t => do (← p.beginToggle t false).takeLetters rest
      | none => .error (.unknown (String.ofList ['-', c]))

/-- Takes one argument. -/
def take (p : Progress) (arg : OsText) : Except Mistake Progress :=
  if p.onlyPaths then p.takePath arg
  else
    match arg with
    | [45, 45] => .ok { p with onlyPaths := true }
    | 45 :: 45 :: body => p.takeLong body
    | 45 :: b :: body => p.takeLetters (OsText.pieces (b :: body))
    | _ => p.takeValue arg

end Progress

/-- Reads all arguments, the program's own name aside. -/
def parseFrom (p : Progress) : List OsText → Except Mistake Progress
  | [] => p.settle
  | arg :: rest => do parseFrom (← p.take arg) rest

/-- Reads a command line whose first word is the program's name. -/
def parse (words : List OsText) : Except Mistake Arguments := do
  pure (← parseFrom {} words.tail).args

end Frontier.CommandLine
