import Frontier.Regex.Basic
import Frontier.Regex.Reading

/-!
# The meaning of a written expression

Flags are resolved here.  Reading from left to right, a flag list changes what follows it up to the
end of the group around it, across alternatives too; a group's own flags hold inside it.

Without Unicode an expression speaks of bytes.  As text is UTF-8, whatever could match a byte that
is no ASCII character is refused.

Two things are not a matter of the syntax but of the engine that an expression is made for: which
properties there are for a `\p` to ask for, and how large an expression may get.
-/
namespace Frontier.Regex

/-- The flags that bear on what matches, and what a `\p` finds. -/
structure Flags where
  ignoreCase : Bool
  multiLine : Bool := false
  dotAll : Bool := false
  unicode : Bool := true
  carriageReturn : Bool := false
  /-- The set that a `\p` asks for.  No flag list changes that. -/
  properties : Query → Except Fault CharSet

namespace Flags

/-- The flags after a flag list. -/
def apply (f : Flags) (items : List FlagItem) : Flags where
  ignoreCase := FlagItem.apply items .ignoreCase f.ignoreCase
  multiLine := FlagItem.apply items .multiLine f.multiLine
  dotAll := FlagItem.apply items .dotAll f.dotAll
  unicode := FlagItem.apply items .unicode f.unicode
  carriageReturn := FlagItem.apply items .carriageReturn f.carriageReturn
  properties := f.properties

/-- The set up to case, if case is ignored. -/
def fold (f : Flags) (s : CharSet) : CharSet :=
  if f.ignoreCase then (if f.unicode then .folded s else .asciiFolded s) else s

/-- Folds a set and then takes the complement of a negated one. -/
def finish (f : Flags) (negated : Bool) (s : CharSet) : Except Fault CharSet :=
  if negated then
    if f.unicode then .ok (.complement (f.fold s)) else .error .invalidUtf8
  else .ok (f.fold s)

/-- The character that a literal stands for.  Without Unicode two hexadecimal digits are a byte. -/
def literal (f : Flags) (l : Literal) : Except Fault Char :=
  if !f.unicode && l.octet && l.char.toNat > 0x7F then .error .invalidUtf8 else .ok l.char

/-- The character that a literal in a class stands for. -/
def classLiteral (f : Flags) (l : Literal) : Except Fault Char := do
  let c ← f.literal l
  if !f.unicode && c.toNat > 0x7F then .error .unicodeNotAllowed else pure c

/-- The set of a `\p`. -/
def property (f : Flags) (negated : Bool) (q : Query) : Except Fault CharSet :=
  if f.unicode then do f.finish negated (← f.properties q) else .error .unicodeNotAllowed

/-- The set of a short class.  These are closed under case already. -/
def shorthand (f : Flags) (negated : Bool) (s : Shorthand) : Except Fault CharSet :=
  if f.unicode then
    .ok (if negated then .complement (.ranges s.ranges) else .ranges s.ranges)
  else if negated then .error .invalidUtf8
  else .ok (.ranges s.ascii.ranges)

/-- The set of a `.`. -/
def dot (f : Flags) : Except Fault CharSet :=
  if !f.unicode then .error .invalidUtf8
  else if f.dotAll then .ok .any
  else if f.carriageReturn then .ok (.complement (.union (.single '\r') (.single '\n')))
  else .ok (.complement (.single '\n'))

/-- What an assertion asks under these flags. -/
def anchor (f : Flags) : Anchor → Look
  | .lineStart =>
    if f.multiLine then (if f.carriageReturn then .anyLineStart else .lineStart) else .textStart
  | .lineEnd =>
    if f.multiLine then (if f.carriageReturn then .anyLineEnd else .lineEnd) else .textEnd
  | .textStart => .textStart
  | .textEnd => .textEnd
  | .wordEdge => .wordEdge f.unicode
  | .noWordEdge => .noWordEdge f.unicode
  | .wordStart => .wordStart f.unicode
  | .wordEnd => .wordEnd f.unicode
  | .wordStartHalf => .wordStartHalf f.unicode
  | .wordEndHalf => .wordEndHalf f.unicode

end Flags

/-! ## Classes -/

mutual

/-- The set of what a class holds, before the class itself is folded and negated. -/
def Bracket.set (f : Flags) : Bracket → Except Fault CharSet
  | .empty => .ok .empty
  | .literal l => do
    let c ← f.classLiteral l
    pure (.single c)
  | .range first last => do
    let a ← f.classLiteral first
    let b ← f.classLiteral last
    pure (.ranges [(a.toNat, b.toNat)])
  | .ascii negated c => f.finish negated (.ranges c.ranges)
  | .property negated q => f.property negated q
  | .shorthand negated s => f.shorthand negated s
  | .nested negated b => do f.finish negated (← b.set f)
  | .union bs => Bracket.unionSet f bs
  | .op kind l r => do
    let l ← l.set f
    let r ← r.set f
    pure (.ofOp kind (f.fold l) (f.fold r))

/-- The union of the sets of several items. -/
def Bracket.unionSet (f : Flags) : List Bracket → Except Fault CharSet
  | [] => .ok .empty
  | b :: bs => do
    let s ← b.set f
    let t ← Bracket.unionSet f bs
    pure (.union s t)

end

/-! ## Expressions -/

mutual

/-- The meaning of an expression, and the flags in force after it. -/
def Expr.meaning (f : Flags) : Expr → Except Fault (Regex × Flags)
  | .empty => .ok (.empty, f)
  | .flags items => .ok (.empty, f.apply items)
  | .literal l => do
    let c ← f.literal l
    pure (.one (f.fold (.single c)), f)
  | .dot => do
    let s ← f.dot
    pure (.one s, f)
  | .anchor a => .ok (.look (f.anchor a), f)
  | .property negated q => do
    let s ← f.property negated q
    pure (.one s, f)
  | .shorthand negated s => do
    let s ← f.shorthand negated s
    pure (.one s, f)
  | .bracket negated b => do
    let s ← b.set f
    let s ← f.finish negated s
    pure (.one s, f)
  | .repetition least most e => do
    let (r, f) ← e.meaning f
    pure (.repeated least most r, f)
  | .group items e => do
    let (r, _) ← e.meaning (f.apply items)
    pure (r, f)
  | .alternation es => Expr.alternatives f es
  | .concat es => Expr.sequence f es

/-- The meaning of the branches of an alternation. -/
def Expr.alternatives (f : Flags) : List Expr → Except Fault (Regex × Flags)
  | [] => .ok (.one .empty, f)
  | e :: es => do
    let (r, f) ← e.meaning f
    let (s, f) ← Expr.alternatives f es
    pure (.alt r s, f)

/-- The meaning of expressions one after another. -/
def Expr.sequence (f : Flags) : List Expr → Except Fault (Regex × Flags)
  | [] => .ok (.empty, f)
  | e :: es => do
    let (r, f) ← e.meaning f
    let (s, f) ← Expr.sequence f es
    pure (.seq r s, f)

end

/-! ## Engines -/

/-- What an engine brings along besides the syntax. -/
structure Engine where
  /-- The set that a `\p` asks for.  Each version of the standard has more of them. -/
  property : Query → Except Fault CharSet
  /-- The expression of that text is not too large. -/
  admits (ignoreCase : Bool) (text : List Char) : Bool

namespace Engine

/-- The engine that knows the properties of the tables and takes an expression of any size. -/
def standard : Engine := ⟨Query.set, fun _ _ => true⟩

/-- The flags that an expression begins with. -/
def flags (engine : Engine) (ignoreCase : Bool) : Flags :=
  { ignoreCase, properties := engine.property }

end Engine

/-- The regular expression that a text stands for. -/
def ofText (engine : Engine) (ignoreCase : Bool) (text : List Char) : Except Fault Regex := do
  let e ← Expr.ofText text
  let (r, _) ← e.meaning (engine.flags ignoreCase)
  pure r

/-- The regular expression that a text stands for, unless it is too large. -/
def Engine.compile (engine : Engine) (ignoreCase : Bool) (text : List Char) :
    Except Fault Regex := do
  let r ← ofText engine ignoreCase text
  if engine.admits ignoreCase text then pure r else .error .tooLarge

@[simp] theorem Engine.compile_standard (ignoreCase : Bool) (text : List Char) :
    standard.compile ignoreCase text = ofText standard ignoreCase text := by
  rw [compile]
  cases ofText standard ignoreCase text <;> rfl

end Frontier.Regex
