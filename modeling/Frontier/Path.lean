import Frontier.Text.OsText

/-!
# Paths

A path is a byte string in which `/` separates names.  Two paths are the same place to look at when
their components agree: repeated and trailing separators do not count, nor does `.` except as the
first component; `..` is a component like any other.
-/
namespace Frontier

/-- A path as it is written. -/
structure Path where
  text : OsText
  deriving DecidableEq, Repr, Inhabited

namespace Path

/-- The byte between names. -/
def separator : UInt8 := 47

/-- The byte `.`. -/
def dot : UInt8 := 46

/-- A part of a path. -/
inductive Component where
  | root
  | here
  | up
  | name (n : OsText)
  deriving DecidableEq, Repr

/-- The texts between separators, empty ones too. -/
def segments : OsText → List OsText
  | [] => [[]]
  | b :: rest =>
    if b = separator then [] :: segments rest
    else
      match segments rest with
      | s :: more => (b :: s) :: more
      | [] => [[b]]

/-- The component that a text between separators is, if it counts. -/
def inner? (s : OsText) : Option Component :=
  if s = [] ∨ s = [dot] then none
  else if s = [dot, dot] then some .up
  else some (.name s)

/-- The path begins at the root. -/
def isAbsolute (p : Path) : Bool := p.text.head? == some separator

/-- The components of a path. -/
def components (p : Path) : List Component :=
  let parts := segments p.text
  let first : List Component :=
    if p.isAbsolute then [.root] else if parts.head? = some [dot] then [.here] else []
  first ++ parts.filterMap inner?

/-- The last component, if it is a name. -/
def fileName? (p : Path) : Option OsText :=
  match p.components.getLast? with
  | some (.name n) => some n
  | _ => none

/-- What follows the last `.` of the file name, unless nothing precedes it. -/
def extension? (p : Path) : Option OsText := do
  let n ← p.fileName?
  let after := (n.reverse.takeWhile (· ≠ dot)).reverse
  if after.length + 1 < n.length then some after else none

/-- A byte with an upper case ASCII letter made lower case. -/
def lowerByte (b : UInt8) : UInt8 := if 65 ≤ b ∧ b ≤ 90 then b + 32 else b

/-- The path has that extension, without regard to the case of ASCII letters. -/
def extensionIs (p : Path) (extension : OsText) : Bool :=
  p.extension?.map (·.map lowerByte) == some (extension.map lowerByte)

/-- The path of `q` seen from `p`: below `p`, unless `q` is absolute. -/
def join (p : Path) (q : OsText) : Path :=
  if q.head? = some separator then ⟨q⟩
  else if p.text = [] ∨ p.text.getLast? = some separator then ⟨p.text ++ q⟩
  else ⟨p.text ++ separator :: q⟩

/-- The path as text, with U+FFFD for stray bytes. -/
def shown (p : Path) : String := p.text.lossy

/-- The name a place goes by: its file name, or the whole path where there is none. -/
def leafName (p : Path) : String := (p.fileName?.getD p.text).lossy

end Path

end Frontier
