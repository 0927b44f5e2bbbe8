import Frontier.Failure
import Frontier.Filter.Kind

/-!
# Disks and places

A search sees a disk through four questions: what a path leads to, whether it is a symbolic link,
what a directory holds, and where a path really is.  A place of a search is a path as it was
discovered together with its key, by which places are told apart.
-/
namespace Frontier

/-- What a directory says of something that it holds. -/
structure DirEntry where
  name : OsText
  /-- It is a symbolic link, or the directory cannot tell. -/
  isLink : Bool
  deriving DecidableEq, Repr

/-- A file system that does not change. -/
structure Disk where
  /-- The kind of what a path leads to, through symbolic links. -/
  kind : Path → Except SystemError EntryKind
  /-- The path itself is a symbolic link. -/
  isLink : Path → Bool
  /-- What a directory holds.  Any part of it may fail. -/
  list : Path → Except SystemError (List (Except SystemError DirEntry))
  /-- The absolute path without symbolic links to what a path leads to. -/
  canonical : Path → Except SystemError Path

/-- An examined place, as matchers see it. -/
structure Entry where
  /-- The root joined with each name on the way down. -/
  path : Path
  /-- The file name, or the whole path if it has none. -/
  name : String
  kind : EntryKind
  /-- Roots are at depth 0. -/
  depth : Nat
  deriving DecidableEq, Repr

/-- The entry of a path. -/
def Entry.ofPath (path : Path) (kind : EntryKind) (depth : Nat) : Entry :=
  ⟨path, path.leafName, kind, depth⟩

/-- A place that is still to be examined. -/
structure Place where
  /-- The path as it was discovered. -/
  path : Path
  /-- What tells places apart. -/
  key : Path
  /-- Roots are at depth 0. -/
  depth : Nat
  deriving DecidableEq, Repr

namespace Place

/-- A place to begin at.  Its key is its canonical path, or the path itself where there is none. -/
def root (disk : Disk) (path : Path) : Place where
  path := path
  key := match disk.canonical path with
    | .ok key => key
    | .error _ => path
  depth := 0

/-- A place found in this one. -/
def child (p : Place) (path key : Path) : Place := ⟨path, key, p.depth + 1⟩

/-- The key of something that this place holds: this place's key with the name.  A symbolic link has
the key of what it leads to, if it leads anywhere. -/
def childKey (disk : Disk) (p : Place) (e : DirEntry) : Path :=
  let joined := p.key.join e.name
  if e.isLink then
    match disk.canonical (p.path.join e.name) with
    | .ok key => key
    | .error _ => joined
  else joined

/-- The place of something that this place holds. -/
def ofEntry (disk : Disk) (p : Place) (e : DirEntry) : Place :=
  p.child (p.path.join e.name) (p.childKey disk e)

end Place

/-- What a path is.  A symbolic link that leads nowhere is a kind of its own. -/
def Disk.classify (disk : Disk) (path : Path) : Except Failure EntryKind :=
  match disk.kind path with
  | .ok kind => .ok kind
  | .error e =>
    if e.kind = .notFound ∧ disk.isLink path then .ok .symlink else .error (.ofSystem path e)

end Frontier
