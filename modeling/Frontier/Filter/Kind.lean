import Frontier.Failure

/-!
# Kinds of entry

What an examined place turned out to be, and which kinds a search reports.
-/
namespace Frontier

/-- The kind of a place, seen through symbolic links. -/
inductive EntryKind where
  | file
  | dir
  /-- A symbolic link that leads nowhere. -/
  | symlink
  /-- A socket, a pipe or a device. -/
  | other
  deriving DecidableEq, Repr

namespace EntryKind

/-- The place may hold others. -/
def isDir (k : EntryKind) : Bool := k == dir

/-- Every kind. -/
def all : List EntryKind := [file, dir, symlink, other]

end EntryKind

/-- Which kinds a search reports. -/
inductive TypeFilter where
  /-- Whatever is no directory. -/
  | file
  | directory
  | any
  deriving DecidableEq, Repr

namespace TypeFilter

/-- The filter lets the kind through. -/
def accepts : TypeFilter → EntryKind → Bool
  | file, k => !k.isDir
  | directory, k => k.isDir
  | any, _ => true

/-- The name of a filter. -/
def name : TypeFilter → String
  | file => "file"
  | directory => "directory"
  | any => "any"

/-- The filter that a text asks for: a name, or its first letter. -/
def ofString : String → Except Failure TypeFilter
  | "f" | "file" => .ok file
  | "d" | "dir" | "directory" => .ok directory
  | "a" | "any" => .ok any
  | text => .error (.unknownTypeFilter text)

/-- A filter's own name asks for it. -/
theorem ofString_name (f : TypeFilter) : ofString f.name = .ok f := by cases f <;> rfl

end TypeFilter

end Frontier
