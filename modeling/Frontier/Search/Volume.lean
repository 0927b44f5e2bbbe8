import Frontier.Search.Disk

/-!
# Volumes

A volume is a file tree held in memory, with a current directory.  Paths are resolved name by name: a
path goes on only from a directory, so a separator at its end asks for one; symbolic links are
followed, all but the last one when the link itself is wanted; at most forty of them may be met.

A path that is not too long may lead to where no path does that is not too long: through links, or
from a current directory that is far down.  What is there can be read, but it has no canonical path.
-/
namespace Frontier

/-- What there can be at a place of a volume. -/
inductive Node where
  | file
  /-- What it holds, by names that differ. -/
  | dir (entries : List (OsText × Node))
  | link (target : OsText)
  /-- A socket, a pipe or a device. -/
  | special
  deriving Inhabited

namespace Node

/-- The entry of that name. -/
def find? (entries : List (OsText × Node)) (name : OsText) : Option Node :=
  (entries.find? (·.1 == name)).map (·.2)

/-- What is at the end of a way of names. -/
def at? : Node → List OsText → Option Node
  | n, [] => some n
  | dir entries, name :: rest =>
    match find? entries name with
    | some n => n.at? rest
    | none => none
  | _, _ :: _ => none

/-- Puts a node at the end of a way of names, where there is none yet. -/
def plant : Node → List OsText → Node → Node
  | n, [], _ => n
  | dir entries, [name], new =>
    if (find? entries name).isSome then dir entries else dir (entries ++ [(name, new)])
  | dir entries, name :: rest, new =>
    dir (entries.map fun (entry, n) => (entry, if entry = name then n.plant rest new else n))
  | n, _ :: _, _ => n

end Node

/-- A file tree with a current directory. -/
structure Volume where
  top : Node
  /-- The names on the way to the current directory. -/
  here : List OsText
  deriving Inhabited

namespace Volume

/-- The length of the longest name. -/
def longestName : Nat := 255

/-- The length of the longest path. -/
def longestPath : Nat := 4095

/-- How many symbolic links a resolution may follow. -/
def mostLinks : Nat := 40

/-- Where a walk stops that follows no links. -/
inductive Halt where
  | arrived (location : List OsText)
  /-- At a link in that directory, with so much of the path left. -/
  | atLink (directory : List OsText) (target : OsText) (rest : List OsText)

/-- Walks along the parts of a path up to the next link that is to be followed. -/
def walk (v : Volume) (follow : Bool) (location : List OsText) :
    List OsText → Except SystemError Halt
  | [] => .ok (.arrived location)
  | part :: rest =>
    match v.top.at? location with
    | some (.dir entries) =>
      if part = [] ∨ part = [Path.dot] then v.walk follow location rest
      else if part = [Path.dot, Path.dot] then v.walk follow location.dropLast rest
      else if longestName < part.length then .error .nameTooLong
      else
        match Node.find? entries part with
        | none => .error .missing
        | some (.link target) =>
          if follow || !rest.isEmpty then .ok (.atLink location target rest)
          else v.walk follow (location ++ [part]) rest
        | some _ => v.walk follow (location ++ [part]) rest
    | _ => .error .notDirectory

/-- Where a path begins that is seen from a directory. -/
def origin (directory : List OsText) (path : OsText) : List OsText :=
  if path.head? = some Path.separator then [] else directory

/-- Walks along the parts of a path and follows at most so many links. -/
def follow (v : Volume) (last : Bool) :
    Nat → List OsText → List OsText → Except SystemError (List OsText)
  | links, location, parts =>
    match v.walk last location parts with
    | .error e => .error e
    | .ok (.arrived location) => .ok location
    | .ok (.atLink directory target rest) =>
      match links with
      | 0 => .error .tooManyLinks
      | links + 1 => v.follow last links (origin directory target) (Path.segments target ++ rest)

/-- The location that a path leads to, through a link at its end if `last` says so. -/
def resolve (v : Volume) (last : Bool) (path : Path) : Except SystemError (List OsText) :=
  if path.text.contains 0 then .error .zeroByte
  else if path.text = [] then .error .missing
  else if longestPath < path.text.length then .error .nameTooLong
  else v.follow last mostLinks (origin v.here path.text) (Path.segments path.text)

/-- The absolute path to a location. -/
def pathTo : List OsText → Path
  | [] => ⟨[Path.separator]⟩
  | names => ⟨names.flatMap (Path.separator :: ·)⟩

/-- The absolute path to a location, if it is not too long. -/
def pathTo? (location : List OsText) : Except SystemError Path :=
  if (pathTo location).text.length ≤ longestPath then .ok (pathTo location) else .error .nameTooLong

/-- The kind of a node.  A link that is not followed has none of the others. -/
def kindOf : Node → EntryKind
  | .file => .file
  | .dir _ => .dir
  | .link _ => .symlink
  | .special => .other

/-- What a path leads to. -/
def node (v : Volume) (last : Bool) (path : Path) : Except SystemError Node := do
  let location ← v.resolve last path
  match v.top.at? location with
  | some n => .ok n
  | none => .error .missing

/-- The node is a symbolic link. -/
def isLinkNode : Node → Bool
  | .link _ => true
  | _ => false

/-- What a directory holds. -/
def listNode : Node → Except SystemError (List (Except SystemError DirEntry))
  | .dir entries => .ok (entries.map fun (name, n) => .ok ⟨name, isLinkNode n⟩)
  | _ => .error .notDirectory

/-- The volume as a disk. -/
def disk (v : Volume) : Disk where
  kind path := (v.node true path).map kindOf
  isLink path := match v.node false path with
    | .ok n => isLinkNode n
    | .error _ => false
  list path := do listNode (← v.node true path)
  canonical path := do pathTo? (← v.resolve true path)

/-! ## Making a volume -/

/-- The volume whose only directories are those on the way to the current one. -/
def ofWorkingDirectory (names : List OsText) : Volume where
  top := names.foldr (fun name n => .dir [(name, n)]) (.dir [])
  here := names

/-- Goes along the parts of a path, through links, and makes the directories that are missing. -/
def ensure (v : Volume) (location : List OsText) : List OsText → Volume × List OsText
  | [] => (v, location)
  | part :: rest =>
    if part = [] ∨ part = [Path.dot] then v.ensure location rest
    else if part = [Path.dot, Path.dot] then v.ensure location.dropLast rest
    else
      match v.follow true mostLinks location [part] with
      | .ok found => v.ensure found rest
      | .error _ =>
        ensure { v with top := v.top.plant (location ++ [part]) (.dir []) } (location ++ [part]) rest

/-- The volume with one more node, at a path and with the directories that lead there. -/
def add (v : Volume) (path : Path) (new : Node) : Volume :=
  let parts := (Path.segments path.text).filter (· ≠ [])
  let (v, directory) := v.ensure (origin v.here path.text) parts.dropLast
  match parts.getLast? with
  | some name =>
    if name = [Path.dot] ∨ name = [Path.dot, Path.dot] then v
    else { v with top := v.top.plant (directory ++ [name]) new }
  | none => v

/-- The volume with these nodes, one after another. -/
def addAll (v : Volume) (nodes : List (Path × Node)) : Volume :=
  nodes.foldl (fun v (path, n) => v.add path n) v

end Volume

end Frontier
