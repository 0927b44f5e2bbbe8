import Frontier.Search.Volume

/-!
# File trees as text

A manifest describes a file tree, one line for each node: a letter for what it is, a space, and its
path.  A symbolic link has its target after an arrow.

    d src
    f src/lib.txt
    s run/socket
    l latest -> src/lib.txt
-/
namespace Frontier

namespace Volume

/-- Splits a line at the first arrow. -/
def splitArrow : List Char → List Char × List Char
  | [] => ([], [])
  | ' ' :: '-' :: '>' :: ' ' :: rest => ([], rest)
  | c :: rest =>
    let (before, after) := splitArrow rest
    (c :: before, after)

/-- The node of a line, with its path. -/
def ofLine? : List Char → Option (Path × Node)
  | 'd' :: ' ' :: path => some (⟨OsText.ofChars path⟩, .dir [])
  | 'f' :: ' ' :: path => some (⟨OsText.ofChars path⟩, .file)
  | 's' :: ' ' :: path => some (⟨OsText.ofChars path⟩, .special)
  | 'l' :: ' ' :: rest =>
    let (path, target) := splitArrow rest
    some (⟨OsText.ofChars path⟩, .link (OsText.ofChars target))
  | _ => none

/-- The volume that lines describe.  A line that describes nothing is passed over. -/
def ofManifest (lines : List String) : Volume :=
  (ofWorkingDirectory []).addAll (lines.filterMap fun line => ofLine? line.toList)

end Volume

end Frontier
