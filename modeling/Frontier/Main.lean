import Frontier.CommandLine.Program
import Frontier.Search.Manifest

/-!
# The command line

Reads the manifest of a file tree from standard input and searches it as the arguments say.
-/
namespace Frontier

/-- Reads the lines of a stream to its end. -/
partial def readLines (input : IO.FS.Stream) (read : Array String) : IO (Array String) := do
  let line ← input.getLine
  if line.isEmpty then return read
  readLines input (read.push (String.ofList (line.toList.filter (· ≠ '\n'))))

end Frontier

open Frontier in
/-- Searches the file tree that standard input describes. -/
def main (args : List String) : IO UInt32 := do
  let lines ← readLines (← IO.getStdin) #[]
  let volume := Volume.ofManifest lines.toList
  let output := CommandLine.run volume.disk (args.map OsText.ofString)
  (← IO.getStdout).putStr output.stdout
  (← IO.getStderr).putStr output.stderr
  return UInt32.ofNat output.exit
