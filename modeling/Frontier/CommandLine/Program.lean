import Frontier.CommandLine.FindStyle
import Frontier.CommandLine.Parse
import Frontier.Search.Basic

/-!
# The program

From arguments and a disk to what is written and the exit status.  Matches go to standard output, one
a line; failures of single places go to standard error behind their paths and do not count.  A
mistake in the arguments has exit status 2, a configuration that cannot be used 1, a search that was
cut short 130.
-/
namespace Frontier.CommandLine

/-- What the program writes, and its exit status. -/
structure Output where
  exit : Nat
  stdout : String
  stderr : String
  deriving DecidableEq, Repr

/-- The exit status of a search that was cut short. -/
def exitInterrupted : Nat := 130

/-- The line about a failure. -/
def failureLine (f : Failure) : String :=
  match f.path? with
  | some path => path.shown ++ ": " ++ f.message
  | none => f.message

/-- The output for a mistake in the arguments. -/
def Mistake.output (m : Mistake) : Output :=
  if m.isAnswer then ⟨m.exitCode, m.message, ""⟩ else ⟨m.exitCode, "", m.message ++ "\n"⟩

/-- The output for a failure that ends the program. -/
def fatal (context : String) (f : Failure) : Output :=
  ⟨1, "", "Error: " ++ context ++ ": " ++ f.message ++ "\n"⟩

/-- The output of a search. -/
def report (finished : Search.Finished) : Output where
  exit := if finished.results.completed then 0 else exitInterrupted
  stdout := textOfLines (finished.record.toldMatches.map Path.shown)
  stderr := textOfLines (finished.record.toldFailures.map failureLine)

/-- The search of the program: a sink takes note of what is found, and a flag may stop it. -/
def Configuration.search (c : Configuration) : Search :=
  { Search.ofConfiguration c with sink := some .quiet, stopFlag := some false }

/-- Parses arguments, the name of the program among them. -/
def arguments? (args : List OsText) : Except Mistake Arguments := parse (normalize args)

/-- Runs the program on a disk.  `args` does not hold its name. -/
def run (disk : Disk) (args : List OsText) : Output :=
  match arguments? (OsText.ofString programName :: args) with
  | .error m => m.output
  | .ok args =>
    match Configuration.ofArguments args with
    | .error f => fatal "Invalid configuration" f
    | .ok c =>
      match c.search.run disk with
      | .ok (some finished) => report finished
      | .ok none => ⟨exitInterrupted, "", ""⟩
      | .error f => fatal "Search failed" f

end Frontier.CommandLine
