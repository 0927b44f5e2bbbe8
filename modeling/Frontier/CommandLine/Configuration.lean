import Frontier.CommandLine.Option
import Frontier.Filter.Kind
import Frontier.Filter.NamePattern

/-!
# Configurations

A configuration is what arguments ask for once it has been checked.  The checks come in a fixed
order: the type, the number of threads, the depths, the pattern.
-/
namespace Frontier.CommandLine

/-- A checked search configuration. -/
structure Configuration where
  roots : List Path
  pattern : Option NamePattern
  typeFilter : TypeFilter
  minDepth : Nat
  maxDepth : Option Nat
  threads : Nat
  verbose : Bool
  deriving DecidableEq, Repr

namespace Configuration

/-- The current directory. -/
def currentDirectory : Path := ⟨[Path.dot]⟩

/-- The type filter that the arguments ask for. -/
def typeFilterOf (args : Arguments) : Except Failure TypeFilter :=
  match args.type with
  | some text => TypeFilter.ofString text
  | none => .ok .any

/-- The name pattern that the arguments ask for. -/
def patternOf (args : Arguments) : Option NamePattern :=
  NamePattern.select args.regex args.iregex args.name args.iname

/-- Refuses an upper bound below the lower one. -/
def checkDepths (least : Nat) : Option Nat → Except Failure Unit
  | some most => if most < least then .error (.invalidDepthRange least most) else .ok ()
  | none => .ok ()

/-- Refuses a pattern that is no regular expression. -/
def checkPattern : Option NamePattern → Except Failure Unit
  | some p => p.compile.map fun _ => ()
  | none => .ok ()

/-- Checks arguments.  Without paths the current directory is searched. -/
def ofArguments (args : Arguments) : Except Failure Configuration := do
  let typeFilter ← typeFilterOf args
  if args.jobs = 0 then .error (.invalidThreadCount args.jobs) else pure ()
  let minDepth := args.minDepth.getD 0
  checkDepths minDepth args.maxDepth
  let pattern := patternOf args
  checkPattern pattern
  pure {
    roots := if args.roots.isEmpty then [currentDirectory] else args.roots
    pattern, typeFilter, minDepth
    maxDepth := args.maxDepth
    threads := args.jobs
    verbose := args.verbose }

end Configuration

end Frontier.CommandLine
