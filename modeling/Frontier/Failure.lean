import Frontier.Path
import Frontier.SystemError

/-!
# What can go wrong

The failures of a search, of its configuration and of the dispatcher it runs on, each by its cause.
A failure at a place leaves the rest of a search alone; a failure of the configuration is found
before any work begins.
-/
namespace Frontier

/-- The cause of a failure. -/
inductive Failure where
  | permissionDenied (path : Path)
  | notFound (path : Path)
  | system (path : Path) (error : SystemError)
  | invalidSource (text : String)
  | invalidPattern (pattern reason : String)
  | invalidThreadCount (n : Nat)
  | invalidDepthRange (least most : Nat)
  | unknownTypeFilter (text : String)
  | emptyQueue
  | dispatcherClosed
  deriving DecidableEq, Repr

namespace Failure

/-- An error of the system at a path.  Two kinds are failures of their own. -/
def ofSystem (path : Path) (error : SystemError) : Failure :=
  match error.kind with
  | .permissionDenied => permissionDenied path
  | .notFound => notFound path
  | _ => system path error

/-- The failure in words. -/
def message : Failure → String
  | permissionDenied _ => "permission denied"
  | notFound _ => "no such file or directory"
  | system _ error => error.message
  | invalidSource text => s!"invalid source: {text}"
  | invalidPattern pattern reason => "invalid pattern `" ++ pattern ++ "`: " ++ reason
  | invalidThreadCount n => s!"must use at least 1 thread (got {n})"
  | invalidDepthRange least most => s!"max depth ({most}) is less than min depth ({least})"
  | unknownTypeFilter text => "unknown search type \"" ++ text ++ "\""
  | emptyQueue => "pop() called on empty queue"
  | dispatcherClosed => "dispatcher is closed to new jobs"

/-- The place where it happened, if it happened at one. -/
def path? : Failure → Option Path
  | permissionDenied path | notFound path | system path _ => some path
  | _ => none

/-- The error behind it. -/
def source? : Failure → Option SystemError
  | system _ error => some error
  | _ => none

/-- The search goes on after it. -/
def isRecoverable (f : Failure) : Bool := f.path?.isSome

/-- The configuration is at fault. -/
def isConfiguration : Failure → Bool
  | invalidSource _ | invalidPattern .. | invalidThreadCount _ | invalidDepthRange ..
  | unknownTypeFilter _ => true
  | _ => false

end Failure

end Frontier
