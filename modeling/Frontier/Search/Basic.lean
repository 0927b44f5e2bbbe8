import Frontier.CommandLine.Configuration
import Frontier.Dispatcher.Schedule
import Frontier.Search.Examination

/-!
# Searching

A search is a list of roots with what is wanted of them.  It is checked before anything is examined.
Then each root whose key is new becomes a job of a dispatcher that has not been started, and the
dispatcher is drained: the jobs submit jobs for what they discover, until none is left.
-/
namespace Frontier

open Dispatcher (Machine Request Returned Stats)

/-- What is searched, and for what. -/
structure Search where
  roots : List Path
  pattern : Option NamePattern
  /-- Decides instead of the pattern. -/
  matcher : Option Matcher
  typeFilter : TypeFilter
  threads : Nat
  minDepth : Nat
  /-- How far to go down, if not as far as there is anything. -/
  maxDepth : Option Nat
  sink : Option Sink
  /-- The search stops when a flag is raised.  It has that value when the search begins. -/
  stopFlag : Option Bool
  keepsPaths : Bool
  keepsFailures : Bool

/-- What a search found. -/
structure Results where
  matched : Nat
  paths : List Path
  files : Nat
  dirs : Nat
  errors : Nat
  failures : List Failure
  dispatch : Stats
  /-- The search was not cut short. -/
  completed : Bool
  deriving Repr

namespace Search

/-- The number of threads where none is asked for: as many as the machine runs at once, or four where
that cannot be found out. -/
def usualThreads (parallelism : Option Nat) : Nat := parallelism.getD 4

/-- The depth below which no search goes. -/
def deepest : Nat := 18446744073709551615

/-- The search that has no roots and reports everything, on a machine of that parallelism. -/
def starting (parallelism : Option Nat) : Search where
  roots := []
  pattern := none
  matcher := none
  typeFilter := .any
  threads := usualThreads parallelism
  minDepth := 0
  maxDepth := none
  sink := none
  stopFlag := none
  keepsPaths := false
  keepsFailures := false

/-- The same on a machine whose parallelism cannot be found out. -/
def empty : Search := starting none

/-- The search that a configuration asks for. -/
def ofConfiguration (c : CommandLine.Configuration) : Search :=
  { empty with
    roots := c.roots
    pattern := c.pattern
    typeFilter := c.typeFilter
    threads := c.threads
    minDepth := c.minDepth
    maxDepth := c.maxDepth }

/-! ## Checks -/

/-- The matcher of a pattern. -/
def patternMatcher : Option NamePattern → Except Failure Matcher
  | none => .ok fun _ => .accept
  | some p => p.compile.map fun m entry => .ofBool (m.accepts entry.name)

/-- The matcher that decides. -/
def effectiveMatcher (s : Search) : Except Failure Matcher :=
  match s.matcher with
  | some matcher => .ok matcher
  | none => patternMatcher s.pattern

/-- Checks a search: that it has a root and a thread, then the depths, then the pattern. -/
def plan (disk : Disk) (s : Search) : Except Failure Plan := do
  if s.roots.isEmpty then .error (.invalidSource "no root provided") else pure ()
  if s.threads = 0 then .error (.invalidThreadCount s.threads) else pure ()
  CommandLine.Configuration.checkDepths s.minDepth s.maxDepth
  let matcher ← s.effectiveMatcher
  pure {
    disk, matcher
    typeFilter := s.typeFilter
    minDepth := s.minDepth
    maxDepth := s.maxDepth.getD deepest
    sink := s.sink
    watchesFlag := s.stopFlag.isSome
    keepsPaths := s.keepsPaths
    keepsFailures := s.keepsFailures }

/-! ## The search as a machine -/

/-- Puts the keys of places into the set and keeps the first place of each new key. -/
def firstOfKeys (visited : Visited) : List Place → Visited × List Place
  | [] => (visited, [])
  | p :: rest =>
    let (visited, fresh) := visited.insert p.key
    let (visited, kept) := firstOfKeys visited rest
    (visited, if fresh then p :: kept else kept)

/-- The places where a search begins, and their keys. -/
def beginnings (disk : Disk) (s : Search) : Visited × List Place :=
  firstOfKeys .empty (s.roots.map (Place.root disk))

/-- The requests of the thread that searches: a job for each place, then to drain. -/
def requests (places : List Place) : List (Request Place Record) :=
  places.flatMap (fun p => [.clone, .submit p 1]) ++ [.drain]

/-- What a bystander does: it gives the flag one value after another. -/
def flagChanges (values : List Bool) : List (Request Place Record) :=
  values.map fun value => .touch fun r => { r with flag := value }

/-- The machine before the first job is submitted.  Bystanders are threads that change the flag while
the search goes on. -/
def machine (disk : Disk) (s : Search) (bystanders : List (List Bool)) :
    Machine Place Examination Record :=
  let (visited, places) := s.beginnings disk
  .ofClients s.threads { Record.empty (s.stopFlag.getD false) with visited } (requests places)
    (bystanders.map flagChanges)

/-- What was found, once the dispatcher has been drained. -/
def resultsOf (record : Record) (dispatch : Stats) : Results where
  matched := record.matched
  paths := record.paths
  files := record.files
  dirs := record.dirs
  errors := record.errors
  failures := record.failures
  dispatch := dispatch
  completed := !record.interrupted

/-- What the searching thread learnt of the drain. -/
def drainOf (history : Machine.History Place) : Option Stats :=
  history.findSome? fun
    | (0, .returned (.drained stats)) => some stats
    | _ => none

/-- The dispatcher refused the job of a root. -/
def rootRefused (history : Machine.History Place) : Bool :=
  history.any fun
    | (0, .returned (.submitted false)) => true
    | _ => false

/-- What a history of the machine comes to, if the search has ended. -/
def outcome (history : Machine.History Place) (record : Record) : Option (Except Failure Results) :=
  if rootRefused history then some (.error .dispatcherClosed)
  else (drainOf history).map fun stats => .ok (resultsOf record stats)

/-! ## Running a search -/

/-- A search that has come to its end: the results, the record, and what happened. -/
structure Finished where
  results : Results
  record : Record
  history : Machine.History Place

/-- More steps than a search takes. -/
def patience : Nat := 1000000000000

/-- Searches a disk.  There is no result if it takes more steps than patience allows. -/
def run (disk : Disk) (s : Search) : Except Failure (Option Finished) := do
  let plan ← s.plan disk
  let (m, history) := (s.machine disk []).settle (workload plan) patience
  match outcome history m.world with
  | some (.ok results) => pure (some ⟨results, m.world, history⟩)
  | some (.error f) => .error f
  | none => pure none

end Search

end Frontier
