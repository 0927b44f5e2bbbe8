import Frontier.Dispatcher.Workload
import Frontier.Search.Observer
import Frontier.Search.Visited

/-!
# Examining a place

A search examines each place in a job of its own.  The job finds out what the place is, submits a job
for each new place that it holds, and only then asks whether the place itself matches.  Each
constructor of `Examination` is a point between two moves, at which other jobs may run; what they
share is the `Record` of the search.
-/
namespace Frontier.Search

open Dispatcher (Move Workload)

/-- What every examination of a search goes by. -/
structure Plan where
  disk : Disk
  matcher : Matcher
  typeFilter : TypeFilter
  minDepth : Nat
  maxDepth : Nat
  sink : Option Sink
  /-- The search stops when the flag is raised. -/
  watchesFlag : Bool
  keepsPaths : Bool
  keepsFailures : Bool

/-- What the examinations of a search have found so far. -/
structure Record where
  visited : Visited
  /-- Somebody wants the search to stop. -/
  flag : Bool
  /-- The search has taken note of the flag. -/
  interrupted : Bool
  files : Nat
  dirs : Nat
  errors : Nat
  matched : Nat
  /-- The paths of matches, if they are kept. -/
  paths : List Path
  /-- The failures, if they are kept. -/
  failures : List Failure
  /-- The matches that the sink was told of. -/
  toldMatches : List Path
  /-- The failures that the sink was told of. -/
  toldFailures : List Failure
  /-- The entries that the matcher was asked about. -/
  judged : List Entry
  /-- The places that were looked at. -/
  examined : List Place
  /-- The places of which it could not be found out what they are. -/
  unclassified : List Place
  /-- The directories that could not be listed. -/
  unlisted : List Place
  /-- The directories with a part that could not be read, once for each part. -/
  unread : List Place
  /-- The places that were passed over because of the flag. -/
  skipped : List Place
  deriving Repr

namespace Record

/-- Nothing has been found. -/
def empty (flag : Bool) : Record where
  visited := .empty
  flag := flag
  interrupted := false
  files := 0
  dirs := 0
  errors := 0
  matched := 0
  paths := []
  failures := []
  toldMatches := []
  toldFailures := []
  judged := []
  examined := []
  unclassified := []
  unlisted := []
  unread := []
  skipped := []

/-- Counts a place of that kind. -/
def countKind (r : Record) (kind : EntryKind) : Record :=
  if kind.isDir then { r with dirs := r.dirs + 1 } else { r with files := r.files + 1 }

/-- Nothing but two counters changes when a place is counted. -/
theorem countKind_eq (r : Record) (kind : EntryKind) :
    r.countKind kind =
      { r with files := r.files + (!kind.isDir).toNat, dirs := r.dirs + kind.isDir.toNat } := by
  unfold countKind
  cases kind.isDir <;> rfl

/-- Takes note of a reaction. -/
def react (r : Record) (reaction : Reaction) : Record :=
  { r with flag := r.flag || reaction.raises }

/-- Tells the sink of a match. -/
def tellMatch (r : Record) (sink : Sink) (path : Path) : Record × Reaction :=
  let reaction := sink.onMatch r.toldMatches.length path
  ({ r with toldMatches := r.toldMatches ++ [path] }.react reaction, reaction)

/-- Tells the sink of a failure. -/
def tellFailure (r : Record) (sink : Sink) (f : Failure) : Record × Reaction :=
  let reaction := sink.onFailure f
  ({ r with toldFailures := r.toldFailures ++ [f] }.react reaction, reaction)

end Record

/-- What a directory was found to hold, as far as it has not been dealt with. -/
abbrev Listing := List (Except SystemError DirEntry)

/-- Where the examination of a place is. -/
inductive Examination where
  /-- Look whether the search is to stop. -/
  | arrive (place : Place)
  /-- The search is to stop: take note of that. -/
  | skip (place : Place)
  /-- Let no job be submitted any more. -/
  | close
  | classify (place : Place)
  | countKind (place : Place) (kind : EntryKind)
  /-- Find out what a directory holds. -/
  | list (place : Place) (kind : EntryKind)
  | children (place : Place) (kind : EntryKind) (rest : Listing)
  /-- Make a handle for the job of a new place. -/
  | prepare (place : Place) (kind : EntryKind) (child : Place) (rest : Listing)
  | submit (place : Place) (kind : EntryKind) (child : Place) (rest : Listing)
  /-- Ask whether the place matches. -/
  | judge (place : Place) (kind : EntryKind)
  | countMatch (path : Path)
  | tellMatch (path : Path)
  | keepMatch (path : Path)
  | countFailure (f : Failure) (next : Examination)
  | tellFailure (f : Failure) (next : Examination)
  | keepFailure (f : Failure) (next : Examination)
  | breakOff (message : String)
  | finish
  deriving Repr

namespace Examination

/-- How an examination goes on after a reaction. -/
def afterReaction (reaction : Reaction) (next : Examination) : Examination :=
  match reaction.panics with
  | some message => breakOff message
  | none => next

/-- How an examination goes on after a verdict. -/
def afterVerdict (path : Path) : Verdict → Examination
  | .accept => countMatch path
  | .reject => finish
  | .panic message => breakOff message

/-- A change of the record, and how the examination goes on. -/
def change (f : Record → Record) (next : Examination) : Move Place Examination Record :=
  .act fun r => (f r, next)

/-- A place may be asked about: it is deep enough and of a kind that is reported. -/
def isCandidate (plan : Plan) (place : Place) (kind : EntryKind) : Bool :=
  plan.minDepth ≤ place.depth && plan.typeFilter.accepts kind

/-- The search goes down from a place. -/
def descends (plan : Plan) (place : Place) (kind : EntryKind) : Bool :=
  kind.isDir && place.depth < plan.maxDepth

/-- The next move of an examination. -/
def move (plan : Plan) : Examination → Move Place Examination Record
  | arrive place => .act fun r => (r, if plan.watchesFlag && r.flag then skip place else classify place)
  | skip place => .act fun r =>
    ({ r with interrupted := true, skipped := r.skipped ++ [place] },
      if r.interrupted then finish else close)
  | close => .close finish
  | classify place => .act fun r =>
    let r := { r with examined := r.examined ++ [place] }
    match plan.disk.classify place.path with
    | .ok kind => (r, countKind place kind)
    | .error f => ({ r with unclassified := r.unclassified ++ [place] }, countFailure f finish)
  | countKind place kind =>
    change (·.countKind kind) (if descends plan place kind then list place kind else judge place kind)
  | list place kind => .act fun r =>
    match plan.disk.list place.path with
    | .ok listing => (r, children place kind listing)
    | .error e =>
      ({ r with unlisted := r.unlisted ++ [place] },
        countFailure (.ofSystem place.path e) (judge place kind))
  | children place kind [] => .act fun r => (r, judge place kind)
  | children place kind (.error e :: rest) => .act fun r =>
    ({ r with unread := r.unread ++ [place] },
      countFailure (.ofSystem place.path e) (children place kind rest))
  | children place kind (.ok e :: rest) => .act fun r =>
    let child := place.ofEntry plan.disk e
    let (visited, fresh) := r.visited.insert child.key
    ({ r with visited }, if fresh then prepare place kind child rest else children place kind rest)
  | prepare place kind child rest => .clone (submit place kind child rest)
  | submit place kind child rest => .submit child 1 fun accepted =>
    if accepted then children place kind rest else judge place kind
  | judge place kind =>
    if isCandidate plan place kind then
      let entry := Entry.ofPath place.path kind place.depth
      change (fun r => { r with judged := r.judged ++ [entry] })
        (afterVerdict place.path (plan.matcher entry))
    else .finish
  | countMatch path =>
    change (fun r => { r with matched := r.matched + 1 }) (tellMatch path)
  | tellMatch path => .act fun r =>
    match plan.sink with
    | none => (r, keepMatch path)
    | some sink =>
      let (r', reaction) := r.tellMatch sink path
      (r', afterReaction reaction (keepMatch path))
  | keepMatch path =>
    change (fun r => if plan.keepsPaths then { r with paths := r.paths ++ [path] } else r) finish
  | countFailure f next =>
    change (fun r => { r with errors := r.errors + 1 }) (tellFailure f next)
  | tellFailure f next => .act fun r =>
    match plan.sink with
    | none => (r, keepFailure f next)
    | some sink =>
      let (r', reaction) := r.tellFailure sink f
      (r', afterReaction reaction (keepFailure f next))
  | keepFailure f next =>
    change (fun r => if plan.keepsFailures then { r with failures := r.failures ++ [f] } else r) next
  | breakOff message => .panic message
  | finish => .finish

end Examination

/-- Each job of a search examines one place. -/
def workload (plan : Plan) : Workload Place Examination Record :=
  ⟨.arrive, Examination.move plan⟩

end Frontier.Search
