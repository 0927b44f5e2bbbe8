/-
# Notes — what a search records, piece by piece

A search records what it finds piece by piece, and in an order that the
scheduler decides.  What does not depend on the order is the multiset of
*notes*: a place was claimed, one was examined, a match was counted, its path
was kept, and so on.

    Record.notes        the notes of what a record says
    placeNotes          those that are made of a place

Each function on records that a search uses adds one note (`Record.notes_examined`
and the like).
-/
import Frontier.Proofs.Search.Walk
import Mathlib

namespace Frontier.Search

/-- A piece of what a search records. -/
inductive Note where
  | claimed (mark : List Path.Component)
  | examined (place : Place)
  | counted (isDir : Bool)
  | matched
  | toldMatch (path : Path)
  | keptMatch (path : Path)
  | failed
  | toldFailure (f : Failure)
  | keptFailure (f : Failure)
  deriving DecidableEq

/-! ## What has been recorded -/

namespace Record

def notes (r : Record) : Multiset Note :=
  .ofList (r.visited.keys.map .claimed) + .ofList (r.examined.map .examined) +
    .replicate r.files (.counted false) + .replicate r.dirs (.counted true) +
    .replicate r.matched .matched + .ofList (r.toldMatches.map .toldMatch) +
    .ofList (r.paths.map .keptMatch) + .replicate r.errors .failed +
    .ofList (r.toldFailures.map .toldFailure) + .ofList (r.failures.map .keptFailure)

variable (r : Record)

theorem notes_examined (p : Place) :
    { r with examined := r.examined ++ [p] }.notes = r.notes + {.examined p} := by
  simp only [notes, List.map_append, List.map_singleton, ← Multiset.coe_add,
    ← Multiset.coe_singleton]
  abel

theorem notes_countKind (kind : EntryKind) :
    (r.countKind kind).notes = r.notes + {.counted kind.isDir} := by
  unfold countKind
  cases kind.isDir <;>
    simp only [notes, if_true, Bool.false_eq_true, if_false, Multiset.replicate_succ,
      ← Multiset.singleton_add] <;> abel

theorem notes_matched : { r with matched := r.matched + 1 }.notes = r.notes + {.matched} := by
  simp only [notes, Multiset.replicate_succ, ← Multiset.singleton_add]
  abel

theorem notes_tellMatch (sink : Sink) (path : Path) :
    (r.tellMatch sink path).1.notes = r.notes + {.toldMatch path} := by
  simp only [notes, tellMatch, react, List.map_append, List.map_singleton, ← Multiset.coe_add,
    ← Multiset.coe_singleton]
  abel

theorem notes_keptMatch (path : Path) :
    { r with paths := r.paths ++ [path] }.notes = r.notes + {.keptMatch path} := by
  simp only [notes, List.map_append, List.map_singleton, ← Multiset.coe_add,
    ← Multiset.coe_singleton]
  abel

theorem notes_failed : { r with errors := r.errors + 1 }.notes = r.notes + {.failed} := by
  simp only [notes, Multiset.replicate_succ, ← Multiset.singleton_add]
  abel

theorem notes_tellFailure (sink : Sink) (f : Failure) :
    (r.tellFailure sink f).1.notes = r.notes + {.toldFailure f} := by
  simp only [notes, tellFailure, react, List.map_append, List.map_singleton, ← Multiset.coe_add,
    ← Multiset.coe_singleton]
  abel

theorem notes_keptFailure (f : Failure) :
    { r with failures := r.failures ++ [f] }.notes = r.notes + {.keptFailure f} := by
  simp only [notes, List.map_append, List.map_singleton, ← Multiset.coe_add,
    ← Multiset.coe_singleton]
  abel

theorem notes_claimed {key : Path} (h : (r.visited.insert key).2 = true) :
    { r with visited := (r.visited.insert key).1 }.notes = r.notes + {.claimed key.components} := by
  rw [(Visited.insert_of_new h).2]
  simp only [notes, List.map_cons, ← Multiset.cons_coe, ← Multiset.singleton_add]
  abel

end Record

/-! ## What is to be recorded -/

section Definition

variable (plan : Plan)

def matchNotes (path : Path) : Multiset Note :=
  {.matched} + ((if plan.sink.isSome then {.toldMatch path} else 0) +
    if plan.keepsPaths then {.keptMatch path} else 0)

def failureNotes (f : Failure) : Multiset Note :=
  {.failed} + ((if plan.sink.isSome then {.toldFailure f} else 0) +
    if plan.keepsFailures then {.keptFailure f} else 0)

/-- What is recorded of a place of the walk. -/
def placeNotes (p : Place) : Multiset Note :=
  {.claimed p.mark} + ({.examined p} +
    ((kindOf? plan p).elim 0 fun kind => {.counted kind.isDir}) +
    ((troubles plan p).map (failureNotes plan)).sum +
    if reports plan p then matchNotes plan p.path else 0)

/-- What is recorded when a place is judged. -/
def judgeNotes (p : Place) (kind : EntryKind) : Multiset Note :=
  if Examination.isCandidate plan p kind &&
      plan.matcher (Entry.ofPath p.path kind p.depth) = .accept then matchNotes plan p.path
  else 0

end Definition

end Frontier.Search
