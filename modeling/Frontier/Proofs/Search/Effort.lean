/-
# Effort — an examination comes to its end, with all that it leads to

The search goes down so many levels and no further, and a listing is finite.  So
there is a bound on what remains to be done at a place, by recursion on the
levels that are left.  What is already claimed or is not a directory only makes
it less: the disk may have links and the search may be cut short.
-/
import Frontier.Proofs.Dispatcher.Termination
import Frontier.Proofs.Search.Conduct
import Mathlib

namespace Frontier.Search

open Dispatcher

section Definition

variable (plan : Plan)

/-- The effort of the parts of a listing, if that of a place is `below`. -/
def partsEffort (below : Place → Nat) (p : Place) (parts : Listing) : Nat :=
  (parts.map fun part => match part with
    | .ok e => 16 + below (p.ofEntry plan.disk e)
    | .error _ => 4).sum

/-- The effort of what a place holds. -/
def listingEffort (below : Place → Nat) (p : Place) : Nat :=
  match plan.disk.list p.path with
  | .ok listing => partsEffort plan below p listing
  | .error _ => 0

/-- The effort of a place with so many levels below it. -/
def effortWithin : Nat → Place → Nat
  | 0, _ => 11
  | levels + 1, p => 11 + listingEffort plan (effortWithin levels) p

/-- The effort of a place. -/
def effort (p : Place) : Nat := effortWithin plan (plan.maxDepth - p.depth) p

namespace Examination

/-- What an examination has still to do. -/
def effort : Examination → Nat
  | arrive p => Search.effort plan p
  | skip _ => 2
  | close => 1
  | classify p => Search.effort plan p - 1
  | countKind p _ => Search.effort plan p - 2
  | list p _ => 8 + listingEffort plan (Search.effort plan) p
  | children p _ rest => 5 + partsEffort plan (Search.effort plan) p rest
  | prepare p _ child rest =>
      20 + Search.effort plan child + partsEffort plan (Search.effort plan) p rest
  | submit p _ child rest =>
      18 + Search.effort plan child + partsEffort plan (Search.effort plan) p rest
  | judge _ _ => 4
  | countMatch _ => 3
  | tellMatch _ => 2
  | keepMatch _ => 1
  | countFailure _ next => 3 + next.effort
  | tellFailure _ next => 2 + next.effort
  | keepFailure _ next => 1 + next.effort
  | breakOff _ | finish => 0

end Examination

end Definition

variable {plan : Plan} {p : Place} {kind : EntryKind}

theorem eleven_le_effort (plan : Plan) (p : Place) : 11 ≤ effort plan p := by
  unfold effort
  cases plan.maxDepth - p.depth with
  | zero => exact Nat.le_refl 11
  | succ levels => exact Nat.le_add_right ..

/-- A place that is gone down from takes its listing as well. -/
theorem effort_of_lt (h : p.depth < plan.maxDepth) :
    effort plan p = 11 + listingEffort plan (effort plan) p := by
  obtain ⟨levels, hlevels⟩ : ∃ levels, plan.maxDepth - p.depth = levels + 1 :=
    ⟨plan.maxDepth - p.depth - 1, by omega⟩
  have hchild (e : DirEntry) :
      effortWithin plan levels (p.ofEntry plan.disk e) = effort plan (p.ofEntry plan.disk e) := by
    have hdepth : (p.ofEntry plan.disk e).depth = p.depth + 1 := rfl
    have hlevels' : plan.maxDepth - (p.depth + 1) = levels := by omega
    rw [effort, hdepth, hlevels']
  rw [effort, hlevels, effortWithin, listingEffort, listingEffort]
  simp only [partsEffort, hchild]

namespace Examination

theorem effort_afterVerdict_lt (path : Path) (verdict : Verdict) :
    (afterVerdict path verdict).effort plan < 4 := by
  cases verdict <;> simp [afterVerdict, effort]

/-- An act makes an examination shorter. -/
theorem Acts.effort_lt {r r' : Record} {ex next : Examination} (h : Acts plan r ex r' next) :
    next.effort plan < ex.effort plan := by
  cases h with
  | passOver p | look p | @classified p | @unclassified p | stay p =>
      have hlong := eleven_le_effort plan p
      simp only [effort]
      omega
  | descend p kind hdescends =>
      have hdepth : p.depth < plan.maxDepth := by
        simp only [descends, Bool.and_eq_true, decide_eq_true_eq] at hdescends
        exact hdescends.2
      simp only [effort, effort_of_lt hdepth]
      omega
  | listed _ hlist | unlisted _ hlist =>
      simp only [effort, listingEffort, hlist]
      omega
  | noneLeft =>
      simp only [effort]
      omega
  | unread | fresh | known =>
      simp only [effort, partsEffort, List.map_cons, List.sum_cons]
      omega
  | judge => exact effort_afterVerdict_lt ..
  | _ => simp [effort]

end Examination

/-- The effort of examinations ranks the jobs of a search. -/
def ranking (plan : Plan) : Ranking (workload plan) where
  toil := Examination.effort plan
  act hmove r := (Examination.acts_of_move hmove r).effort_lt
  wait hmove := by cases Examination.makes_of_move hmove
  submit hmove ok := by
    cases Examination.makes_of_move hmove
    cases ok <;>
      simp only [workload, afterSubmission, if_true, Bool.false_eq_true, if_false,
        Examination.effort] <;> omega
  start hmove := by cases Examination.makes_of_move hmove
  close hmove := by
    cases Examination.makes_of_move hmove
    exact Nat.lt_succ_self 0
  ask hmove := by cases Examination.makes_of_move hmove
  clone hmove := by
    cases Examination.makes_of_move hmove
    simp only [Examination.effort]
    omega
  drop hmove := by cases Examination.makes_of_move hmove

end Frontier.Search
