/-
# Verdicts — whom a search asks its matcher about, and how often that breaks off

A place that was looked at is asked about if it is deep enough and of a kind that is
reported.  With a sink that never breaks off nothing comes between: that a matcher breaks
off costs the rest of the examination that asked it, and that rest is nothing.

    asked about + still to be asked about = entries of the jobs that were accepted   (`asked_of_runs`)
    verdicts that broke off = bodies about to break off + bodies that broke off      (`broken_of_runs`)

When the dispatcher has been drained, nobody is still to be asked about and no body is about
to break off; so the counter of the dispatcher says on how many of the places that were
looked at the matcher broke off (`panicked_of_drained`).
-/
import Frontier.Proofs.Search.Dues
import Mathlib

namespace Frontier

/-- The matcher broke off. -/
def Verdict.isPanic : Verdict → Bool
  | panic _ => true
  | _ => false

namespace Search

open Dispatcher
open Dispatcher.Machine (Runs History accepted endings)

variable {plan : Plan} {n : Neighbours} {v v' : Record} {s s' : Shared Place} {f g : SearchFrame}
  {fs gs below above rest : Multiset SearchFrame} {q : Result} {r r' : Option Result}
  {told told' : List (Occurrence Place)} {p : Place} {kind : EntryKind}

/-! ## Whom the matcher is asked about -/

section Definition

variable (plan : Plan)

/-- The entry of a place of that kind, if the matcher is asked about it. -/
def candidate (p : Place) (kind : EntryKind) : Multiset Entry :=
  if Examination.isCandidate plan p kind then {Entry.ofPath p.path kind p.depth} else 0

/-- The entry of a place, if the matcher is asked about it. -/
def entryOf (p : Place) : Multiset Entry := (kindOf? plan p).elim 0 (candidate plan p)

/-- The entry that an examination is still to ask about. -/
def Examination.asking : Examination → Multiset Entry
  | arrive p | skip p | classify p => entryOf plan p
  | countKind p kind | list p kind | children p kind _ | prepare p kind _ _ | submit p kind _ _
  | judge p kind => candidate plan p kind
  | countFailure _ next | tellFailure _ next | keepFailure _ next => next.asking
  | close | countMatch _ | tellMatch _ | keepMatch _ | breakOff _ | finish => 0

/-- What was asked about, and what would have been had its place not been passed over. -/
def Record.asked (r : Record) : Multiset Entry := r.judged + (r.skipped.map (entryOf plan)).sum

end Definition

theorem entryOf_of_ok (h : plan.disk.classify p.path = .ok kind) :
    entryOf plan p = candidate plan p kind := by
  rw [entryOf, kindOf?, h]
  rfl

theorem entryOf_of_error {failure : Failure} (h : plan.disk.classify p.path = .error failure) :
    entryOf plan p = 0 := by
  rw [entryOf, kindOf?, h]
  rfl

theorem Examination.asking_of_finish {ex : Examination} (hmove : move plan ex = .finish) :
    ex.asking plan = 0 := by
  cases makes_of_move hmove with
  | finish => rfl
  | pass p kind hnot => exact if_neg (Bool.eq_false_iff.mp hnot)

theorem Examination.asking_afterVerdict (path : Path) (verdict : Verdict) :
    (afterVerdict path verdict).asking plan = 0 := by
  cases verdict <;> rfl

/-- An examination asks about its entry, or is still to ask. -/
theorem Examination.Acts.asking (hsteady : plan.Steady) {w w' : Record} {ex next : Examination}
    (h : Acts plan w ex w' next) :
    w'.asked plan + next.asking plan = w.asked plan + ex.asking plan := by
  cases h with
  | skipFirst | skipNext =>
      simp only [Record.asked, Examination.asking, List.map_append, List.sum_append,
        List.map_singleton, List.sum_singleton, add_zero, add_assoc]
  | classified hkind =>
      rw [Examination.asking, Examination.asking, entryOf_of_ok hkind]
      rfl
  | unclassified hfailure =>
      rw [Examination.asking, Examination.asking, Examination.asking, entryOf_of_error hfailure]
      rfl
  | descend | stay =>
      rw [Record.countKind_eq]
      rfl
  | judge p kind hcandidate =>
      -- the one step that asks: what was to be asked about goes into the record
      rw [asking_afterVerdict, add_zero, Examination.asking, candidate, if_pos hcandidate,
        Record.asked, Record.asked, ← Multiset.coe_add, Multiset.coe_singleton, add_right_comm]
  | breakMatch path hsink hpanics => cases (hsteady.onMatch hsink _ path).symm.trans hpanics
  | breakFailure f _ hsink hpanics => cases (hsteady.onFailure hsink f).symm.trans hpanics
  | _ => rfl

/-- The entries that are still to be asked about. -/
def questions (plan : Plan) : Burden plan (Multiset Entry) where
  body := Examination.asking plan
  offered _ := 0
  accepted := entryOf plan
  body_arrive _ := rfl
  body_prepare _ _ _ _ := rfl
  body_submit _ _ _ _ := (zero_add _).symm
  body_of_finish := Examination.asking_of_finish
  body_close := rfl
  body_breakOff _ := rfl

section Runs

variable {disk : Disk} {search : Search} {bystanders : List (List Bool)} {reliable : Bool}
  {m : Machine Place Examination Record} {history : History Place}

/-- The entry of each job that was accepted was asked about, or passed over, or is still to be
asked about. -/
theorem asked_of_runs (hsteady : plan.Steady)
    (run : Runs (workload plan) reliable (search.machine disk bystanders) history m) :
    m.world.asked plan + (questions plan).total m.shared m.frames =
      (((accepted history).map Admitted.job).map (entryOf plan)).sum :=
  (questions plan).conserved ⟨fun _ => rfl, fun _ _ _ => rfl⟩ (Record.asked plan) (fun _ _ => rfl)
    (fun hacts _ => hacts.asking hsteady) rfl run

/-- When the dispatcher has been drained, the entries of the places that were looked at were asked
about. -/
theorem judged_of_quiescent (hsteady : plan.Steady)
    (run : Runs (workload plan) reliable (search.machine disk bystanders) history m)
    (hq : m.shared.gate.lifecycle = .quiescent) :
    (m.world.judged : Multiset Entry) = (m.world.examined.map (entryOf plan)).sum := by
  have hasked := asked_of_runs hsteady run
  have hjobs := ((jobs_of_quiescent run hq).map (entryOf plan)).sum_eq
  rw [(questions plan).total_of_quiescent run hq, add_zero, ← hjobs, List.map_append,
    List.sum_append, Record.asked] at hasked
  exact add_right_cancel hasked

end Runs

/-! ## How often the matcher breaks off -/

/-- The matcher breaks off on an entry. -/
def Plan.breaksOn (plan : Plan) (e : Entry) : Bool := (plan.matcher e).isPanic

def Examination.breaking : Examination → Nat
  | breakOff _ => 1
  | _ => 0

/-- The body is about to break off. -/
def breaking : SearchFrame → Nat
  | .run _ _ ex => ex.breaking
  | _ => 0

/-- How many bodies broke off in a step. -/
def brokenIn (told : List (Occurrence Place)) : Nat :=
  (told.filterMap fun o => o.event?.bind Event.ending?).countP (·.2.isPanicked)

theorem Resumes.breaking_eq_zero {failure : Failure} {next : Examination}
    (h : Resumes plan failure next) : next.breaking = 0 := by
  cases h <;> rfl

theorem Examination.breaking_of_finish {ex : Examination} (hmove : move plan ex = .finish) :
    ex.breaking = 0 := by
  cases makes_of_move hmove <;> rfl

theorem Examination.Acts.breaking_eq_zero {w w' : Record} {ex next : Examination}
    (h : Acts plan w ex w' next) : ex.breaking = 0 := by
  cases h <;> rfl

theorem Examination.breaking_afterVerdict (plan : Plan) (e : Entry) :
    (afterVerdict e.path (plan.matcher e)).breaking = [e].countP plan.breaksOn := by
  rw [List.countP_singleton, Plan.breaksOn]
  cases plan.matcher e <;> rfl

/-- Only a verdict makes an examination break off. -/
theorem Examination.Acts.breaking (hsteady : plan.Steady) {w w' : Record} {ex next : Examination}
    (h : Acts plan w ex w' next) (hex : ex.OnCourse plan) :
    w'.judged.countP plan.breaksOn = w.judged.countP plan.breaksOn + next.breaking := by
  cases h with
  | judge p kind =>
      have hnext := breaking_afterVerdict plan (Entry.ofPath p.path kind p.depth)
      rw [List.countP_append]
      exact congrArg _ hnext.symm
  | descend | stay =>
      rw [Record.countKind_eq]
      rfl
  | breakMatch path hsink hpanics => cases (hsteady.onMatch hsink _ path).symm.trans hpanics
  | breakFailure f _ hsink hpanics => cases (hsteady.onFailure hsink f).symm.trans hpanics
  | keepFailure | discardFailure =>
      -- what comes behind a failure is never about to break off
      rw [Resumes.breaking_eq_zero hex]
      rfl
  | _ => rfl

theorem Turn.breaking (h : Turn (workload plan) n v s f v' s' fs r told) (hsteady : plan.Steady)
    (hcourse : OnCourse plan f) (hscripted : Scripted f) :
    v'.judged.countP plan.breaksOn + Search.breaking f =
      v.judged.countP plan.breaksOn + weigh Search.breaking fs + brokenIn told := by
  cases h with
  | act hmove =>
      have hacts := Examination.acts_of_move hmove v
      rw [Search.breaking, hacts.breaking_eq_zero, weigh_singleton]
      exact hacts.breaking hsteady hcourse
  | wait hmove | startInside hmove | ask hmove | dropInside hmove =>
      cases Examination.makes_of_move hmove
  | panic hmove =>
      cases Examination.makes_of_move hmove
      rw [weigh_ended (x := 0) (fun _ => rfl) rfl]
      rfl
  | closeInside hmove | submit hmove | cloneInside hmove =>
      cases Examination.makes_of_move hmove
      rfl
  | finish hmove =>
      rw [weigh_ended (x := 0) (fun _ => rfl) rfl, Search.breaking,
        Examination.breaking_of_finish hmove]
      rfl
  | shed =>
      rw [weigh_ended (x := 0) (fun _ => rfl) rfl]
      rfl
  | takeRegistry | join =>
      rw [weigh_joining (x := 0) (fun _ _ => rfl) rfl]
      rfl
  | pop hp | takeSlot ha | reacquire ha | acquireSelf ha => rfl
  | handBack | giveUp | release =>
      obtain ⟨_, _, events, hrelease, htold⟩ := s.exists_release_eq
      rw [hrelease]
      rcases htold with rfl | rfl <;> rfl
  | touch =>
      cases OnScript.asks hscripted with
      | touch value values => rfl
  | _ => rfl

theorem Receives.breaking_eq (h : Receives q g gs r told) (hg : Scripted g) :
    breaking g = weigh breaking gs := by
  cases h with
  | submitBody =>
      obtain ⟨p, kind, rest, rfl⟩ := hg
      unfold afterSubmission
      split <;> rfl
  | startBody => exact absurd hg id
  | _ => rfl

section Runs

variable {disk : Disk} {search : Search} {bystanders : List (List Bool)} {reliable : Bool}
  {m : Machine Place Examination Record} {history : History Place}

/-- For each verdict that broke off a body is about to break off, or did. -/
theorem broken_of_runs (hsteady : plan.Steady)
    (run : Runs (workload plan) reliable (search.machine disk bystanders) history m) :
    m.world.judged.countP plan.breaksOn =
      weigh breaking m.frames + (endings history).countP (·.2.isPanicked) := by
  refine run.turn_induction
    (P := fun m past => m.world.judged.countP plan.breaksOn =
      weigh breaking m.frames + (endings past).countP (·.2.isPanicked)) ?_ ?_
  · rw [show weigh breaking (search.machine disk bystanders).frames = 0 from
      Machine.weigh_ofClients fun _ _ => rfl]
    rfl
  · intro n f fs below above rest r r' told told' past m₁ m₂ run₁ _ hbefore hafter _ hturn
      hpasses _ h
    have hscripted := scripted_of_runs run₁
    have hcourse := onCourse_of_runs run₁
    rw [hbefore] at h hscripted hcourse
    have hf := hscripted f (Multiset.mem_cons_self ..)
    have hturned := Turn.breaking hturn hsteady (hcourse f (Multiset.mem_cons_self ..)) hf
    have hpassed := hpasses.weigh_eq_of_forall (a := breaking) (p := Scripted)
      Receives.scripted (fun hg _ hscripted => Receives.breaking_eq hg hscripted)
      (Turn.scripted hturn hf).2 fun g hg => hscripted g (by simp [hg])
    rw [weigh_cons, weigh_add, hpassed] at h
    rw [brokenIn] at hturned
    rw [hafter, weigh_add, weigh_add, Machine.endings_append_map, List.filterMap_append,
      hpasses.filterMap_event, List.append_nil, List.countP_append]
    omega

/-- When the dispatcher has been drained, it has counted the places that were looked at and on
which the matcher broke off. -/
theorem panicked_of_drained (hsteady : plan.Steady)
    (run : Runs (workload plan) reliable (search.machine disk bystanders) history m) {stats : Stats}
    (hdrained : (0, .returned (.drained stats)) ∈ history) :
    stats.panicked = m.world.judged.countP plan.breaksOn := by
  obtain ⟨hq, -, -, hpanicked⟩ := run.concluded.drains 0 stats hdrained
  -- no body runs any more, so none is about to break off and none is still to be counted
  have hnone (f : SearchFrame) (hf : f ∈ m.frames) : f.unpanicked = 0 ∧ breaking f = 0 := by
    have hpending := run.accounted.pending_eq_zero hq hf
    cases f <;> first | exact ⟨rfl, rfl⟩ | cases hpending
  have hcounted := run.counted.panicked
  rw [weigh_eq_zero fun f hf => (hnone f hf).1, add_zero] at hcounted
  rw [broken_of_runs hsteady run, weigh_eq_zero fun f hf => (hnone f hf).2, zero_add, hpanicked,
    hcounted]

end Runs

end Search

end Frontier
