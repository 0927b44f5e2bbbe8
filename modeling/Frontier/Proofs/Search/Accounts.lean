/-
# Accounts — matches and failures on their way into the results

A match and a failure take the same way.  One comes up, it is counted, the sink
is told of it, and it is kept:

    entered ──▶ counted ──▶ told ──▶ kept

Between two of these steps other examinations may take theirs, and a sink that
breaks off leaves what it was told of unkept.  An *account* says how many came up
and what has become of them, a *stage* how far one examination has come with one
of them.  What a step does with both is said once (`Account.Step`), and what is
entered but not counted, or counted but not told, is then a burden of the search
(`Channel.balanced`).  When the dispatcher has been drained nothing is on its way
(`Channel.settled`).
-/
import Frontier.Proofs.Search.Verdicts
import Mathlib

namespace Frontier.Search

open Dispatcher
open Dispatcher.Machine (Runs History)

/-- How far an examination has come with something that it reports. -/
inductive Stage (α : Type)
  | idle
  | counting (x : α)
  | telling (x : α)
  | keeping (x : α)

/-- What has become of what was reported. -/
structure Account (α : Type) where
  entered : Nat
  counted : Nat
  told : List α
  kept : List α

namespace Account

/-- Nothing was reported. -/
def empty {α : Type} : Account α := ⟨0, 0, [], []⟩

/-- What a step of an examination does with what it reports. -/
inductive Step {α : Type} (plan : Plan) (keeps : Bool) (a : Account α) :
    Stage α → Account α → Stage α → Prop
  | pass : Step plan keeps a .idle a .idle
  | enter (x : α) : Step plan keeps a .idle { a with entered := a.entered + 1 } (.counting x)
  | count (x : α) :
      Step plan keeps a (.counting x) { a with counted := a.counted + 1 } (.telling x)
  | mute (x : α) : plan.sink = none → Step plan keeps a (.telling x) a (.keeping x)
  | tell (x : α) : plan.sink ≠ none →
      Step plan keeps a (.telling x) { a with told := a.told ++ [x] } (.keeping x)
  | breakOff (x : α) : plan.sink ≠ none → ¬plan.Steady →
      Step plan keeps a (.telling x) { a with told := a.told ++ [x] } .idle
  | keep (x : α) : keeps = true →
      Step plan keeps a (.keeping x) { a with kept := a.kept ++ [x] } .idle
  | discard (x : α) : keeps = false → Step plan keeps a (.keeping x) a .idle

/-- All that came up was counted.  The sink was told of all of it, if there is a sink; and what is
kept is what the sink was told of, unless the sink broke off. -/
structure Settled {α : Type} (plan : Plan) (keeps : Bool) (a : Account α) : Prop where
  counted : a.counted = a.entered
  told : plan.sink ≠ none → a.told.length = a.counted
  untold : plan.sink = none → a.told = []
  kept : plan.Steady → keeps = true → a.kept.length = a.counted
  kept_perm : plan.Steady → keeps = true → plan.sink ≠ none → a.kept.Perm a.told
  unkept : keeps = false → a.kept = []

end Account

namespace Examination

/-- The examination is about to count something, to tell of it or to keep it. -/
def reports : Examination → Bool
  | countMatch _ | tellMatch _ | keepMatch _ | countFailure .. | tellFailure ..
  | keepFailure .. => true
  | _ => false

/-- How far an examination has come with a match. -/
def matchStage : Examination → Stage Path
  | countMatch path => .counting path
  | tellMatch path => .telling path
  | keepMatch path => .keeping path
  | _ => .idle

/-- How far an examination has come with a failure. -/
def failureStage : Examination → Stage Failure
  | countFailure f _ => .counting f
  | tellFailure f _ => .telling f
  | keepFailure f _ => .keeping f
  | _ => .idle

end Examination

variable {plan : Plan} {α : Type}

/-- A way on which examinations report something. -/
structure Channel (plan : Plan) (α : Type) where
  account : Record → Account α
  stage : Examination → Stage α
  keeps : Bool
  account_flag (r : Record) (flag : Bool) : account { r with flag } = account r
  account_empty (visited : Visited) (flag : Bool) :
    account { Record.empty flag with visited } = .empty
  stage_of_not_reports {ex : Examination} : ex.reports = false → stage ex = .idle
  step_of_acts {r r' : Record} {ex next : Examination} :
    Examination.Acts plan r ex r' next → ex.OnCourse plan →
      Account.Step plan keeps (account r) (stage ex) (account r') (stage next)

namespace Channel

variable (c : Channel plan α) {M : Type} [AddCommMonoid M]

/-- What is on its way, weighed by how far it has come. -/
def burden (weight : Stage α → M) (hidle : weight .idle = 0) : Burden plan M where
  body ex := weight (c.stage ex)
  offered _ := 0
  accepted _ := 0
  body_arrive _ := by rw [c.stage_of_not_reports rfl, hidle]
  body_prepare _ _ _ _ := by rw [c.stage_of_not_reports rfl, c.stage_of_not_reports rfl]
  body_submit _ _ _ _ := by
    rw [c.stage_of_not_reports rfl, c.stage_of_not_reports rfl, hidle, zero_add]
  body_of_finish {ex} hmove := by
    rw [c.stage_of_not_reports ?_, hidle]
    cases Examination.makes_of_move hmove <;> rfl
  body_close := by rw [c.stage_of_not_reports rfl, hidle]
  body_breakOff _ := by rw [c.stage_of_not_reports rfl, hidle]

section Runs

variable {disk : Disk} {search : Search} {bystanders : List (List Bool)} {reliable : Bool}
  {m : Machine Place Examination Record} {history : History Place}

/-- Two sides of an account that each step changes alike, but for what is on its way, agree when
the dispatcher has been drained. -/
theorem balanced [IsCancelAdd M] (weight : Stage α → M) (hidle : weight .idle = 0)
    (credit debit : Account α → M) (hempty : credit .empty = debit .empty)
    (hstep : ∀ {a a' : Account α} {stage stage' : Stage α},
      Account.Step plan c.keeps a stage a' stage' →
        credit a' + weight stage' + debit a = credit a + weight stage + debit a')
    (run : Runs (workload plan) reliable (search.machine disk bystanders) history m)
    (hq : m.shared.gate.lifecycle = .quiescent) :
    credit (c.account m.world) = debit (c.account m.world) := by
  let B := c.burden weight hidle
  have haccepted (ps : List Place) : (ps.map B.accepted).sum = 0 :=
    List.sum_eq_zero fun _ hx => by
      obtain ⟨_, -, rfl⟩ := List.mem_map.mp hx
      rfl
  have hignores : B.IgnoresRefusal := by
    refine ⟨fun _ => rfl, fun p kind rest => ?_⟩
    have hidle := c.stage_of_not_reports
      (show (Examination.children p kind rest).reports = false from rfl)
    exact congrArg weight (hidle.trans (c.stage_of_not_reports rfl).symm)
  have hbalanced := B.balanced hignores (fun v => credit (c.account v))
    (fun v => debit (c.account v))
    (fun v flag => ⟨congrArg credit (c.account_flag v flag), congrArg debit (c.account_flag v flag)⟩)
    (fun hacts hcourse => hstep (c.step_of_acts hacts hcourse))
    ((congrArg credit (c.account_empty _ _)).trans
      (hempty.trans (congrArg debit (c.account_empty _ _)).symm)) run
  rwa [B.total_of_quiescent run hq, haccepted, add_zero, add_zero] at hbalanced

/-- When the dispatcher has been drained, nothing is on its way. -/
theorem settled (run : Runs (workload plan) reliable (search.machine disk bystanders) history m)
    (hq : m.shared.gate.lifecycle = .quiescent) :
    (c.account m.world).Settled plan c.keeps where
  -- each equation weighs what is between its two stations
  counted := by
    refine c.balanced (fun | .counting _ => 1 | _ => 0) rfl Account.counted Account.entered rfl
      ?_ run hq
    intro a a' stage stage' h
    cases h with
    | enter => dsimp only; omega
    | _ => rfl
  told hsink := by
    refine c.balanced (fun | .telling _ => 1 | _ => 0) rfl (·.told.length) Account.counted rfl
      ?_ run hq
    intro a a' stage stage' h
    cases h with
    | mute _ hnone => exact absurd hnone hsink
    | _ => simp only [List.length_append, List.length_singleton] <;> omega
  untold hnone := by
    refine List.length_eq_zero_iff.mp ?_
    refine c.balanced (fun _ => 0) rfl (·.told.length) (fun _ => 0) rfl ?_ run hq
    intro a a' stage stage' h
    cases h with
    | tell _ hsink | breakOff _ hsink => exact absurd hnone hsink
    | _ => rfl
  kept hsteady hkeeps := by
    refine c.balanced (fun | .telling _ | .keeping _ => 1 | _ => 0) rfl (·.kept.length)
      Account.counted rfl ?_ run hq
    intro a a' stage stage' h
    cases h with
    | breakOff _ _ hbreaks => exact absurd hsteady hbreaks
    | discard _ hnot => exact Bool.noConfusion (hkeeps.symm.trans hnot)
    | _ => simp only [List.length_append, List.length_singleton] <;> omega
  kept_perm hsteady hkeeps hsink := by
    -- the same once more, with what is reported in place of a number
    refine Multiset.coe_eq_coe.mp ?_
    refine c.balanced (M := Multiset α) (fun | .keeping x => {x} | _ => 0) rfl (fun a => a.kept)
      (fun a => a.told) rfl ?_ run hq
    intro a a' stage stage' h
    cases h with
    | mute _ hnone => exact absurd hnone hsink
    | breakOff _ _ hbreaks => exact absurd hsteady hbreaks
    | discard _ hnot => exact Bool.noConfusion (hkeeps.symm.trans hnot)
    | pass | enter | count => rfl
    | tell x =>
        dsimp only
        rw [add_zero, ← Multiset.coe_add, Multiset.coe_singleton]
        abel
    | keep x =>
        dsimp only
        rw [add_zero, ← Multiset.coe_add, Multiset.coe_singleton]
  unkept hnot := by
    refine List.length_eq_zero_iff.mp ?_
    refine c.balanced (fun _ => 0) rfl (·.kept.length) (fun _ => 0) rfl ?_ run hq
    intro a a' stage stage' h
    cases h with
    | keep _ hkeeps => exact Bool.noConfusion (hkeeps.symm.trans hnot)
    | _ => rfl

end Runs

end Channel

/-! ## Matches and failures -/

theorem Resumes.reports_eq_false {failure : Failure} {next : Examination}
    (h : Resumes plan failure next) : next.reports = false := by
  cases h <;> rfl

namespace Examination

theorem matchStage_of_not_reports {ex : Examination} (h : ex.reports = false) :
    ex.matchStage = .idle := by
  cases ex <;> first | rfl | cases h

theorem failureStage_of_not_reports {ex : Examination} (h : ex.reports = false) :
    ex.failureStage = .idle := by
  cases ex <;> first | rfl | cases h

end Examination

/-- What has become of the entries that the matcher accepted. -/
def Record.matchAccount (plan : Plan) (r : Record) : Account Path :=
  ⟨r.judged.countP (plan.matcher · = .accept), r.matched, r.toldMatches, r.paths⟩

/-- What has become of what went wrong. -/
def Record.failureAccount (r : Record) : Account Failure :=
  ⟨r.unclassified.length + r.unlisted.length + r.unread.length, r.errors, r.toldFailures,
    r.failures⟩

theorem Account.Step.of_entered {keeps : Bool} {a a' : Account α} (x : α)
    (h : a' = { a with entered := a.entered + 1 }) :
    Account.Step plan keeps a .idle a' (.counting x) := by
  rw [h]
  exact .enter x

namespace Examination.Acts

variable {ex next : Examination} {v v' : Record}

/-- A match comes up where the matcher accepts, and nowhere else. -/
theorem matchAccount (h : Acts plan v ex v' next) (hex : ex.OnCourse plan) :
    Account.Step plan plan.keepsPaths (v.matchAccount plan) ex.matchStage (v'.matchAccount plan)
      next.matchStage := by
  cases h with
  | judge p kind =>
      -- the verdict says whether a match comes up
      cases hverdict : plan.matcher (Entry.ofPath p.path kind p.depth) with
      | accept =>
          refine .of_entered p.path ?_
          simp [Record.matchAccount, hverdict]
      | reject | panic message =>
          have hsame : ({ v with judged := v.judged ++ [Entry.ofPath p.path kind p.depth] } :
              Record).matchAccount plan = v.matchAccount plan := by
            simp [Record.matchAccount, hverdict]
          rw [hsame]
          exact .pass
  | countMatch path => exact .count path
  | muteMatch path hnone => exact .mute path hnone
  | tellMatch path hsink => exact .tell path (hsink ▸ Option.some_ne_none _)
  | breakMatch path hsink hpanics =>
      refine .breakOff path (hsink ▸ Option.some_ne_none _) fun hsteady => ?_
      exact Option.some_ne_none _ (hpanics.symm.trans (hsteady.onMatch hsink _ path))
  | keepMatch path hkeeps => exact .keep path hkeeps
  | discardMatch path hnot => exact .discard path hnot
  | descend p kind | stay p kind =>
      rw [Record.countKind_eq]
      exact .pass
  | keepFailure | discardFailure =>
      rw [matchStage_of_not_reports (Resumes.reports_eq_false hex)]
      exact .pass
  | _ => exact .pass

/-- A failure comes up where a place, a directory or a part of a listing cannot be read. -/
theorem failureAccount (h : Acts plan v ex v' next) (hex : ex.OnCourse plan) :
    Account.Step plan plan.keepsFailures v.failureAccount ex.failureStage v'.failureAccount
      next.failureStage := by
  cases h with
  | unclassified | unlisted | unread =>
      refine .of_entered _ ?_
      simp only [Record.failureAccount, List.length_append, List.length_singleton,
        Account.mk.injEq, and_self, and_true]
      omega
  | countFailure f => exact .count f
  | muteFailure f _ hnone => exact .mute f hnone
  | tellFailure f _ hsink => exact .tell f (hsink ▸ Option.some_ne_none _)
  | breakFailure f _ hsink hpanics =>
      refine .breakOff f (hsink ▸ Option.some_ne_none _) fun hsteady => ?_
      exact Option.some_ne_none _ (hpanics.symm.trans (hsteady.onFailure hsink f))
  | keepFailure f _ hkeeps =>
      -- the examination goes on where the failure came up, and reports nothing there
      rw [failureStage_of_not_reports (Resumes.reports_eq_false hex)]
      exact .keep f hkeeps
  | discardFailure f _ hnot =>
      rw [failureStage_of_not_reports (Resumes.reports_eq_false hex)]
      exact .discard f hnot
  | judge p kind =>
      cases plan.matcher (Entry.ofPath p.path kind p.depth) <;> exact .pass
  | descend p kind | stay p kind =>
      rw [Record.countKind_eq]
      exact .pass
  | _ => exact .pass

end Examination.Acts

/-- The way of matches. -/
def matchChannel (plan : Plan) : Channel plan Path where
  account := Record.matchAccount plan
  stage := Examination.matchStage
  keeps := plan.keepsPaths
  account_flag _ _ := rfl
  account_empty _ _ := rfl
  stage_of_not_reports := Examination.matchStage_of_not_reports
  step_of_acts := Examination.Acts.matchAccount

/-- The way of failures. -/
def failureChannel (plan : Plan) : Channel plan Failure where
  account := Record.failureAccount
  stage := Examination.failureStage
  keeps := plan.keepsFailures
  account_flag _ _ := rfl
  account_empty _ _ := rfl
  stage_of_not_reports := Examination.failureStage_of_not_reports
  step_of_acts := Examination.Acts.failureAccount

end Frontier.Search
