/-
# Dues — what an examination has still to do with a place that was claimed

Once a place is claimed, it is to be noted what it is, what goes wrong with it
and whether it is reported, and each of its children is to be looked at.
`placeNotes` are the notes, `stepsFrom` the children; a search that goes on
owes them for all that it has claimed.

    noted + lost + owed     = notes of the places claimed
    looked at + ahead       = children of the places claimed

A body that breaks off loses notes that come after the break (`Lost`), but
never what was examined, what it was, or that something went wrong; and it
loses no child, if the sink bears to hear of a part of a listing that cannot be
read (`Plan.Patient`).
-/
import Frontier.Proofs.Search.Burden
import Frontier.Proofs.Search.Ways
import Mathlib

namespace Frontier.Search

variable {plan : Plan} {p c : Place} {kind : EntryKind} {e : DirEntry} {rest : Listing}
  {r : Record}

/-! ## What is owed -/

section Definition

variable (plan : Plan)

/-- The notes of what goes wrong in a listing. -/
def troubleNotes (parts : List (Except Failure Place)) : Multiset Note :=
  ((parts.filterMap failure?).map (failureNotes plan)).sum

/-- What is noted of a place after it was claimed. -/
def ownNotes (p : Place) : Multiset Note :=
  {.examined p} + ((kindOf? plan p).elim 0 fun kind => {.counted kind.isDir}) +
    ((troubles plan p).map (failureNotes plan)).sum +
    if reports plan p then matchNotes plan p.path else 0

/-- The steps from a place to what was found in it. -/
def partSteps (p : Place) (parts : List (Except Failure Place)) : Multiset (Place × Place) :=
  .ofList ((parts.filterMap Except.toOption).map (p, ·))

/-- The steps from a place to its children. -/
def stepsFrom (p : Place) : Multiset (Place × Place) := .ofList ((childrenOf plan p).map (p, ·))

/-- What an examination is still to note, of its place and of a child that it has claimed. -/
def Examination.owed : Examination → Multiset Note
  | arrive p | skip p | classify p => ownNotes plan p
  | countKind p kind =>
      {.counted kind.isDir} + (troubleNotes plan (holdings plan p kind) + judgeNotes plan p kind)
  | list p kind => troubleNotes plan (listed plan p) + judgeNotes plan p kind
  | children p kind rest => troubleNotes plan (rest.map (partOf plan p)) + judgeNotes plan p kind
  | prepare p kind c rest | submit p kind c rest =>
      ownNotes plan c + (troubleNotes plan (rest.map (partOf plan p)) + judgeNotes plan p kind)
  | judge p kind => judgeNotes plan p kind
  | countMatch path => matchNotes plan path
  | tellMatch path =>
      (if plan.sink.isSome then {.toldMatch path} else 0) +
        if plan.keepsPaths then {.keptMatch path} else 0
  | keepMatch path => if plan.keepsPaths then {.keptMatch path} else 0
  | countFailure f next => failureNotes plan f + next.owed
  | tellFailure f next =>
      (if plan.sink.isSome then {.toldFailure f} else 0) +
        (if plan.keepsFailures then {.keptFailure f} else 0) + next.owed
  | keepFailure f next => (if plan.keepsFailures then {.keptFailure f} else 0) + next.owed
  | close | breakOff _ | finish => 0

/-- The steps that an examination is still to look at, from its place and from a child that it has
claimed. -/
def Examination.ahead : Examination → Multiset (Place × Place)
  | arrive p | skip p | classify p => stepsFrom plan p
  | countKind p kind => partSteps p (holdings plan p kind)
  | list p _ => partSteps p (listed plan p)
  | children p _ rest => partSteps p (rest.map (partOf plan p))
  | prepare p _ c rest | submit p _ c rest =>
      stepsFrom plan c + partSteps p (rest.map (partOf plan p))
  | countFailure _ next | tellFailure _ next | keepFailure _ next => next.ahead
  | _ => 0

/-- The step that an examination looks at next. -/
def Examination.looks : Examination → List (Place × Place)
  | children p _ (.ok e :: _) => [(p, p.ofEntry plan.disk e)]
  | _ => []

/-- The place that it claims. -/
def Examination.claims (r : Record) (ex : Examination) : List Place :=
  ((ex.looks plan).map Prod.snd).filter fun c => !r.visited.contains c.key

/-- The sink does not break off when it is told of a part of a listing that cannot be read. -/
def Plan.Patient : Prop :=
  ∀ sink, plan.sink = some sink → ∀ path listing e, plan.disk.list path = .ok listing →
    .error e ∈ listing → (sink.onFailure (.ofSystem path e)).panics = none

end Definition

/-- Neither the matcher nor the sink breaks off. -/
structure Plan.Calm (plan : Plan) : Prop where
  matcher (entry : Entry) (message : String) : plan.matcher entry ≠ .panic message
  onMatch {sink : Sink} : plan.sink = some sink → ∀ n path, (sink.onMatch n path).panics = none
  onFailure {sink : Sink} : plan.sink = some sink → ∀ f, (sink.onFailure f).panics = none

/-- The sink never breaks off, whatever the matcher does. -/
structure Plan.Steady (plan : Plan) : Prop where
  onMatch {sink : Sink} : plan.sink = some sink → ∀ n path, (sink.onMatch n path).panics = none
  onFailure {sink : Sink} : plan.sink = some sink → ∀ f, (sink.onFailure f).panics = none

/-- A note that is made whatever a matcher or a sink does. -/
def Note.Firm : Note → Prop
  | claimed _ | examined _ | counted _ | failed => True
  | _ => False

/-- What a body that broke off has left out. -/
structure Lost (plan : Plan) (lost : Multiset Note) : Prop where
  not_firm : ∀ note ∈ lost, ¬note.Firm
  eq_zero : plan.Steady → lost = 0

theorem Plan.Calm.steady (h : plan.Calm) : plan.Steady := ⟨h.onMatch, h.onFailure⟩

theorem Plan.Steady.patient (h : plan.Steady) : plan.Patient :=
  fun _ hsink _ _ _ _ _ => h.onFailure hsink _

theorem Plan.Calm.patient (h : plan.Calm) : plan.Patient := h.steady.patient

theorem Lost.zero (plan : Plan) : Lost plan 0 := ⟨by simp, fun _ => rfl⟩

theorem Lost.add {lost lost' : Multiset Note} (h : Lost plan lost) (h' : Lost plan lost') :
    Lost plan (lost + lost') where
  not_firm note hnote := (Multiset.mem_add.mp hnote).elim (h.not_firm note) (h'.not_firm note)
  eq_zero hsteady := by rw [h.eq_zero hsteady, h'.eq_zero hsteady, add_zero]

/-! ## Small laws -/

@[simp] theorem troubleNotes_nil : troubleNotes plan [] = 0 := rfl

@[simp] theorem troubleNotes_error (f : Failure) (parts : List (Except Failure Place)) :
    troubleNotes plan (.error f :: parts) = failureNotes plan f + troubleNotes plan parts :=
  List.sum_cons

@[simp] theorem troubleNotes_ok (c : Place) (parts : List (Except Failure Place)) :
    troubleNotes plan (.ok c :: parts) = troubleNotes plan parts := rfl

@[simp] theorem partSteps_nil : partSteps p [] = 0 := rfl

@[simp] theorem partSteps_error (f : Failure) (parts : List (Except Failure Place)) :
    partSteps p (.error f :: parts) = partSteps p parts := rfl

@[simp] theorem partSteps_ok (parts : List (Except Failure Place)) :
    partSteps p (.ok c :: parts) = {(p, c)} + partSteps p parts := by
  rw [partSteps, Multiset.singleton_add]
  rfl

theorem placeNotes_eq (p : Place) : placeNotes plan p = {.claimed p.mark} + ownNotes plan p := rfl

theorem ownNotes_of_ok (h : plan.disk.classify p.path = .ok kind) :
    ownNotes plan p = {.examined p} + ({.counted kind.isDir} +
      (troubleNotes plan (holdings plan p kind) + judgeNotes plan p kind)) := by
  rw [ownNotes, kindOf?, troubles, reports, h, troubleNotes, judgeNotes]
  simp only [Except.toOption, Option.elim_some, add_assoc]

theorem ownNotes_of_error {f : Failure} (h : plan.disk.classify p.path = .error f) :
    ownNotes plan p = {.examined p} + failureNotes plan f := by
  rw [ownNotes, kindOf?, troubles, reports, h]
  simp [Except.toOption]

theorem stepsFrom_of_ok (h : plan.disk.classify p.path = .ok kind) :
    stepsFrom plan p = partSteps p (holdings plan p kind) := by
  rw [stepsFrom, childrenOf, h, partSteps]

theorem stepsFrom_of_error {f : Failure} (h : plan.disk.classify p.path = .error f) :
    stepsFrom plan p = 0 := by
  rw [stepsFrom, childrenOf, h]
  rfl

theorem mem_stepsFrom {x : Place × Place} :
    x ∈ stepsFrom plan p ↔ x.1 = p ∧ x.2 ∈ childrenOf plan p := by
  obtain ⟨q, c⟩ := x
  simp only [stepsFrom, Multiset.mem_coe, List.mem_map, Prod.mk.injEq]
  constructor
  · rintro ⟨c, hc, rfl, rfl⟩
    exact ⟨rfl, hc⟩
  · rintro ⟨rfl, hc⟩
    exact ⟨c, hc, rfl, rfl⟩

namespace Examination

theorem owed_of_finish {ex : Examination} (hmove : move plan ex = .finish) :
    ex.owed plan = 0 := by
  cases makes_of_move hmove with
  | finish => rfl
  | pass p kind hnot =>
      rw [owed, judgeNotes, hnot]
      rfl

theorem ahead_of_finish {ex : Examination} (hmove : move plan ex = .finish) :
    ex.ahead plan = 0 := by
  cases makes_of_move hmove <;> rfl

/-! ## One act -/

/-- Notes go from what is owed to the record, or get lost; no step is lost. -/
structure Discharges (plan : Plan) (r : Record) (ex : Examination)
    (after : Record × Examination) : Prop where
  notes : ∃ lost, Lost plan lost ∧
    after.1.notes + after.2.owed plan + lost = r.notes + ex.owed plan
  ahead : after.2.ahead plan = ex.ahead plan
  visited : after.1.visited = r.visited

theorem Discharges.of_kept {ex next : Examination} {r' : Record}
    (hnotes : r'.notes + next.owed plan = r.notes + ex.owed plan)
    (hahead : next.ahead plan = ex.ahead plan) (hvisited : r'.visited = r.visited) :
    Discharges plan r ex (r', next) :=
  ⟨⟨0, .zero plan, by rw [add_zero]; exact hnotes⟩, hahead, hvisited⟩

theorem not_firm_of_mem_ite {b : Prop} [Decidable b] {note note' : Note} (hnote : ¬note.Firm)
    (h : note' ∈ if b then ({note} : Multiset Note) else 0) : ¬note'.Firm := by
  split at h
  · rwa [Multiset.mem_singleton.mp h]
  · exact absurd h (Multiset.notMem_zero note')

/-- What is left out where a sink breaks off that was told of a match. -/
theorem lost_keepMatch (path : Path) {sink : Sink} (hsink : plan.sink = some sink)
    {message : String} (hpanics : (r.tellMatch sink path).2.panics = some message) :
    Lost plan ((keepMatch path).owed plan) where
  not_firm _ hnote := not_firm_of_mem_ite id hnote
  eq_zero hsteady := by cases (hsteady.onMatch hsink _ path).symm.trans hpanics

/-- What is left out of a judgement. -/
theorem not_firm_of_mem_judgeNotes {note : Note} (h : note ∈ judgeNotes plan p kind) :
    ¬note.Firm := by
  unfold judgeNotes at h
  split at h
  · simp only [matchNotes, Multiset.mem_add, Multiset.mem_singleton] at h
    rcases h with rfl | h | h
    · exact id
    · exact not_firm_of_mem_ite id h
    · exact not_firm_of_mem_ite id h
  · exact absurd h (Multiset.notMem_zero note)

/-- What is left out where a sink breaks off that was told of a failure, and that no step is. -/
theorem Resumes.lost {f : Failure} {next : Examination} (h : Resumes plan f next)
    (hpatient : plan.Patient) {sink : Sink} (hsink : plan.sink = some sink)
    {message : String} (hpanics : (r.tellFailure sink f).2.panics = some message) :
    Lost plan ((keepFailure f next).owed plan) ∧ next.ahead plan = 0 := by
  have hnext : (∀ note ∈ next.owed plan, ¬note.Firm) ∧ next.ahead plan = 0 := by
    cases h with
    | finish => exact ⟨by simp [owed], rfl⟩
    | judge => exact ⟨fun _ => not_firm_of_mem_judgeNotes, rfl⟩
    | children hexpands =>
        obtain ⟨listing, hlist, hsuffix⟩ := hexpands.listed
        have hnone := hpatient sink hsink _ _ _ hlist (hsuffix.subset List.mem_cons_self)
        cases hnone.symm.trans hpanics
  refine ⟨⟨?_, fun hsteady => by cases (hsteady.onFailure hsink f).symm.trans hpanics⟩, hnext.2⟩
  intro note hnote
  rw [owed, Multiset.mem_add] at hnote
  exact hnote.elim (not_firm_of_mem_ite id) (hnext.1 note)

/-- What is owed of a verdict is what a judgement owes. -/
theorem afterVerdict_owed (p : Place) (kind : EntryKind) (h : isCandidate plan p kind = true) :
    (afterVerdict p.path (plan.matcher (Entry.ofPath p.path kind p.depth))).owed plan =
      (judge p kind).owed plan := by
  rw [owed, judgeNotes, h]
  cases plan.matcher (Entry.ofPath p.path kind p.depth) <;> simp [afterVerdict, owed]

theorem afterVerdict_ahead (path : Path) (verdict : Verdict) :
    (afterVerdict path verdict).ahead plan = 0 := by
  cases verdict <;> rfl

/-- An examination that acts without looking at a child discharges what it owes. -/
theorem Acts.discharges {ex next : Examination} {r' : Record} (h : Acts plan r ex r' next)
    (hpatient : plan.Patient) (hex : ex.OnCourse plan) (hskip : ∀ p, ex ≠ .skip p)
    (hlooks : ex.looks plan = []) : Discharges plan r ex (r', next) := by
  cases h with
  | skipFirst p | skipNext p => exact absurd rfl (hskip p)
  | fresh | known => cases hlooks
  | passOver | look => exact .of_kept rfl rfl rfl
  | classified hkind =>
      refine .of_kept ?_ ?_ rfl
      · rw [Record.notes_examined, owed, owed, ownNotes_of_ok hkind, add_assoc]
      · rw [Examination.ahead, Examination.ahead, stepsFrom_of_ok hkind]
  | unclassified hfailure =>
      refine .of_kept ?_ ?_ rfl
      · rw [owed, owed, owed, ownNotes_of_error hfailure, add_zero, ← add_assoc,
          ← Record.notes_examined]
        rfl
      · rw [Examination.ahead, Examination.ahead, stepsFrom_of_error hfailure]
        rfl
  | descend p kind hdescends =>
      refine .of_kept ?_ ?_ (by rw [Record.countKind_eq])
      · rw [Record.notes_countKind, owed, owed, holdings, if_pos hdescends, add_assoc]
      · rw [Examination.ahead, Examination.ahead, holdings, if_pos hdescends]
  | stay p kind hstays =>
      have hnone : holdings plan p kind = [] := if_neg (Bool.eq_false_iff.mp hstays)
      refine .of_kept ?_ ?_ (by rw [Record.countKind_eq])
      · rw [Record.notes_countKind, owed, owed, hnone, troubleNotes_nil, zero_add, add_assoc]
      · rw [Examination.ahead, hnone, partSteps_nil]
        rfl
  | listed _ hlist =>
      refine .of_kept ?_ ?_ rfl
      · rw [owed, owed, Search.listed, hlist]
      · rw [Examination.ahead, Examination.ahead, Search.listed, hlist]
  | unlisted _ hlist =>
      refine .of_kept ?_ ?_ rfl
      · rw [owed, owed, owed, Search.listed, hlist, troubleNotes_error, troubleNotes_nil, add_zero]
        rfl
      · rw [Examination.ahead, Examination.ahead, Search.listed, hlist, partSteps_error]
        rfl
  | noneLeft =>
      refine .of_kept ?_ rfl rfl
      rw [owed, owed, List.map_nil, troubleNotes_nil, zero_add]
  | unread =>
      refine .of_kept ?_ rfl rfl
      rw [owed, owed, owed, List.map_cons, partOf, troubleNotes_error, add_assoc]
      rfl
  | judge p kind hcandidate =>
      refine .of_kept ?_ (afterVerdict_ahead ..) rfl
      rw [afterVerdict_owed p kind hcandidate]
      rfl
  | countMatch =>
      refine .of_kept ?_ rfl rfl
      rw [Record.notes_matched, owed, owed, matchNotes, add_assoc]
  | muteMatch _ hsink =>
      refine .of_kept ?_ rfl rfl
      rw [owed, owed, hsink, Option.isSome_none, if_neg Bool.false_ne_true, zero_add]
  | tellMatch _ hsink =>
      refine .of_kept ?_ rfl rfl
      rw [Record.notes_tellMatch, owed, owed, hsink, Option.isSome_some, if_pos rfl, add_assoc]
  | breakMatch path hsink hpanics =>
      refine ⟨⟨_, lost_keepMatch path hsink hpanics, ?_⟩, rfl, rfl⟩
      dsimp only
      rw [Record.notes_tellMatch, owed, owed, owed, hsink, Option.isSome_some, if_pos rfl,
        add_zero, add_assoc]
  | keepMatch _ hkeeps =>
      refine .of_kept ?_ rfl rfl
      rw [Record.notes_keptMatch, owed, owed, if_pos hkeeps, add_zero]
  | discardMatch _ hnot =>
      refine .of_kept ?_ rfl rfl
      rw [owed, owed, if_neg (Bool.eq_false_iff.mp hnot)]
  | countFailure =>
      refine .of_kept ?_ rfl rfl
      rw [Record.notes_failed, owed, owed, failureNotes]
      abel
  | muteFailure _ _ hsink =>
      refine .of_kept ?_ rfl rfl
      rw [owed, owed, hsink, Option.isSome_none, if_neg Bool.false_ne_true, zero_add]
  | tellFailure _ _ hsink =>
      refine .of_kept ?_ rfl rfl
      rw [Record.notes_tellFailure, owed, owed, hsink, Option.isSome_some, if_pos rfl, add_assoc,
        add_assoc]
  | breakFailure f next hsink hpanics =>
      obtain ⟨hlost, hahead⟩ := Resumes.lost hex hpatient hsink hpanics
      refine ⟨⟨_, hlost, ?_⟩, hahead.symm, rfl⟩
      dsimp only
      rw [Record.notes_tellFailure, owed, owed, owed, hsink, Option.isSome_some, if_pos rfl,
        add_zero, add_assoc, add_assoc]
  | keepFailure _ _ hkeeps =>
      refine .of_kept ?_ rfl rfl
      rw [Record.notes_keptFailure, owed, if_pos hkeeps, add_assoc]
  | discardFailure _ _ hnot =>
      refine .of_kept ?_ rfl rfl
      rw [owed, if_neg (Bool.eq_false_iff.mp hnot), zero_add]

/-- What was owed, with what comes with a place that is claimed, is noted, or still owed, or lost;
what was ahead is looked at or still ahead. -/
structure Advances (plan : Plan) (r : Record) (ex : Examination)
    (after : Record × Examination) : Prop where
  notes : ∃ lost, Lost plan lost ∧ after.1.notes + after.2.owed plan + lost =
    r.notes + ex.owed plan + ((ex.claims plan r).map (placeNotes plan)).sum
  steps : .ofList (ex.looks plan) + after.2.ahead plan =
    ex.ahead plan + ((ex.claims plan r).map (stepsFrom plan)).sum
  visited : after.1.visited.keys = (ex.claims plan r).map Place.mark ++ r.visited.keys

theorem advances_of_discharges {ex : Examination} {after : Record × Examination}
    (hlooks : ex.looks plan = []) (h : Discharges plan r ex after) :
    Advances plan r ex after := by
  have hclaims : ex.claims plan r = [] := by rw [claims, hlooks]; rfl
  obtain ⟨lost, hlost, hnotes⟩ := h.notes
  refine ⟨⟨lost, hlost, ?_⟩, ?_, ?_⟩
  · rw [hnotes, hclaims, List.map_nil, List.sum_nil, add_zero]
  · rw [hlooks, hclaims, h.ahead, List.map_nil, List.sum_nil, add_zero]
    exact zero_add _
  · rw [h.visited, hclaims]
    rfl

/-- A child that is looked at is claimed if it is new. -/
theorem claims_of_new (hnew : (r.visited.insert (p.ofEntry plan.disk e).key).2 = true) :
    (children p kind (.ok e :: rest)).claims plan r = [p.ofEntry plan.disk e] := by
  rw [Visited.insert_snd] at hnew
  simp [claims, looks, Bool.not_eq_true' _ |>.mp hnew]

theorem claims_of_known (hold : (r.visited.insert (p.ofEntry plan.disk e).key).2 = false) :
    (children p kind (.ok e :: rest)).claims plan r = [] := by
  rw [Visited.insert_snd] at hold
  simp [claims, looks, Bool.not_eq_false' _ |>.mp hold]

theorem owed_children_ok : (children p kind (.ok e :: rest)).owed plan =
    (children p kind rest).owed plan := rfl

theorem ahead_children_ok : (children p kind (.ok e :: rest)).ahead plan =
    {(p, p.ofEntry plan.disk e)} + (children p kind rest).ahead plan := by
  rw [Examination.ahead, List.map_cons, partOf, partSteps_ok]
  rfl

/-- What is looked at is claimed, if it is new, and comes into the visited set. -/
theorem Acts.visited {ex next : Examination} {r' : Record} (h : Acts plan r ex r' next) :
    r'.visited.keys = (ex.claims plan r).map Place.mark ++ r.visited.keys := by
  cases h with
  | fresh p kind e rest hnew =>
      rw [claims_of_new hnew, (Visited.insert_of_new hnew).2]
      rfl
  | known p kind e rest hold =>
      rw [claims_of_known hold, (Visited.insert_of_known hold).2]
      rfl
  | descend | stay =>
      rw [Record.countKind_eq]
      rfl
  | _ => rfl

/-- A child that is claimed brings its own notes and steps along. -/
theorem advances_fresh (hnew : (r.visited.insert (p.ofEntry plan.disk e).key).2 = true) :
    Advances plan r (.children p kind (.ok e :: rest))
      ({ r with visited := (r.visited.insert (p.ofEntry plan.disk e).key).1 },
        .prepare p kind (p.ofEntry plan.disk e) rest) := by
  refine ⟨⟨0, .zero plan, ?_⟩, ?_, Acts.visited (.fresh p kind e rest hnew)⟩
  · dsimp only
    rw [Record.notes_claimed r hnew, claims_of_new hnew, List.map_singleton,
      List.sum_singleton, placeNotes_eq, owed_children_ok, add_zero, owed, owed, Place.mark]
    abel
  · rw [claims_of_new hnew, ahead_children_ok, List.map_singleton, List.sum_singleton,
      Examination.ahead, Examination.ahead, looks, Multiset.coe_singleton]
    abel

/-- A child that is known is looked at, and that is all. -/
theorem advances_known (hold : (r.visited.insert (p.ofEntry plan.disk e).key).2 = false) :
    Advances plan r (.children p kind (.ok e :: rest))
      ({ r with visited := (r.visited.insert (p.ofEntry plan.disk e).key).1 },
        .children p kind rest) := by
  refine ⟨⟨0, .zero plan, ?_⟩, ?_, Acts.visited (.known p kind e rest hold)⟩
  · dsimp only
    rw [(Visited.insert_of_known hold).2, claims_of_known hold, owed_children_ok]
    rfl
  · rw [claims_of_known hold, ahead_children_ok, List.map_nil, List.sum_nil, add_zero]
    rfl

theorem Acts.advances {ex next : Examination} {r' : Record} (h : Acts plan r ex r' next)
    (hpatient : plan.Patient) (hex : ex.OnCourse plan) (hskip : ∀ p, ex ≠ .skip p) :
    Advances plan r ex (r', next) := by
  by_cases hlooks : ex.looks plan = []
  · exact advances_of_discharges hlooks (h.discharges hpatient hex hskip hlooks)
  · cases h with
    | fresh p kind e rest hnew => exact advances_fresh hnew
    | known p kind e rest hold => exact advances_known hold
    | _ => exact absurd rfl hlooks

theorem not_mem_of_claims {ex : Examination} (hc : c ∈ ex.claims plan r) :
    c.mark ∉ r.visited.keys := by
  intro hmem
  have hnew := (List.mem_filter.mp hc).2
  rw [Bool.not_eq_true', Bool.eq_false_iff, ne_eq, Visited.contains_iff] at hnew
  exact hnew hmem

theorem mem_claims {ex : Examination} {x : Place × Place} (hx : x ∈ ex.looks plan)
    (hnew : x.2.mark ∉ r.visited.keys) : x.2 ∈ ex.claims plan r := by
  refine List.mem_filter.mpr ⟨List.mem_map_of_mem hx, ?_⟩
  rw [Bool.not_eq_true', Bool.eq_false_iff, ne_eq, Visited.contains_iff]
  exact hnew

theorem looks_cases (plan : Plan) (ex : Examination) :
    ex.looks plan = [] ∨ ∃ x, ex.looks plan = [x] := by
  cases ex with
  | children p kind rest =>
      rcases rest with _ | ⟨_ | e, rest⟩
      · exact .inl rfl
      · exact .inl rfl
      · exact .inr ⟨_, rfl⟩
  | _ => exact .inl rfl

end Examination

/-- The notes and the steps that come with a place once it is claimed, as far as they are still to
come. -/
def dues (plan : Plan) : Burden plan (Multiset Note × Multiset (Place × Place)) where
  body ex := (ex.owed plan, ex.ahead plan)
  offered p := (ownNotes plan p, stepsFrom plan p)
  accepted p := (ownNotes plan p, stepsFrom plan p)
  body_arrive _ := rfl
  body_prepare _ _ _ _ := rfl
  body_submit _ _ _ _ := rfl
  body_of_finish hmove :=
    Prod.ext (Examination.owed_of_finish hmove) (Examination.ahead_of_finish hmove)
  body_close := rfl
  body_breakOff _ := rfl

end Frontier.Search
