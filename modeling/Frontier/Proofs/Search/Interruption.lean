/-
# Interruption — what becomes of a search that is to stop

A job that finds the flag raised passes its place over and takes note of that;
the first one to do so closes the dispatcher.  Nothing else makes the dispatcher
refuse a job, so whatever is lost by the stop is lost after it was noted.

    a place was passed over      ↔  that was noted              (`Noticed.skipped_iff`)
    a job was refused            →  it was noted before         (`Noticed.not_refused`)
    the job of a root            is never refused               (`not_refused_of_runs`)

The flag may be raised and cleared by anyone at any time.
-/
import Frontier.Proofs.Dispatcher.Completion
import Frontier.Proofs.Search.Course
import Mathlib

namespace Frontier.Search

open Dispatcher
open Dispatcher.Machine (Runs History accepted)

variable {plan : Plan} {n : Neighbours} {v v' : Record} {s s' : Shared Place}
  {f g : SearchFrame} {fs gs below above rest : Multiset SearchFrame} {q : Result}
  {r r' : Option Result} {told told' : List (Occurrence Place)} {past : History Place}

/-- The frame is that of a job that is about to close the dispatcher, or of one that was refused. -/
def Bars : SearchFrame → Prop
  | .run _ _ .close | .discard _ => True
  | _ => False

/-! ## One turn -/

/-- A place is passed over only where that is noted. -/
theorem Examination.Acts.skipped {w w' : Record} {ex next : Examination}
    (h : Acts plan w ex w' next) :
    w'.skipped = w.skipped ∧ w'.interrupted = w.interrupted ∨
      ∃ p, ex = .skip p ∧ w'.skipped = w.skipped ++ [p] ∧ w'.interrupted = true := by
  cases h with
  | skipFirst p | skipNext p => exact .inr ⟨p, rfl, rfl, rfl⟩
  | descend | stay =>
      rw [Record.countKind_eq]
      exact .inl ⟨rfl, rfl⟩
  | _ => exact .inl ⟨rfl, rfl⟩

/-- A turn passes over a place, and notes that, or none. -/
theorem Turn.skipped (h : Turn (workload plan) n v s f v' s' fs r told)
    (hscripted : Scripted f) :
    v'.skipped = v.skipped ∧ v'.interrupted = v.interrupted ∨
      ∃ k held p, f = .run k held (.skip p) ∧ v'.skipped = v.skipped ++ [p] ∧
        v'.interrupted = true := by
  cases h with
  | act hmove =>
      rcases (Examination.acts_of_move hmove v).skipped with hsame | ⟨p, rfl, hskipped, hnoted⟩
      · exact .inl hsame
      · exact .inr ⟨_, _, p, rfl, hskipped, hnoted⟩
  | touch =>
      cases OnScript.asks hscripted with
      | touch value values => exact .inl ⟨rfl, rfl⟩
  | _ => exact .inl ⟨rfl, rfl⟩

/-- Nobody closes the dispatcher of a search that goes on. -/
theorem Turn.accepting (h : Turn (workload plan) n v s f v' s' fs r told) (hscripted : Scripted f)
    (hopen : ∀ k held, f ≠ .run k held .close)
    (haccepting : s.gate.lifecycle ≠ .quiescent → s.gate.accepting = true) :
    s'.gate.lifecycle ≠ .quiescent → s'.gate.accepting = true := by
  cases h with
  | takeSlot ha | reacquire ha | acquireSelf ha =>
      obtain ⟨-, rfl⟩ := Shared.acquire?_eq_some_iff.mp ha
      exact haccepting
  | handBack | giveUp | release =>
      obtain ⟨_, _, _, hrelease, -⟩ := s.exists_release_eq
      rw [hrelease]
      exact haccepting
  | accept he =>
      obtain ⟨-, -, rfl⟩ := Shared.enroll_eq_ok_iff.mp he
      exact haccepting
  | pop hp =>
      obtain ⟨_, -, rfl⟩ := Shared.pop?_eq_some_iff.mp hp
      exact haccepting
  | closeInside hmove =>
      cases Examination.makes_of_move hmove
      exact absurd rfl (hopen _ _)
  | askClose => nomatch OnScript.asks hscripted
  | declare | wake => exact fun hlive => absurd rfl hlive
  | park =>
      intro hlive
      refine Gate.accepting_drain.trans (haccepting fun hq => hlive ?_)
      exact Gate.lifecycle_drain_eq_quiescent_iff.mpr hq
  | start =>
      intro hlive
      refine Gate.accepting_start.trans (haccepting fun hq => hlive ?_)
      exact Gate.lifecycle_start_eq_quiescent_iff.mpr hq
  | _ => exact haccepting

/-- Only a job that passes its place over goes on to close the dispatcher. -/
theorem Examination.Acts.exists_skip {w w' : Record} {ex : Examination}
    (h : Acts plan w ex w' .close) (hex : ex.OnCourse plan) : ∃ p, ex = .skip p := by
  generalize hclose : Examination.close = next at h
  cases h with
  | skipFirst p => exact ⟨p, rfl⟩
  | judge =>
      unfold afterVerdict at hclose
      split at hclose <;> cases hclose
  | keepFailure f _ | discardFailure f _ =>
      subst hclose
      cases (show Resumes plan f .close from hex)
  | _ => cases hclose

/-- As long as no place is passed over and the dispatcher accepts, nothing is refused, and nobody
comes to close it. -/
theorem Turn.unbarred (h : Turn (workload plan) n v s f v' s' fs r told)
    (hcourse : OnCourse plan f) (hf : ¬Bars f)
    (haccepts : f.submits = 1 → s.gate.isAccepting = true)
    (hskip : ∀ k held p, f ≠ .run k held (.skip p)) :
    (∀ g ∈ fs, ¬Bars g) ∧ (∀ p, .event (.refused p) ∉ told) ∧ r ≠ some (.submitted false) := by
  cases h with
  | @act k held ex effect hmove =>
      refine ⟨?_, by simp, by simp⟩
      have hacts := Examination.acts_of_move hmove v
      simp only [Multiset.mem_singleton, forall_eq]
      intro hbars
      generalize (effect v).2 = next at hacts hbars
      cases next with
      | close =>
          obtain ⟨p, rfl⟩ := hacts.exists_skip hcourse
          exact hskip k held p rfl
      | _ => exact hbars
  | wait hmove | ask hmove | dropInside hmove => cases Examination.makes_of_move hmove
  | closeInside hmove =>
      cases Examination.makes_of_move hmove
      exact absurd trivial hf
  | cloneInside hmove =>
      cases Examination.makes_of_move hmove
      exact ⟨by simp [Bars], by simp, by simp⟩
  | refuse he | refuseBare he =>
      have hrefused := Shared.enroll_eq_error he
      rw [haccepts rfl] at hrefused
      cases hrefused
  | discard | discardLast => exact absurd trivial hf
  | pop hp => exact ⟨by simp [Bars, workload], by simp, by simp⟩
  | finish | panic | shed => exact ⟨forall_mem_ended (fun _ => id) id, by simp, by simp⟩
  | takeRegistry | join => exact ⟨forall_mem_joining (fun _ _ => id) id, by simp, by simp⟩
  | handBack | giveUp | release =>
      obtain ⟨_, _, events, hrelease, htold⟩ := s.exists_release_eq
      rw [hrelease]
      rcases htold with rfl | rfl <;> exact ⟨by simp [Bars], by simp, by simp⟩
  | _ => exact ⟨by simp [Bars], by simp, by simp⟩

theorem Receives.unbarred (h : Receives q g gs r told) (hscripted : Scripted g) :
    ∀ f ∈ gs, ¬Bars f := by
  cases h with
  | @submitBody ok =>
      obtain ⟨p, kind, rest, rfl⟩ := hscripted
      simp only [Multiset.mem_singleton, forall_eq]
      cases ok <;> exact id
  | startBody => exact absurd hscripted id
  | _ => simp [Bars]

/-! ## The invariant -/

/-- That a place was passed over is noted; before that the dispatcher accepts and nothing is
refused. -/
structure Noticed (v : Record) (s : Shared Place) (fs : Multiset SearchFrame)
    (past : History Place) : Prop where
  skipped_iff : v.interrupted = true ↔ v.skipped ≠ []
  accepting : v.interrupted = false → s.gate.lifecycle ≠ .quiescent → s.gate.accepting = true
  unbarred : v.interrupted = false → ∀ f ∈ fs, ¬Bars f
  not_refused : v.interrupted = false → ∀ t p, (t, .event (.refused p)) ∉ past

/-- What was noted is not forgotten. -/
theorem Noticed.of_noted (hnoted : v.interrupted = true) (hskipped : v.skipped ≠ []) :
    Noticed v s fs past where
  skipped_iff := ⟨fun _ => hskipped, fun _ => hnoted⟩
  accepting hgoes := by rw [hnoted] at hgoes; cases hgoes
  unbarred hgoes := by rw [hnoted] at hgoes; cases hgoes
  not_refused hgoes := by rw [hnoted] at hgoes; cases hgoes

theorem Turn.passes_over {k held : Nat} {p : Place}
    (h : Turn (workload plan) n v s (.run k held (.skip p)) v' s' fs r told) :
    v'.skipped = v.skipped ++ [p] ∧ v'.interrupted = true := by
  cases h with
  | act hmove =>
      cases hmove
      exact ⟨rfl, rfl⟩
  | wait hmove | ask hmove | dropInside hmove | startInside hmove | closeInside hmove
  | submit hmove | cloneInside hmove | finish hmove | panic hmove => cases hmove

/-- A turn of a search that goes on, in which no place is passed over. -/
theorem Noticed.turn_of_goes_on (h : Noticed v s (f ::ₘ (below + rest)) past)
    (hgoes : v.interrupted = false) (hskip : ∀ k held p, f ≠ .run k held (.skip p))
    (hscripted : ∀ g ∈ f ::ₘ (below + rest), Scripted g) (hcourse : OnCourse plan f)
    (hlive : f.submits = 1 → s.gate.lifecycle ≠ .quiescent)
    (hturn : Turn (workload plan) n v s f v' s' fs r told)
    (hpasses : Passes r below above r' told') :
    (s'.gate.lifecycle ≠ .quiescent → s'.gate.accepting = true) ∧
      (∀ g ∈ fs + (above + rest), ¬Bars g) ∧ r ≠ some (.submitted false) ∧
        ∀ t p, (t, .event (.refused p)) ∉ past ++ (told ++ told').map (n.self, ·) := by
  have hmem : f ∈ f ::ₘ (below + rest) := Multiset.mem_cons_self ..
  have hbars := h.unbarred hgoes
  have hopen : ∀ k held, f ≠ .run k held .close := by
    rintro k held rfl
    exact hbars _ hmem trivial
  have haccepts : f.submits = 1 → s.gate.isAccepting = true := by
    intro hsubmits
    exact Gate.isAccepting_iff.mpr ⟨h.accepting hgoes (hlive hsubmits), hlive hsubmits⟩
  obtain ⟨hfs, htold, hr⟩ := Turn.unbarred hturn hcourse (hbars f hmem) haccepts hskip
  refine ⟨Turn.accepting hturn (hscripted f hmem) hopen (h.accepting hgoes), ?_, hr, ?_⟩
  · exact hpasses.forall_after
      (fun hg hbelow _ => Receives.unbarred hg (hscripted _ (by simp [hbelow]))) hfs
      fun g hg => hbars g (Multiset.mem_cons_of_mem hg)
  · intro t p hmem
    rw [List.mem_append, List.mem_map] at hmem
    rcases hmem with hmem | ⟨o, ho, heq⟩
    · exact h.not_refused hgoes t p hmem
    · cases heq
      rcases List.mem_append.mp ho with ho | ho
      · exact htold p ho
      · have hevent : .refused p ∈ told'.filterMap Occurrence.event? :=
          List.mem_filterMap.mpr ⟨_, ho, rfl⟩
        rw [hpasses.no_event] at hevent
        cases hevent

theorem Noticed.turn (h : Noticed v s (f ::ₘ (below + rest)) past)
    (hscripted : ∀ g ∈ f ::ₘ (below + rest), Scripted g) (hcourse : OnCourse plan f)
    (hlive : f.submits = 1 → s.gate.lifecycle ≠ .quiescent)
    (hturn : Turn (workload plan) n v s f v' s' fs r told)
    (hpasses : Passes r below above r' told') :
    Noticed v' s' (fs + (above + rest)) (past ++ (told ++ told').map (n.self, ·)) := by
  rcases Turn.skipped hturn (hscripted f (Multiset.mem_cons_self ..)) with
    ⟨hskipped, hnoted⟩ | ⟨k, held, p, -, hskipped, hnoted⟩
  · by_cases hinterrupted : v.interrupted = true
    · refine .of_noted (hnoted.trans hinterrupted) ?_
      rw [hskipped]
      exact h.skipped_iff.mp hinterrupted
    · have hskip : ∀ k held p, f ≠ .run k held (.skip p) := by
        rintro k held p rfl
        have hpassed := (Turn.passes_over hturn).1
        rw [hskipped] at hpassed
        simp at hpassed
      obtain ⟨haccepting, hbars, -, hrefused⟩ := h.turn_of_goes_on
        (Bool.eq_false_iff.mpr hinterrupted) hskip hscripted hcourse hlive hturn hpasses
      exact ⟨by rw [hnoted, hskipped]; exact h.skipped_iff, fun _ => haccepting, fun _ => hbars,
        fun _ => hrefused⟩
  · refine .of_noted hnoted ?_
    rw [hskipped]
    exact List.append_ne_nil_of_right_ne_nil _ (List.cons_ne_nil _ _)

/-- In the turn of a frame no place is passed over, and no job is refused. -/
structure Smooth (f : SearchFrame) (r : Option Result) (told : List (Occurrence Place)) : Prop where
  not_skip : ∀ k held p, f ≠ .run k held (.skip p)
  not_refused : ∀ p, .event (.refused p) ∉ told
  not_told : r ≠ some (.submitted false)

section Runs

variable {disk : Disk} {search : Search} {bystanders : List (List Bool)} {reliable : Bool}
  {m : Machine Place Examination Record} {history : History Place}

theorem noticed_of_runs
    (run : Runs (workload plan) reliable (search.machine disk bystanders) history m) :
    Noticed m.world m.shared m.frames history := by
  refine run.turn_induction (P := fun m past => Noticed m.world m.shared m.frames past) ?_ ?_
  · refine ⟨?_, fun _ _ => rfl, ?_, fun _ => nofun⟩
    · exact ⟨nofun, fun h => absurd rfl h⟩
    · intro _ f hf
      obtain ⟨_, _, rfl⟩ := Machine.exists_client_of_mem_ofClients hf
      exact id
  · intro n f fs below above rest r r' told told' past m₁ m₂ run₁ _ hbefore hafter _ hturn
      hpasses _ h
    have hmem : f ∈ m₁.frames := by
      rw [hbefore]
      exact Multiset.mem_cons_self ..
    have hscripted := scripted_of_runs run₁
    have hcourse := onCourse_of_runs run₁ f hmem
    have hlive := live_of_submits run₁ hmem
    rw [hbefore] at h hscripted
    rw [hafter]
    exact h.turn hscripted hcourse hlive hturn hpasses

/-- What was passed over was noted. -/
theorem skipped_of_runs
    (run : Runs (workload plan) reliable (search.machine disk bystanders) history m)
    (h : m.world.interrupted = false) : m.world.skipped = [] := by
  by_contra hskipped
  rw [(noticed_of_runs run).skipped_iff.mpr hskipped] at h
  cases h

/-- What holds at first and outlives smooth turns holds as long as the search goes on. -/
theorem goes_on_induction {P : Machine Place Examination Record → History Place → Prop}
    (run : Runs (workload plan) reliable (search.machine disk bystanders) history m)
    (hgoes : m.world.interrupted = false) (init : P (search.machine disk bystanders) [])
    (turn : ∀ {n f fs below above rest r r' told told' past}
        {m₁ m₂ : Machine Place Examination Record},
      Runs (workload plan) reliable (search.machine disk bystanders) past m₁ →
      Runs (workload plan) reliable (search.machine disk bystanders)
        (past ++ (told ++ told').map (n.self, ·)) m₂ →
      m₁.world.interrupted = false → m₂.world.interrupted = false →
      m₁.frames = f ::ₘ (below + rest) → m₂.frames = fs + (above + rest) →
      Turn (workload plan) n m₁.world m₁.shared f m₂.world m₂.shared fs r told →
      Passes r below above r' told' → Smooth f r told →
      P m₁ past → P m₂ (past ++ (told ++ told').map (n.self, ·))) : P m history := by
  refine run.turn_induction (P := fun m past => m.world.interrupted = false → P m past)
    (fun _ => init) ?_ hgoes
  intro n f fs below above rest r r' told told' past m₁ m₂ run₁ run₂ hbefore hafter _ hturn hpasses
    _ h hgoes₂
  have hmem : f ∈ m₁.frames := by
    rw [hbefore]
    exact Multiset.mem_cons_self ..
  have hscripted := scripted_of_runs run₁
  have hcourse := onCourse_of_runs run₁ f hmem
  have hlive := live_of_submits run₁ hmem
  have hnoticed := noticed_of_runs run₁
  have hskip : ∀ k held p, f ≠ .run k held (.skip p) := by
    rintro k held p rfl
    rw [(Turn.passes_over hturn).2] at hgoes₂
    cases hgoes₂
  have hgoes₁ : m₁.world.interrupted = false := by
    rcases Turn.skipped hturn (hscripted f hmem) with ⟨-, hnoted⟩ | ⟨k, held, p, heq, -, -⟩
    · exact hnoted.symm.trans hgoes₂
    · exact absurd heq (hskip k held p)
  rw [hbefore] at hscripted hnoticed
  obtain ⟨-, -, hr, hrefused⟩ :=
    hnoticed.turn_of_goes_on hgoes₁ hskip hscripted hcourse hlive hturn hpasses
  refine turn run₁ run₂ hgoes₁ hgoes₂ hbefore hafter hturn hpasses ⟨hskip, ?_, hr⟩ (h hgoes₁)
  intro p hp
  exact hrefused n.self p (List.mem_append_right _
    (List.mem_map_of_mem (List.mem_append_left _ hp)))

/-- Until the searching client drains, no place is passed over. -/
theorem goes_on_of_runs
    (run : Runs (workload plan) reliable (search.machine disk bystanders) history m) :
    weigh drainsAhead m.frames = 0 ∨ m.world.interrupted = false := by
  refine run.turn_induction
    (P := fun m _ => weigh drainsAhead m.frames = 0 ∨ m.world.interrupted = false)
    (.inr rfl) ?_
  intro n f fs below above rest r r' told told' past m₁ m₂ run₁ _ hbefore hafter _ hturn
    hpasses _ h
  have hmem : f ∈ m₁.frames := by
    rw [hbefore]
    exact Multiset.mem_cons_self ..
  have hdrained : weigh drainsAhead m₁.frames = 0 → weigh drainsAhead m₂.frames = 0 := by
    intro hzero
    have hpassed := hpasses.weigh_eq Receives.drainsAhead_eq
    have hfs := Turn.drainsAhead_le hturn
    rw [hbefore, weigh_cons, weigh_add] at hzero
    rw [hafter, weigh_add, weigh_add]
    omega
  rcases h with hzero | hgoes
  · exact .inl (hdrained hzero)
  · rcases Turn.skipped hturn (scripted_of_runs run₁ f hmem) with
      ⟨-, hnoted⟩ | ⟨k, held, p, rfl, -, -⟩
    · exact .inr (hnoted.trans hgoes)
    · rcases (drainsOnce_of_runs run₁).before with hzero | ⟨-, hdormant⟩
      · exact .inl (hdrained hzero)
      · exact absurd (hdormant _ hmem) id

/-! ## The jobs of roots -/

theorem Passes.eq_of_refused (h : Passes r below above (some (.submitted false)) told) :
    r = some (.submitted false) := by
  generalize hlast : some (Result.submitted false) = last at h
  cases h with
  | refl => rfl
  | receive _ hg =>
      subst hlast
      cases hg

/-- The return of a submission that was refused is told to the client that made it. -/
theorem Passes.of_told_refused (h : Passes r below above r' told)
    (hmem : .returned (.submitted false) ∈ told) :
    r = some (.submitted false) ∧
      ∃ held script, .client held (some .submit) script ∈ below := by
  induction h with
  | refl => cases hmem
  | receive hpasses hg ih =>
      rcases List.mem_append.mp hmem with hmem | hmem
      · obtain ⟨hr, held, script, hclient⟩ := ih hmem
        exact ⟨hr, held, script, Multiset.mem_cons_of_mem hclient⟩
      · cases hg with
        | @submitClient ok held script =>
            cases ok with
            | true => simp at hmem
            | false => exact ⟨Passes.eq_of_refused hpasses, held, script, Multiset.mem_cons_self ..⟩
        | _ => simp at hmem

theorem Turn.not_told_refused (h : Turn (workload plan) n v s f v' s' fs r told) :
    .returned (.submitted false) ∉ told := by
  cases h with
  | handBack | giveUp | release =>
      obtain ⟨_, _, events, hrelease, htold⟩ := s.exists_release_eq
      rw [hrelease]
      rcases htold with rfl | rfl <;> simp
  | _ => simp

/-- No client is ever told that its job was refused. -/
theorem not_refused_of_runs
    (run : Runs (workload plan) reliable (search.machine disk bystanders) history m) :
    ∀ t, (t, .returned (.submitted false)) ∉ history := by
  refine run.turn_induction
    (P := fun _ past => ∀ t, (t, .returned (.submitted false)) ∉ past) (fun _ => nofun) ?_
  intro n f fs below above rest r r' told told' past m₁ m₂ run₁ _ hbefore _ _ hturn hpasses _ h t
    hmem
  rw [List.mem_append, List.mem_map] at hmem
  rcases hmem with hmem | ⟨o, ho, heq⟩
  · exact h t hmem
  cases heq
  rcases List.mem_append.mp ho with ho | ho
  · exact Turn.not_told_refused hturn ho
  obtain ⟨rfl, held, script, hclient⟩ := Passes.of_told_refused hpasses ho
  have hf : f ∈ m₁.frames := by
    rw [hbefore]
    exact Multiset.mem_cons_self ..
  have hg : .client held (some .submit) script ∈ m₁.frames := by
    rw [hbefore]
    simp [hclient]
  have hscripted := scripted_of_runs run₁
  -- whoever waits for the job of a root has not drained yet, so the search goes on
  have hahead : 0 < weigh drainsAhead m₁.frames := by
    obtain ⟨others, hall⟩ := Multiset.exists_cons_of_mem hg
    cases (show OnScript held (some .submit) script from hscripted _ hg) with
    | submitting places =>
        rw [hall, weigh_cons, drainsAhead, drainsAhead_requests]
        omega
  have hgoes : m₁.world.interrupted = false :=
    (goes_on_of_runs run₁).resolve_left (Nat.pos_iff_ne_zero.mp hahead)
  have hskip : ∀ k held p, f ≠ .run k held (.skip p) := by
    rintro k held p rfl
    rcases (drainsOnce_of_runs run₁).before with hzero | ⟨-, hdormant⟩
    · omega
    · exact hdormant _ hf
  have hnoticed := noticed_of_runs run₁
  have hcourse := onCourse_of_runs run₁ f hf
  have hlive := live_of_submits run₁ hf
  rw [hbefore] at hnoticed hscripted
  exact (hnoticed.turn_of_goes_on hgoes hskip hscripted hcourse hlive hturn hpasses).2.2.1 rfl

/-! ## When the search has ended -/

theorem drainOf_eq_some {stats : Stats} (h : drainOf history = some stats) :
    (0, .returned (.drained stats)) ∈ history := by
  obtain ⟨⟨t, o⟩, hmem, hfound⟩ := List.exists_of_findSome?_eq_some h
  split at hfound
  · next heq =>
      cases hfound
      rw [← heq]
      exact hmem
  · cases hfound

theorem rootRefused_eq_false
    (h : ∀ t, (t, .returned (.submitted false)) ∉ history) : rootRefused history = false := by
  rw [rootRefused, List.any_eq_false]
  rintro ⟨t, o⟩ hmem hrefused
  split at hrefused
  · next heq =>
      rw [heq] at hmem
      exact h 0 hmem
  · cases hrefused

/-- A search that has come to an outcome has results, and its dispatcher was drained. -/
theorem exists_results_of_outcome
    (run : Runs (workload plan) reliable (search.machine disk bystanders) history m)
    {result : Except Failure Results} (hresult : outcome history m.world = some result) :
    ∃ stats, result = .ok (resultsOf m.world stats) ∧
      (0, .returned (.drained stats)) ∈ history := by
  rw [outcome, rootRefused_eq_false (not_refused_of_runs run), if_neg Bool.false_ne_true,
    Option.map_eq_some_iff] at hresult
  obtain ⟨stats, hdrain, rfl⟩ := hresult
  exact ⟨stats, rfl, drainOf_eq_some hdrain⟩

/-- A drain that has returned says how many jobs were accepted, and that each of them was
executed. -/
theorem counts_of_drained
    (run : Runs (workload plan) reliable (search.machine disk bystanders) history m) {stats : Stats}
    (hdrained : (0, .returned (.drained stats)) ∈ history) :
    m.shared.gate.lifecycle = .quiescent ∧ stats.submitted = (accepted history).length ∧
      stats.executed = (accepted history).length := by
  obtain ⟨hq, hsubmitted, hexecuted, -⟩ := run.concluded.drains 0 stats hdrained
  have hover := run.living.allOver run.accounted hq
  obtain ⟨hall, hran, -⟩ := run.counted.of_quiescent run.accounted hover hq
  exact ⟨hq, hsubmitted.trans hall, hexecuted.trans hran⟩

end Runs

end Frontier.Search
