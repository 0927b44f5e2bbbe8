/-
# Completion — what a drain that has returned has waited for

A drain returns when quiescence was declared, and quiescence is declared when
no job is pending.  Then no job has a token, so all have lived to their end
(`Lives`); no frame is about to change a counter, so the counters say how
many jobs were accepted and how many bodies ended, and they stay as they are.

    counter + frames about to count = what happened      (`Counted`)
    what a drain has read agrees with the counters       (`Concluded`)
-/
import Frontier.Dispatcher.Schedule
import Frontier.Dispatcher.Script
import Frontier.Proofs.Dispatcher.Lives
import Mathlib

namespace Frontier.Dispatcher

variable {J B ω : Type} {w : Workload J B ω} {n : Neighbours} {v v' : ω} {s s' : Shared J}
  {f g : Frame J B ω} {fs gs below above rest : Multiset (Frame J B ω)} {q : Result}
  {r r' : Option Result} {told told' : List (Occurrence J)} {past : Machine.History J}

/-! ## What happened -/

/-- The job that was accepted. -/
def Event.accepted? : Event J → Option (Admitted J)
  | accepted a => some a
  | _ => none

/-- The ticket of the job whose body ended, and how it ended. -/
def Event.ending? : Event J → Option (Nat × Ending)
  | ended ticket e => some (ticket, e)
  | _ => none

/-- The body broke off. -/
def Ending.isPanicked : Ending → Bool
  | finished => false
  | panicked _ => true

def Occurrence.event? : Occurrence J → Option (Event J)
  | event e => some e
  | returned _ => none

/-- The jobs that were accepted, in this order. -/
def Machine.accepted (history : Machine.History J) : List (Admitted J) :=
  history.filterMap fun o => o.2.event?.bind Event.accepted?

/-- The bodies that ended, in this order. -/
def Machine.endings (history : Machine.History J) : List (Nat × Ending) :=
  history.filterMap fun o => o.2.event?.bind Event.ending?

/-- The body of the job of that ticket broke off. -/
def Machine.brokeOff (history : Machine.History J) (ticket : Nat) : Bool :=
  (Machine.endings history).any fun x => x.1 == ticket && x.2.isPanicked

open Machine (lifeOf accepted endings brokeOff)

theorem Machine.accepted_append_map (past : Machine.History J) (t : ThreadId)
    (told : List (Occurrence J)) :
    accepted (past ++ told.map (t, ·)) =
      accepted past ++ told.filterMap fun o => o.event?.bind Event.accepted? := by
  rw [accepted, List.filterMap_append, List.filterMap_map]
  rfl

theorem Machine.endings_append_map (past : Machine.History J) (t : ThreadId)
    (told : List (Occurrence J)) :
    endings (past ++ told.map (t, ·)) =
      endings past ++ told.filterMap fun o => o.event?.bind Event.ending? := by
  rw [endings, List.filterMap_append, List.filterMap_map]
  rfl

theorem Event.filter_accepted? (e : Event J) (k : Nat) :
    e.accepted?.filter (·.ticket == k) =
      (if e.ticket? = some k then some e else none).bind Event.accepted? := by
  cases e with
  | accepted a | pushed a | popped a =>
      by_cases h : a.ticket = k <;> simp [accepted?, ticket?, h]
  | ended ticket e => by_cases h : ticket = k <;> simp [accepted?, ticket?, h]
  | _ => rfl

theorem Event.filter_ending? (e : Event J) (k : Nat) :
    e.ending?.filter (·.1 == k) =
      (if e.ticket? = some k then some e else none).bind Event.ending? := by
  cases e with
  | accepted a | pushed a | popped a =>
      by_cases h : a.ticket = k <;> simp [ending?, ticket?, h]
  | ended ticket e => by_cases h : ticket = k <;> simp [ending?, ticket?, h]
  | _ => rfl

theorem Machine.filter_accepted (history : Machine.History J) (k : Nat) :
    (accepted history).filter (·.ticket == k) = (lifeOf k history).filterMap Event.accepted? := by
  rw [accepted, lifeOf, List.filter_filterMap, List.filterMap_filterMap]
  congr 1
  funext x
  obtain ⟨t, o⟩ := x
  cases o with
  | returned _ => rfl
  | event e => exact e.filter_accepted? k

theorem Machine.filter_endings (history : Machine.History J) (k : Nat) :
    (endings history).filter (·.1 == k) = (lifeOf k history).filterMap Event.ending? := by
  rw [endings, lifeOf, List.filter_filterMap, List.filterMap_filterMap]
  congr 1
  funext x
  obtain ⟨t, o⟩ := x
  cases o with
  | returned _ => rfl
  | event e => exact e.filter_ending? k

/-! ## Counters -/

/-- The thread is about to count a job as submitted. -/
def Frame.unsubmitted : Frame J B ω → Nat
  | count _ => 1
  | _ => 0

/-- The thread is about to count a job as executed. -/
def Frame.unexecuted : Frame J B ω → Nat
  | shed .. | countExecuted _ => 1
  | _ => 0

/-- The thread is about to count a job as broken off. -/
def Frame.unpanicked : Frame J B ω → Nat
  | shed _ e | countExecuted e => e.isPanicked.toNat
  | countPanicked _ => 1
  | _ => 0

theorem Frame.unsubmitted_le_pending (f : Frame J B ω) : f.unsubmitted ≤ f.pending := by
  cases f <;> simp [unsubmitted, pending]

theorem Frame.unexecuted_le_pending (f : Frame J B ω) : f.unexecuted ≤ f.pending := by
  cases f <;> simp [unexecuted, pending]

theorem Frame.unpanicked_le_pending (f : Frame J B ω) : f.unpanicked ≤ f.pending := by
  cases f <;> simp [unpanicked, pending, Bool.toNat_le]

/-- What a turn counts is what has happened, now or before. -/
structure Counts (s s' : Shared J) (f : Frame J B ω) (fs : Multiset (Frame J B ω))
    (told : List (Occurrence J)) : Prop where
  submitted : s'.submitted + weigh Frame.unsubmitted fs = s.submitted + f.unsubmitted +
    (told.filterMap fun o => o.event?.bind Event.accepted?).length
  executed : s'.executed + weigh Frame.unexecuted fs = s.executed + f.unexecuted +
    (told.filterMap fun o => o.event?.bind Event.ending?).length
  panicked : s'.panicked + weigh Frame.unpanicked fs = s.panicked + f.unpanicked +
    (told.filterMap fun o => o.event?.bind Event.ending?).countP (·.2.isPanicked)

theorem Turn.counts (h : Turn w n v s f v' s' fs r told) : Counts s s' f fs told := by
  cases h with
  | takeSlot ha | reacquire ha | acquireSelf ha =>
      obtain ⟨-, rfl⟩ := Shared.acquire?_eq_some_iff.mp ha
      exact ⟨rfl, rfl, rfl⟩
  | handBack | giveUp | release =>
      obtain ⟨_, _, events, hrelease, htold⟩ := s.exists_release_eq
      rw [hrelease]
      rcases htold with rfl | rfl <;> exact ⟨rfl, rfl, rfl⟩
  | accept he =>
      obtain ⟨-, -, rfl⟩ := Shared.enroll_eq_ok_iff.mp he
      exact ⟨rfl, rfl, rfl⟩
  | pop hp =>
      obtain ⟨_, -, rfl⟩ := Shared.pop?_eq_some_iff.mp hp
      exact ⟨rfl, rfl, rfl⟩
  | finish | panic | shed =>
      refine ⟨?_, ?_, ?_⟩
      · rw [weigh_ended (x := 0) (fun _ => rfl) rfl]
        rfl
      · rw [weigh_ended (x := 1) (fun _ => rfl) rfl]
        rfl
      · rw [weigh_ended (fun _ => rfl) rfl]
        rfl
  | takeRegistry | join =>
      refine ⟨?_, ?_, ?_⟩ <;> rw [weigh_joining (x := 0) (fun _ _ => rfl) rfl] <;> rfl
  | _ => exact ⟨rfl, rfl, rfl⟩

/-- Frames that receive results count nothing. -/
theorem Receives.counts (h : Receives q g gs r told) :
    g.unsubmitted = weigh Frame.unsubmitted gs ∧ g.unexecuted = weigh Frame.unexecuted gs ∧
      g.unpanicked = weigh Frame.unpanicked gs := by
  cases h <;> exact ⟨rfl, rfl, rfl⟩

/-- What is told when a result is passed on is that calls return. -/
theorem Passes.no_event (h : Passes r below above r' told) :
    told.filterMap Occurrence.event? = [] := by
  induction h with
  | refl => rfl
  | receive _ hg ih =>
      rw [List.filterMap_append, ih]
      cases hg <;> rfl

theorem Passes.filterMap_event {α : Type} (h : Passes r below above r' told)
    (φ : Event J → Option α) : told.filterMap (fun o => o.event?.bind φ) = [] := by
  rw [← List.filterMap_filterMap, h.no_event, List.filterMap_nil]

/-- The counters, and what frames are about to count, are what has happened. -/
structure Counted (s : Shared J) (fs : Multiset (Frame J B ω)) (past : Machine.History J) :
    Prop where
  submitted : s.submitted + weigh Frame.unsubmitted fs = (accepted past).length
  executed : s.executed + weigh Frame.unexecuted fs = (endings past).length
  panicked : s.panicked + weigh Frame.unpanicked fs = (endings past).countP (·.2.isPanicked)

theorem Counted.turn (h : Counted s (f ::ₘ (below + rest)) past)
    (hturn : Turn w n v s f v' s' fs r told) (hpasses : Passes r below above r' told') :
    Counted s' (fs + (above + rest)) (past ++ (told ++ told').map (n.self, ·)) := by
  obtain ⟨hsubmitted, hexecuted, hpanicked⟩ := h
  obtain ⟨hsubmitted', hexecuted', hpanicked'⟩ := hturn.counts
  rw [weigh_cons, weigh_add] at hsubmitted hexecuted hpanicked
  rw [hpasses.weigh_eq fun hg => hg.counts.1] at hsubmitted
  rw [hpasses.weigh_eq fun hg => hg.counts.2.1] at hexecuted
  rw [hpasses.weigh_eq fun hg => hg.counts.2.2] at hpanicked
  constructor
  · rw [Machine.accepted_append_map, List.filterMap_append, hpasses.filterMap_event,
      List.append_nil, List.length_append, weigh_add, weigh_add]
    omega
  · rw [Machine.endings_append_map, List.filterMap_append, hpasses.filterMap_event,
      List.append_nil, List.length_append, weigh_add, weigh_add]
    omega
  · rw [Machine.endings_append_map, List.filterMap_append, hpasses.filterMap_event,
      List.append_nil, List.countP_append, weigh_add, weigh_add]
    omega

/-! ## What a drain has read -/

/-- What was read so far is what the counters say. -/
def Reading.Agrees (s : Shared J) : Reading → Prop
  | submitted => True
  | executed a => a = s.submitted
  | panicked a b => a = s.submitted ∧ b = s.executed
  | peak a b c => a = s.submitted ∧ b = s.executed ∧ c = s.panicked

/-- The statistics are what the counters say of jobs. -/
def Stats.Agrees (s : Shared J) (stats : Stats) : Prop :=
  stats.submitted = s.submitted ∧ stats.executed = s.executed ∧ stats.panicked = s.panicked

/-- The counters of jobs stand still. -/
def SameCounts (s s' : Shared J) : Prop :=
  s'.submitted = s.submitted ∧ s'.executed = s.executed ∧ s'.panicked = s.panicked

theorem Reading.Agrees.of_sameCounts {p : Reading} (h : p.Agrees s) (hsame : SameCounts s s') :
    p.Agrees s' := by
  obtain ⟨hsubmitted, hexecuted, hpanicked⟩ := hsame
  cases p <;> simp_all [Agrees]

theorem Stats.Agrees.of_sameCounts {stats : Stats} (h : stats.Agrees s)
    (hsame : SameCounts s s') : stats.Agrees s' := by
  obtain ⟨hsubmitted, hexecuted, hpanicked⟩ := hsame
  obtain ⟨ha, hb, hc⟩ := h
  exact ⟨ha.trans hsubmitted.symm, hb.trans hexecuted.symm, hc.trans hpanicked.symm⟩

theorem Reading.agrees_next {p p' : Reading} (h : p.Agrees s) (hnext : (p.step s).next = .more p') :
    p'.Agrees s := by
  cases p with
  | submitted => cases hnext; rfl
  | executed a => cases hnext; exact ⟨h, rfl⟩
  | panicked a b => cases hnext; exact ⟨h.1, h.2, rfl⟩
  | peak a b c => cases hnext

theorem Reading.agrees_done {p : Reading} {stats : Stats} (h : p.Agrees s)
    (hnext : (p.step s).next = .done stats) : stats.Agrees s := by
  cases p with
  | submitted | executed a | panicked a b => cases hnext
  | peak a b c => cases hnext; exact h

/-- A counter is changed by a thread that has a pending job in its hands. -/
theorem Turn.sameCounts (h : Turn w n v s f v' s' fs r told) (hf : f.pending = 0) :
    SameCounts s s' := by
  cases h with
  | takeSlot ha | reacquire ha | acquireSelf ha =>
      obtain ⟨-, rfl⟩ := Shared.acquire?_eq_some_iff.mp ha
      exact ⟨rfl, rfl, rfl⟩
  | handBack | giveUp | release =>
      obtain ⟨_, _, _, hrelease, -⟩ := s.exists_release_eq
      rw [hrelease]
      exact ⟨rfl, rfl, rfl⟩
  | accept he =>
      obtain ⟨-, -, rfl⟩ := Shared.enroll_eq_ok_iff.mp he
      exact ⟨rfl, rfl, rfl⟩
  | pop hp =>
      obtain ⟨_, -, rfl⟩ := Shared.pop?_eq_some_iff.mp hp
      exact ⟨rfl, rfl, rfl⟩
  | count | countFinished | countBroken | countPanicked => cases hf
  | _ => exact ⟨rfl, rfl, rfl⟩

/-- What a frame reads next, and what it returns, agrees with the counters. -/
theorem Turn.concluding (h : Turn w n v s f v' s' fs r told)
    (hf : ∀ p, f = .concluding p → p.Agrees s) :
    (∀ g ∈ fs, ∀ p, g = .concluding p → p.Agrees s') ∧
      ∀ stats, r = some (.drained stats) → stats.Agrees s' := by
  cases h with
  | takeRegistry | join =>
      refine ⟨forall_mem_joining nofun ?_, nofun⟩
      rintro p ⟨rfl⟩
      trivial
  | conclude hnext =>
      refine ⟨?_, nofun⟩
      intro g hg p hp
      rw [Multiset.mem_singleton.mp hg] at hp
      cases hp
      exact Reading.agrees_next (hf _ rfl) hnext
  | concluded hnext =>
      refine ⟨by simp, ?_⟩
      rintro stats ⟨rfl⟩
      exact Reading.agrees_done (hf _ rfl) hnext
  | finish | panic | shed => exact ⟨forall_mem_ended (fun _ => nofun) nofun, nofun⟩
  | _ => simp

/-- A drain returns when it has read the counters. -/
theorem Turn.exists_of_drained {stats : Stats}
    (h : Turn w n v s f v' s' fs (some (.drained stats)) told) : ∃ p, f = .concluding p := by
  cases h
  exact ⟨_, rfl⟩

theorem Turn.drained_notMem {stats : Stats} (h : Turn w n v s f v' s' fs r told) :
    .returned (.drained stats) ∉ told := by
  cases h <;> simp

theorem Passes.eq_of_drained {stats : Stats}
    (h : Passes r below above (some (.drained stats)) told) : r = some (.drained stats) := by
  cases h with
  | refl => rfl
  | receive _ hg => cases hg

/-- A client is told of a drain that has returned. -/
theorem Passes.eq_of_told {stats : Stats} (h : Passes r below above r' told)
    (hmem : .returned (.drained stats) ∈ told) : r = some (.drained stats) := by
  induction h with
  | refl => cases hmem
  | receive hpasses hg ih =>
      rcases List.mem_append.mp hmem with hmem | hmem
      · exact ih hmem
      · cases hg with
        | drainClient =>
            cases List.mem_singleton.mp hmem
            exact hpasses.eq_of_drained
        | _ => simp at hmem

theorem Receives.not_concluding (h : Receives q g gs r told) :
    ∀ f ∈ gs, ∀ p, f ≠ .concluding p := by
  cases h <;> simp

/-- What drains have read and returned agrees with the counters. -/
structure Concluded (s : Shared J) (fs : Multiset (Frame J B ω)) (past : Machine.History J) :
    Prop where
  readings : ∀ f ∈ fs, ∀ p, f = .concluding p → p.Agrees s
  drains : ∀ t stats, (t, .returned (.drained stats)) ∈ past →
    s.gate.lifecycle = .quiescent ∧ stats.Agrees s

theorem Concluded.turn (h : Concluded s (f ::ₘ (below + rest)) past)
    (hjobs : Accounted s (f ::ₘ (below + rest))) (hturn : Turn w n v s f v' s' fs r told)
    (hpasses : Passes r below above r' told') :
    Concluded s' (fs + (above + rest)) (past ++ (told ++ told').map (n.self, ·)) := by
  have hf : f ∈ f ::ₘ (below + rest) := Multiset.mem_cons_self ..
  have hsame (hq : s.gate.lifecycle = .quiescent) : SameCounts s s' :=
    hturn.sameCounts (hjobs.pending_eq_zero hq hf)
  obtain ⟨hreading, hdrained⟩ := hturn.concluding (h.readings f hf)
  constructor
  · intro g hg p hp
    rw [Multiset.mem_add, Multiset.mem_add] at hg
    rcases hg with hg | hg | hg
    · exact hreading g hg p hp
    · obtain ⟨_, _, _, _, _, -, hgs, hreceives⟩ := hpasses.exists_receives hg
      exact absurd hp (hreceives.not_concluding g hgs p)
    · have hmem : g ∈ f ::ₘ (below + rest) := by simp [hg]
      have hq := hjobs.quiescent_of_settled g hmem (by rw [hp]; trivial)
      exact (h.readings g hmem p hp).of_sameCounts (hsame hq)
  · intro t stats hmem
    rw [List.mem_append, List.mem_map] at hmem
    rcases hmem with hmem | ⟨o, ho, heq⟩
    · obtain ⟨hq, hagrees⟩ := h.drains t stats hmem
      exact ⟨(hturn.quiescent hq).1, hagrees.of_sameCounts (hsame hq)⟩
    · cases heq
      obtain rfl := hpasses.eq_of_told <|
        (List.mem_append.mp ho).resolve_left hturn.drained_notMem
      obtain ⟨p, rfl⟩ := hturn.exists_of_drained
      have hq := hjobs.quiescent_of_settled _ hf trivial
      exact ⟨(hturn.quiescent hq).1, hdrained stats rfl⟩

/-! ## Jobs whose lives are over -/

/-- The life of a job that was accepted and whose body has ended. -/
def wholeLife (a : Admitted J) (e : Ending) : List (Event J) :=
  [.accepted a, .pushed a, .popped a, .ended a.ticket e]

/-- Without a token a job has either not been admitted or lived to its end. -/
theorem Stage.of_zero {k next : Nat} {life : List (Event J)} (h : Stage k next life 0) :
    life = [] ∨ ∃ a e, a.ticket = k ∧ life = wholeLife a e := by
  generalize hnone : (0 : Multiset (Token J)) = tokens at h
  cases h with
  | unborn => exact .inl rfl
  | entering | queued | running => simp at hnone
  | @ended a e ha => exact .inr ⟨a, e, ha, by rw [wholeLife, ha]⟩

/-- Every job that was accepted has lived to its end. -/
def AllOver (past : Machine.History J) : Prop :=
  ∀ k, lifeOf k past = [] ∨ ∃ a e, a.ticket = k ∧ lifeOf k past = wholeLife a e

theorem Living.allOver (h : Living s fs past) (hjobs : Accounted s fs)
    (hq : s.gate.lifecycle = .quiescent) : AllOver past := by
  intro k
  have hstage := h k
  have hnone : weigh (Frame.tokens k) fs = 0 := by
    refine weigh_eq_zero ?_
    intro f hf
    have hpending := hjobs.pending_eq_zero hq hf
    cases f <;> first | rfl | cases hpending
  rw [hnone, hjobs.queue_of_quiescent hq, queueTokens_nil, add_zero] at hstage
  exact hstage.of_zero

section Tickets

/-- Where no value is taken twice, the values are distinct. -/
theorem nodup_map_of_filter {α : Type} {φ : α → Nat} {l : List α}
    (h : ∀ k, (l.filter (φ · == k)).length ≤ 1) : (l.map φ).Nodup := by
  rw [List.nodup_iff_count_le_one]
  intro k
  rw [List.count, List.countP_map, List.countP_eq_length_filter]
  exact h k

variable (h : AllOver past)
include h

theorem AllOver.accepted_nodup : ((accepted past).map Admitted.ticket).Nodup := by
  refine nodup_map_of_filter ?_
  intro k
  rw [Machine.filter_accepted]
  rcases h k with hlife | ⟨a, e, -, hlife⟩ <;> rw [hlife]
  · exact Nat.zero_le 1
  · exact Nat.le_refl 1

theorem AllOver.endings_nodup : ((endings past).map Prod.fst).Nodup := by
  refine nodup_map_of_filter ?_
  intro k
  rw [Machine.filter_endings]
  rcases h k with hlife | ⟨a, e, -, hlife⟩ <;> rw [hlife]
  · exact Nat.zero_le 1
  · exact Nat.le_refl 1

/-- An accepted job has one life, and it is whole. -/
theorem AllOver.of_mem_accepted {a : Admitted J} (ha : a ∈ accepted past) :
    ∃ e, lifeOf a.ticket past = wholeLife a e := by
  have hmem : a ∈ (accepted past).filter (·.ticket == a.ticket) :=
    List.mem_filter.mpr ⟨ha, beq_self_eq_true _⟩
  rw [Machine.filter_accepted] at hmem
  rcases h a.ticket with hlife | ⟨b, e, -, hlife⟩
  · rw [hlife] at hmem
    cases hmem
  · rw [hlife] at hmem
    obtain rfl : a = b := by simpa [wholeLife, Event.accepted?] using hmem
    exact ⟨e, hlife⟩

/-- A body ended that is the body of an accepted job. -/
theorem AllOver.of_mem_endings {k : Nat} {e : Ending} (he : (k, e) ∈ endings past) :
    ∃ a ∈ accepted past, a.ticket = k ∧ lifeOf k past = wholeLife a e := by
  have hmem : (k, e) ∈ (endings past).filter (·.1 == k) :=
    List.mem_filter.mpr ⟨he, beq_self_eq_true k⟩
  rw [Machine.filter_endings] at hmem
  rcases h k with hlife | ⟨a, e', ha, hlife⟩
  · rw [hlife] at hmem
    cases hmem
  · have hacc : a ∈ (accepted past).filter (·.ticket == k) := by
      rw [Machine.filter_accepted, hlife]
      exact List.mem_singleton_self a
    rw [hlife] at hmem
    obtain ⟨-, rfl⟩ : a.ticket = k ∧ e' = e := by
      simpa [wholeLife, Event.ending?, Event.accepted?] using hmem
    exact ⟨a, List.mem_of_mem_filter hacc, ha, hlife⟩

theorem AllOver.exists_ending {a : Admitted J} (ha : a ∈ accepted past) :
    ∃ e, (a.ticket, e) ∈ endings past := by
  obtain ⟨e, hlife⟩ := h.of_mem_accepted ha
  refine ⟨e, List.mem_of_mem_filter (p := (·.1 == a.ticket)) ?_⟩
  rw [Machine.filter_endings, hlife]
  exact List.mem_singleton_self _

/-- As many bodies ended as jobs were accepted. -/
theorem AllOver.length_endings : (endings past).length = (accepted past).length := by
  have hperm : ((endings past).map Prod.fst).Perm ((accepted past).map Admitted.ticket) := by
    refine (List.perm_ext_iff_of_nodup h.endings_nodup h.accepted_nodup).mpr ?_
    intro k
    rw [List.mem_map, List.mem_map]
    constructor
    · rintro ⟨⟨k, e⟩, he, rfl⟩
      obtain ⟨a, ha, hk, -⟩ := h.of_mem_endings he
      exact ⟨a, ha, hk⟩
    · rintro ⟨a, ha, rfl⟩
      obtain ⟨e, he⟩ := h.exists_ending ha
      exact ⟨_, he, rfl⟩
  simpa using hperm.length_eq

/-- As many bodies broke off as accepted jobs did. -/
theorem AllOver.countP_isPanicked :
    (endings past).countP (·.2.isPanicked) = (accepted past).countP (brokeOff past ·.ticket) := by
  have hperm : (((endings past).filter (·.2.isPanicked)).map Prod.fst).Perm
      (((accepted past).filter (brokeOff past ·.ticket)).map Admitted.ticket) := by
    refine (List.perm_ext_iff_of_nodup (h.endings_nodup.sublist (List.filter_sublist.map _))
      (h.accepted_nodup.sublist (List.filter_sublist.map _))).mpr ?_
    intro k
    simp only [List.mem_map, List.mem_filter, brokeOff, List.any_eq_true, Bool.and_eq_true,
      beq_iff_eq]
    constructor
    · rintro ⟨⟨k, e⟩, ⟨he, hpanicked⟩, rfl⟩
      obtain ⟨a, ha, hk, -⟩ := h.of_mem_endings he
      exact ⟨a, ⟨ha, (k, e), he, hk.symm, hpanicked⟩, hk⟩
    · rintro ⟨a, ⟨-, ⟨k, e⟩, he, hk, hpanicked⟩, rfl⟩
      exact ⟨(k, e), ⟨he, hpanicked⟩, hk⟩
  rw [List.countP_eq_length_filter, List.countP_eq_length_filter]
  simpa using hperm.length_eq

end Tickets

/-- At quiescence the counters say how many jobs were accepted, and how many of them broke off. -/
theorem Counted.of_quiescent (h : Counted s fs past) (hjobs : Accounted s fs)
    (hover : AllOver past) (hq : s.gate.lifecycle = .quiescent) :
    s.submitted = (accepted past).length ∧ s.executed = (accepted past).length ∧
      s.panicked = (accepted past).countP (brokeOff past ·.ticket) := by
  have hpending := hjobs.pending_eq
  rw [hjobs.pending_of_quiescent hq] at hpending
  have hsubmitted := weigh_le_weigh Frame.unsubmitted_le_pending fs
  have hexecuted := weigh_le_weigh Frame.unexecuted_le_pending fs
  have hpanicked := weigh_le_weigh Frame.unpanicked_le_pending fs
  have hcounted := h.submitted
  have hended := h.executed
  have hbroken := h.panicked
  rw [hover.length_endings] at hended
  rw [hover.countP_isPanicked] at hbroken
  omega

namespace Machine

variable {limit : Nat} {world : ω} {first : List (Request J ω)}
  {others : List (List (Request J ω))} {reliable : Bool} {m : Machine J B ω} {history : History J}

theorem Runs.counted (run : Runs w reliable (ofClients limit world first others) history m) :
    Counted m.shared m.frames history := by
  refine run.frames_induction (P := fun _ s fs past => Counted s fs past) ?_
    fun _ hturn hpasses _ h => h.turn hturn hpasses
  constructor <;> rw [weigh_ofClients fun _ _ => rfl] <;> rfl

theorem Runs.concluded (run : Runs w reliable (ofClients limit world first others) history m) :
    Concluded m.shared m.frames history := by
  refine (run.frames_induction
    (P := fun _ s fs past => Accounted s fs ∧ Concluded s fs past) ?_ ?_).2
  · refine ⟨accounted_ofClients, ?_, nofun⟩
    intro f hf p hp
    obtain ⟨_, _, rfl⟩ := exists_client_of_mem_ofClients hf
    cases hp
  · intro n v s f v' s' fs below above rest r r' told told' past _ hturn hpasses _ h
    obtain ⟨hjobs, hconcluded⟩ := h
    exact ⟨hjobs.turn hturn hpasses, hconcluded.turn hjobs hturn hpasses⟩

/-- When a drain has returned, every job that was accepted has run once and to its end, the
statistics say how many there were and how many of them broke off, and neither the counters nor
the statistics of any other drain will ever say anything else. -/
theorem Runs.drain_completes
    (run : Runs w reliable (ofClients limit world first others) history m) {t : ThreadId}
    {stats : Stats} (hdrained : (t, .returned (.drained stats)) ∈ history) :
    (∀ a ∈ accepted history, ∃ e,
        lifeOf a.ticket history =
          [.accepted a, .pushed a, .popped a, .ended a.ticket e]) ∧
      stats.submitted = (accepted history).length ∧ stats.executed = stats.submitted ∧
      stats.panicked = (accepted history).countP (brokeOff history ·.ticket) ∧
      ∀ later m', Runs w reliable m later m' →
        stats.Agrees m'.shared ∧
        ∀ u stats', (u, .returned (.drained stats')) ∈ history ++ later →
          stats'.submitted = stats.submitted ∧ stats'.executed = stats.executed ∧
            stats'.panicked = stats.panicked := by
  obtain ⟨hq, hsubmitted, hexecuted, hpanicked⟩ := run.concluded.drains t stats hdrained
  have hover := run.living.allOver run.accounted hq
  obtain ⟨ha, hb, hc⟩ := run.counted.of_quiescent run.accounted hover hq
  refine ⟨fun a => hover.of_mem_accepted, by omega, by omega, by omega, ?_⟩
  intro later m' hlater
  have hconcluded := (run.trans hlater).concluded
  have hagrees := (hconcluded.drains t stats (List.mem_append_left _ hdrained)).2
  refine ⟨hagrees, ?_⟩
  intro u stats' hmem
  obtain ⟨-, hsubmitted', hexecuted', hpanicked'⟩ := hconcluded.drains u stats' hmem
  exact ⟨hsubmitted'.trans hagrees.1.symm, hexecuted'.trans hagrees.2.1.symm,
    hpanicked'.trans hagrees.2.2.symm⟩

/-- A job submits another, which breaks off. -/
def breaking : Machine Script.Job Script.Body Script.World :=
  ofClients 2 .empty [.clone, .submit [.submit false [.panic "broken"]] 1, .drain] []

theorem drain_completes_breaking :
    ∃ history m stats, Runs Script.workload true breaking history m ∧
      (0, .returned (.drained stats)) ∈ history ∧ (accepted history).length = 2 ∧
      stats.submitted = 2 ∧ stats.executed = 2 ∧ stats.panicked = 1 := by
  have hrun := runs_settle Script.workload 100 breaking
  have hdrained : (0, .returned (.drained ⟨2, 2, 1, 2⟩)) ∈
      (breaking.settle Script.workload 100).2 := List.mem_of_getLast? (by rfl)
  have haccepted : (accepted (breaking.settle Script.workload 100).2).length = 2 := by decide
  have hbroken : (accepted (breaking.settle Script.workload 100).2).countP
      (brokeOff (breaking.settle Script.workload 100).2 ·.ticket) = 1 := by decide
  obtain ⟨-, hsubmitted, hexecuted, hpanicked, -⟩ := Runs.drain_completes hrun hdrained
  exact ⟨_, _, _, hrun, hdrained, haccepted, hsubmitted.trans haccepted,
    hexecuted.trans (hsubmitted.trans haccepted), hpanicked.trans hbroken⟩

end Machine

end Frontier.Dispatcher
