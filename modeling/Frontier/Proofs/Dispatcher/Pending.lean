/-
# Pending jobs — the gate counts what is queued, under way, or being admitted

A job is pending from its admission until the worker that ran it has counted
it.  In between it is in the queue or in the hands of one frame (`Frame.pending`),
so the count of the gate is the sum of the two.  Quiescence is declared at
count zero and admits nothing afterwards, so it finds both at nothing and
leaves them so.
-/
import Frontier.Proofs.Dispatcher.Inversion
import Frontier.Proofs.Dispatcher.Operations
import Mathlib

namespace Frontier.Dispatcher

variable {J B ω : Type} {w : Workload J B ω} {n : Neighbours} {v v' : ω} {s s' : Shared J}
  {f g : Frame J B ω} {fs gs below above rest : Multiset (Frame J B ω)} {q : Result}
  {r r' : Option Result} {told told' : List (Occurrence J)}

/-- The pending jobs that a frame has in its hands. -/
def Frame.pending : Frame J B ω → Nat
  | count _ | push _ | run .. | submitting .. | starting .. | shed .. | countExecuted _
  | countPanicked _ | complete => 1
  | _ => 0

/-- A thread gets there only when quiescence was declared. -/
def Frame.settled : Frame J B ω → Prop
  | filling .handBack | checkIdle | dozing | takeRegistry | join .. | concluding _ => True
  | _ => False

/-! ## One turn -/

/-- A job goes from hand to hand: what the gate counts follows what frames and queue lose and
gain. -/
theorem Turn.pending_balance (h : Turn w n v s f v' s' fs r told)
    (hle : f.pending ≤ s.gate.pending) :
    s'.gate.pending + f.pending + s.queue.items.length =
      s.gate.pending + weigh Frame.pending fs + s'.queue.items.length := by
  cases h with
  | takeSlot ha | reacquire ha | acquireSelf ha =>
      obtain ⟨-, rfl⟩ := Shared.acquire?_eq_some_iff.mp ha
      simp [Frame.pending]
  | handBack | giveUp | release =>
      obtain ⟨_, _, _, hrelease, -⟩ := s.exists_release_eq
      rw [hrelease]
      simp [Frame.pending]
  | accept he =>
      obtain ⟨-, -, rfl⟩ := Shared.enroll_eq_ok_iff.mp he
      simp [Frame.pending]
  | push =>
      simp only [Frame.pending, Shared.push, Queue.items_push, weigh_singleton,
        List.length_append, List.length_singleton]
      omega
  | pop hp =>
      obtain ⟨_, hitems, rfl⟩ := Shared.pop?_eq_some_iff.mp hp
      simp only [Frame.pending, hitems, weigh_singleton, List.length_cons]
      omega
  | complete =>
      simp only [Frame.pending, Shared.complete, Gate.complete, weigh_singleton] at hle ⊢
      omega
  | declare hp | wake _ hp => simp [Frame.pending, Gate.settle]
  | park => simp [Frame.pending, Shared.parked]
  | finish | panic | shed =>
      rw [weigh_ended (x := 1) (fun _ => rfl) rfl]
      rfl
  | takeRegistry | join =>
      rw [weigh_joining (x := 0) (fun _ _ => rfl) rfl]
      rfl
  | start => simp [Frame.pending, Shared.start]
  | _ => simp [Frame.pending, Shared.takeNumber, Shared.register, Shared.dropHandle,
      Shared.countSubmitted, Shared.close, Gate.close, Shared.addHandle, Shared.countExecuted,
      Shared.countPanicked, Shared.parked, Shared.dozing]

/-- Quiescence lasts, and nothing is admitted then. -/
theorem Turn.quiescent (h : Turn w n v s f v' s' fs r told)
    (hq : s.gate.lifecycle = .quiescent) :
    s'.gate.lifecycle = .quiescent ∧ s'.gate.pending ≤ s.gate.pending := by
  cases h with
  | takeSlot ha | reacquire ha | acquireSelf ha =>
      obtain ⟨-, rfl⟩ := Shared.acquire?_eq_some_iff.mp ha
      exact ⟨hq, le_rfl⟩
  | handBack | giveUp | release =>
      obtain ⟨_, _, _, hrelease, -⟩ := s.exists_release_eq
      rw [hrelease]
      exact ⟨hq, le_rfl⟩
  | accept he =>
      obtain ⟨hacc, -, -⟩ := Shared.enroll_eq_ok_iff.mp he
      exact absurd hq (Gate.isAccepting_iff.mp hacc).2
  | pop hp =>
      obtain ⟨_, -, rfl⟩ := Shared.pop?_eq_some_iff.mp hp
      exact ⟨hq, le_rfl⟩
  | complete => exact ⟨hq, Nat.sub_le _ _⟩
  | declare => exact ⟨rfl, Gate.pending_drain.le⟩
  | wake => exact ⟨rfl, le_rfl⟩
  | park => exact ⟨Gate.lifecycle_drain_eq_quiescent_iff.mpr hq, Gate.pending_drain.le⟩
  | start => exact ⟨Gate.lifecycle_start_eq_quiescent_iff.mpr hq, Gate.pending_start.le⟩
  | _ => exact ⟨hq, le_rfl⟩

/-- Quiescence is declared when no job is pending. -/
theorem Turn.pending_of_settle (h : Turn w n v s f v' s' fs r told)
    (hq : s'.gate.lifecycle = .quiescent) (hlive : s.gate.lifecycle ≠ .quiescent) :
    s'.gate.pending = 0 := by
  cases h with
  | takeSlot ha | reacquire ha | acquireSelf ha =>
      obtain ⟨-, rfl⟩ := Shared.acquire?_eq_some_iff.mp ha
      exact absurd hq hlive
  | handBack | giveUp | release =>
      obtain ⟨_, _, _, hrelease, -⟩ := s.exists_release_eq
      rw [hrelease] at hq
      exact absurd hq hlive
  | accept he =>
      obtain ⟨-, -, rfl⟩ := Shared.enroll_eq_ok_iff.mp he
      exact absurd hq hlive
  | pop hp =>
      obtain ⟨_, -, rfl⟩ := Shared.pop?_eq_some_iff.mp hp
      exact absurd hq hlive
  | declare hp => exact Gate.pending_drain.trans hp
  | wake _ hp => exact hp
  | park => exact absurd (Gate.lifecycle_drain_eq_quiescent_iff.mp hq) hlive
  | start => exact absurd (Gate.lifecycle_start_eq_quiescent_iff.mp hq) hlive
  | _ => exact absurd hq hlive

theorem Turn.settled (h : Turn w n v s f v' s' fs r told)
    (hf : f.settled → s.gate.lifecycle = .quiescent) :
    ∀ g ∈ fs, g.settled → s'.gate.lifecycle = .quiescent := by
  cases h with
  | seeQuiescent hq => exact fun _ _ _ => hq
  | declare | wake => exact fun _ _ _ => rfl
  | seeIdle | doze | rouse | dozeAgain | takeRegistry | join | conclude =>
      exact fun _ _ _ => hf trivial
  | finish | panic | shed => exact forall_mem_ended (fun _ => nofun) nofun
  | _ => simp [Frame.settled]

theorem Receives.pending_eq (h : Receives q g gs r told) : g.pending = weigh Frame.pending gs := by
  cases h <;> rfl

theorem Receives.not_settled (h : Receives q g gs r told) : ∀ f ∈ gs, ¬f.settled := by
  cases h <;> simp [Frame.settled]

/-! ## The invariant -/

/-- The gate counts the jobs that are queued and those that frames have in their hands; once
quiescence is declared there are none. -/
structure Accounted (s : Shared J) (fs : Multiset (Frame J B ω)) : Prop where
  pending_eq : s.gate.pending = weigh Frame.pending fs + s.queue.items.length
  pending_of_quiescent : s.gate.lifecycle = .quiescent → s.gate.pending = 0
  quiescent_of_settled : ∀ f ∈ fs, f.settled → s.gate.lifecycle = .quiescent

theorem Accounted.queue_of_quiescent (h : Accounted s fs)
    (hq : s.gate.lifecycle = .quiescent) : s.queue.items = [] := by
  have hpending := h.pending_eq
  rw [h.pending_of_quiescent hq] at hpending
  exact List.length_eq_zero_iff.mp (by omega)

/-- At quiescence no frame has a job in its hands. -/
theorem Accounted.pending_eq_zero (h : Accounted s fs) (hq : s.gate.lifecycle = .quiescent)
    (hf : f ∈ fs) : f.pending = 0 := by
  have hpending := h.pending_eq
  rw [h.pending_of_quiescent hq] at hpending
  exact eq_zero_of_weigh (a := Frame.pending) (by omega) hf

theorem Accounted.turn (h : Accounted s (f ::ₘ (below + rest)))
    (hturn : Turn w n v s f v' s' fs r told) (hpasses : Passes r below above r' told') :
    Accounted s' (fs + (above + rest)) where
  pending_eq := by
    have hpassed := hpasses.weigh_eq Receives.pending_eq
    have hpending := h.pending_eq
    rw [weigh_cons, weigh_add, hpassed] at hpending
    have hbalance := hturn.pending_balance (by omega)
    rw [weigh_add, weigh_add]
    omega
  pending_of_quiescent hq' := by
    by_cases hq : s.gate.lifecycle = .quiescent
    · have hle := (hturn.quiescent hq).2
      rw [h.pending_of_quiescent hq] at hle
      exact Nat.le_zero.mp hle
    · exact hturn.pending_of_settle hq' hq
  quiescent_of_settled g hg hsettled := by
    rcases Multiset.mem_add.mp hg with hg | hg
    · exact hturn.settled (h.quiescent_of_settled f (Multiset.mem_cons_self ..)) g hg hsettled
    rcases Multiset.mem_add.mp hg with hg | hg
    · obtain ⟨_, _, _, _, _, -, hgs, hreceives⟩ := hpasses.exists_receives hg
      exact absurd hsettled (hreceives.not_settled g hgs)
    · exact (hturn.quiescent (h.quiescent_of_settled g (by simp [hg]) hsettled)).1

namespace Machine

variable {limit : Nat} {world : ω} {first : List (Request J ω)}
  {others : List (List (Request J ω))} {reliable : Bool} {m : Machine J B ω} {history : History J}

theorem accounted_ofClients :
    Accounted (ofClients limit world first others : Machine J B ω).shared
      (ofClients limit world first others : Machine J B ω).frames where
  pending_eq := by
    rw [weigh_ofClients fun _ _ => rfl]
    rfl
  pending_of_quiescent hq := nomatch hq
  quiescent_of_settled f hf hsettled := by
    obtain ⟨_, _, rfl⟩ := exists_client_of_mem_ofClients hf
    exact absurd hsettled id

theorem Runs.accounted (run : Runs w reliable (ofClients limit world first others) history m) :
    Accounted m.shared m.frames :=
  run.frames_induction (P := fun _ s fs _ => Accounted s fs) accounted_ofClients
    fun _ hturn hpasses _ h => h.turn hturn hpasses

end Machine

end Frontier.Dispatcher
