/-
# Conduct — what the threads of a search do and do not do

One client searches: it submits the job of each root and then drains.  Others
only change the flag.  So a search never starts the dispatcher but by draining
it, never gives a handle away and never drops one; and while the searching
client has not come to drain, jobs are only put into the queue.

    `scripted_of_runs`      the frames are those of threads that keep to their scripts
    `drainsOnce_of_runs`    there is one drain, and until then nothing is started
-/
import Frontier.Proofs.Dispatcher.Calls
import Frontier.Proofs.Dispatcher.Pending
import Frontier.Proofs.Search.Acts
import Frontier.Search.Basic
import Mathlib

namespace Frontier.Search

open Dispatcher
open Dispatcher.Machine (Runs History)

/-- A frame of a search. -/
abbrev SearchFrame := Frame Place Examination Record

variable {plan : Plan} {n : Neighbours} {v v' : Record} {s s' : Shared Place}
  {f g : SearchFrame} {fs gs below above rest : Multiset SearchFrame} {q : Result}
  {r r' : Option Result} {told told' : List (Occurrence Place)}

/-! ## The scripts of clients -/

/-- What a client of a search owns, is in the middle of, and has still to ask for. -/
inductive OnScript : Nat → Option Errand → List (Request Place Record) → Prop
  | next (places : List Place) : OnScript 1 none (requests places)
  | submit (place : Place) (places : List Place) :
      OnScript 2 none (.submit place 1 :: requests places)
  | submitting (places : List Place) : OnScript 1 (some .submit) (requests places)
  | draining : OnScript 1 (some .drain) []
  | drained : OnScript 1 none []
  | bystander (values : List Bool) : OnScript 0 none (flagChanges values)

@[simp] theorem requests_cons (p : Place) (places : List Place) :
    requests (p :: places) = .clone :: .submit p 1 :: requests places := rfl

/-- What a client of a search asks for next, and what it asks for later. -/
inductive Asks : Nat → Request Place Record → List (Request Place Record) → Prop
  | clone (p : Place) (places : List Place) : Asks 1 .clone (.submit p 1 :: requests places)
  | submit (p : Place) (places : List Place) : Asks 2 (.submit p 1) (requests places)
  | drain : Asks 1 .drain []
  | touch (value : Bool) (values : List Bool) :
      Asks 0 (.touch fun r => { r with flag := value }) (flagChanges values)

theorem OnScript.asks {held : Nat} {request : Request Place Record}
    {script : List (Request Place Record)} (h : OnScript held none (request :: script)) :
    Asks held request script := by
  generalize hall : request :: script = all at h
  cases h with
  | next places =>
      cases places with
      | nil => cases hall; exact .drain
      | cons p places => cases hall; exact .clone p places
  | submit p places => cases hall; exact .submit p places
  | drained => cases hall
  | bystander values =>
      cases values with
      | nil => cases hall
      | cons value values => cases hall; exact .touch value values

/-- A frame that a thread of a search can have. -/
def Scripted : SearchFrame → Prop
  | .client held errand script => OnScript held errand script
  | .submitting _ _ next => ∃ p kind rest, next = afterSubmission p kind rest
  | .starting .. | .reading _ | .decrement _ | .checkLifecycle | .reclaim | .drain
  | .forget => False
  | _ => True

/-- A result that a frame of a search can be given. -/
def Fitting (q : Result) : Prop := q ≠ .handle

theorem Turn.scripted (h : Turn (workload plan) n v s f v' s' fs r told) (hf : Scripted f) :
    (∀ g ∈ fs, Scripted g) ∧ ∀ x ∈ r, Fitting x := by
  cases h with
  | wait hmove | startInside hmove | ask hmove | dropInside hmove =>
      cases Examination.makes_of_move hmove
  | submit hmove =>
      cases Examination.makes_of_move hmove with
      | submit p kind _ rest =>
          simp only [Multiset.insert_eq_cons, Multiset.mem_cons, Multiset.mem_singleton,
            forall_eq_or_imp, forall_eq]
          exact ⟨⟨trivial, p, kind, rest, rfl⟩, nofun⟩
  | finish | panic | shed => exact ⟨forall_mem_ended (fun _ => trivial) trivial, nofun⟩
  | takeRegistry | join => exact ⟨forall_mem_joining (fun _ _ => trivial) trivial, nofun⟩
  | read | readLast | dropLast | dropOther | findDrained | findUndrained | reclaim | forget =>
      exact absurd hf id
  | askSubmit hgiven =>
      cases OnScript.asks hf with
      | submit p places =>
          simp only [Multiset.insert_eq_cons, Multiset.mem_cons, Multiset.mem_singleton,
            forall_eq_or_imp, forall_eq]
          exact ⟨⟨trivial, .submitting places⟩, nofun⟩
  | askDrain =>
      cases OnScript.asks hf with
      | drain =>
          simp only [Multiset.insert_eq_cons, Multiset.mem_cons, Multiset.mem_singleton,
            forall_eq_or_imp, forall_eq]
          exact ⟨⟨trivial, trivial, .draining⟩, nofun⟩
  | askClone =>
      cases OnScript.asks hf with
      | clone p places =>
          simp only [Multiset.mem_singleton, forall_eq]
          exact ⟨.submit p places, nofun⟩
  | touch =>
      cases OnScript.asks hf with
      | touch value values =>
          simp only [Multiset.mem_singleton, forall_eq]
          exact ⟨.bystander values, nofun⟩
  | askStart | askClose | askStats | askDrop | give => nomatch OnScript.asks hf
  | _ => simp [Scripted, Fitting]

theorem Receives.scripted (h : Receives q g gs r told) (hq : Fitting q) (hg : Scripted g) :
    (∀ f ∈ gs, Scripted f) ∧ ∀ x ∈ r, Fitting x := by
  cases h with
  | submitClient =>
      cases (show OnScript _ (some .submit) _ from hg) with
      | submitting places =>
          simp only [Multiset.mem_singleton, forall_eq]
          exact ⟨.next places, nofun⟩
  | drainClient =>
      cases (show OnScript _ (some .drain) _ from hg) with
      | draining =>
          simp only [Multiset.mem_singleton, forall_eq]
          exact ⟨.drained, nofun⟩
  | handle => exact absurd rfl hq
  | startBody | drainDrop => exact absurd hg id
  | startClient => cases (show OnScript _ (some .start) _ from hg)
  | readClient => cases (show OnScript _ (some .stats) _ from hg)
  | dropClient => cases (show OnScript _ (some .drop) _ from hg)
  | _ => simp [Scripted, Fitting]

/-! ## Before the drain -/

def isDrain : Request Place Record → Bool
  | .drain => true
  | _ => false

/-- How often a frame has still to ask for a drain. -/
def drainsAhead : SearchFrame → Nat
  | .client _ _ script => script.countP isDrain
  | _ => 0

/-- The frame is that of a thread which only puts jobs into the queue. -/
def Dormant : SearchFrame → Prop
  | .client .. | .enroll .. | .discard _ | .count _ | .push _ | .checkOpen => True
  | _ => False

theorem Turn.drainsAhead_le (h : Turn (workload plan) n v s f v' s' fs r told) :
    weigh drainsAhead fs ≤ drainsAhead f := by
  cases h with
  | finish | panic | shed => rw [weigh_ended (x := 0) (fun _ => rfl) rfl]; exact Nat.zero_le _
  | takeRegistry | join =>
      rw [weigh_joining (x := 0) (fun _ _ => rfl) rfl]
      exact Nat.zero_le _
  | askDrain =>
      simp only [Multiset.insert_eq_cons, weigh_cons, weigh_singleton, drainsAhead, zero_add,
        List.countP_cons]
      exact Nat.le_add_right _ _
  | _ => simp [drainsAhead, isDrain]

theorem Receives.drainsAhead_eq (h : Receives q g gs r told) :
    drainsAhead g = weigh drainsAhead gs := by
  cases h <;> rfl

theorem Receives.dormant (h : Receives q g gs r told) (hg : Dormant g) :
    ∀ f ∈ gs, Dormant f := by
  cases h <;> first | exact absurd hg id | simp [Dormant]

/-- A thread that only puts jobs into the queue goes on so, or it has asked for the drain. -/
theorem Turn.dormant (h : Turn (workload plan) n v s f v' s' fs r told) (hscripted : Scripted f)
    (hf : Dormant f) (hcreated : s.gate.lifecycle = .created) :
    s'.gate.lifecycle = .created ∧ (∀ g ∈ fs, Dormant g) ∨
      drainsAhead f = 1 ∧ weigh drainsAhead fs = 0 := by
  cases h with
  | askDrain =>
      cases OnScript.asks hscripted with
      | drain => exact .inr ⟨rfl, by simp [drainsAhead]⟩
  | askStart | askClose | askStats | askDrop | give => nomatch OnScript.asks hscripted
  | goOnToFill hopen => exact absurd hcreated (Gate.isOpen_iff.mp hopen)
  | accept he =>
      obtain ⟨-, -, rfl⟩ := Shared.enroll_eq_ok_iff.mp he
      exact .inl ⟨hcreated, by simp [Dormant]⟩
  | refuse | refuseBare | discard | discardLast | count | push | leaveBuffered | askSubmit
  | askClone | touch => exact .inl ⟨hcreated, by simp [Dormant]⟩
  | _ => exact absurd hf id

/-- The searching client drains once, and until then jobs are only put into the queue. -/
structure DrainsOnce (s : Shared Place) (fs : Multiset SearchFrame) : Prop where
  drainsAhead_le : weigh drainsAhead fs ≤ 1
  before : weigh drainsAhead fs = 0 ∨ s.gate.lifecycle = .created ∧ ∀ f ∈ fs, Dormant f

theorem DrainsOnce.turn (h : DrainsOnce s (f ::ₘ (below + rest)))
    (hturn : Turn (workload plan) n v s f v' s' fs r told) (hscripted : Scripted f)
    (hpasses : Passes r below above r' told') : DrainsOnce s' (fs + (above + rest)) := by
  obtain ⟨hle, hbefore⟩ := h
  have hpassed := hpasses.weigh_eq Receives.drainsAhead_eq
  have hfs := Turn.drainsAhead_le hturn
  rw [weigh_cons, weigh_add] at hle hbefore
  refine ⟨by rw [weigh_add, weigh_add]; omega, ?_⟩
  rcases hbefore with hzero | ⟨hcreated, hall⟩
  · exact .inl (by rw [weigh_add, weigh_add]; omega)
  · rcases Turn.dormant hturn hscripted (hall f (Multiset.mem_cons_self ..)) hcreated with
      ⟨hcreated', hdormant⟩ | ⟨hone, hzero⟩
    · exact .inr ⟨hcreated', hpasses.forall_after
        (fun hg _ hdormant => Receives.dormant hg hdormant) hdormant
        fun g hg => hall g (Multiset.mem_cons_of_mem hg)⟩
    · exact .inl (by rw [weigh_add, weigh_add]; omega)

/-! ## Runs of a search -/

section Runs

variable {disk : Disk} {search : Search} {bystanders : List (List Bool)} {reliable : Bool}
  {m : Machine Place Examination Record} {history : History Place}

theorem frames_machine :
    (search.machine disk bystanders).frames =
      .client 1 none (requests (search.beginnings disk).2) ::ₘ
        (bystanders.map fun values => .client 0 none (flagChanges values) :
          List SearchFrame) := by
  rw [machine, Machine.frames_ofClients, List.map_map]
  rfl

/-- The threads of a search keep to their scripts. -/
theorem scripted_of_runs
    (run : Runs (workload plan) reliable (search.machine disk bystanders) history m) :
    ∀ f ∈ m.frames, Scripted f := by
  refine run.frames_induction (P := fun _ _ fs _ => ∀ f ∈ fs, Scripted f) ?_ ?_
  · intro f hf
    rw [frames_machine, Multiset.mem_cons, Multiset.mem_coe, List.mem_map] at hf
    obtain rfl | ⟨values, -, rfl⟩ := hf
    · exact .next _
    · exact .bystander values
  · intro n v s f v' s' fs below above rest r r' told told' past _ hturn hpasses _ h
    obtain ⟨hfs, hr⟩ := Turn.scripted hturn (h f (Multiset.mem_cons_self ..))
    exact hpasses.forall_mem_after Receives.scripted hfs hr h

theorem drainsAhead_flagChanges (values : List Bool) :
    (flagChanges values).countP isDrain = 0 := by
  simp [flagChanges, List.countP_eq_zero, isDrain]

theorem drainsAhead_requests (places : List Place) :
    (requests places).countP isDrain = 1 := by
  induction places with
  | nil => rfl
  | cons p places ih => simpa [isDrain] using ih

theorem drainsOnce_of_runs
    (run : Runs (workload plan) reliable (search.machine disk bystanders) history m) :
    DrainsOnce m.shared m.frames := by
  refine run.turn_induction (P := fun m _ => DrainsOnce m.shared m.frames) ?_ ?_
  · have hone : weigh drainsAhead (search.machine disk bystanders).frames = 1 := by
      rw [frames_machine, weigh_cons, drainsAhead, drainsAhead_requests]
      have hzero : weigh drainsAhead (bystanders.map fun values =>
          .client 0 none (flagChanges values) : List SearchFrame) = 0 := by
        simp [weigh, drainsAhead, drainsAhead_flagChanges, Function.comp_def]
      rw [hzero]
    refine ⟨hone.le, .inr ⟨rfl, ?_⟩⟩
    intro f hf
    obtain ⟨_, _, rfl⟩ := Machine.exists_client_of_mem_ofClients hf
    trivial
  · intro n f fs below above rest r r' told told' past m₁ m₂ run₁ _ hbefore hafter _ hturn
      hpasses _ h
    have hscripted := scripted_of_runs run₁ f (by rw [hbefore]; exact Multiset.mem_cons_self ..)
    rw [hbefore] at h
    rw [hafter]
    exact h.turn hturn hscripted hpasses

/-- Once quiescence is declared the searching client has asked for its drain. -/
theorem drainsAhead_of_quiescent
    (run : Runs (workload plan) reliable (search.machine disk bystanders) history m)
    (hq : m.shared.gate.lifecycle = .quiescent) (hf : f ∈ m.frames) : drainsAhead f = 0 := by
  rcases (drainsOnce_of_runs run).before with hzero | ⟨hcreated, -⟩
  · exact eq_zero_of_weigh hzero hf
  · rw [hcreated] at hq
    cases hq

/-- Before quiescence is declared nobody submits any more. -/
theorem live_of_submits
    (run : Runs (workload plan) reliable (search.machine disk bystanders) history m)
    (hf : f ∈ m.frames) (hsubmits : f.submits = 1) : m.shared.gate.lifecycle ≠ .quiescent := by
  intro hq
  obtain ⟨g, hg, ⟨k, h, next, rfl⟩ | ⟨held, script, rfl⟩⟩ := run.exists_awaits hf hsubmits
  · have hpending := run.accounted.pending_eq_zero hq hg
    cases hpending
  · cases (show OnScript held (some .submit) script from scripted_of_runs run _ hg) with
    | submitting places =>
        rcases (drainsOnce_of_runs run).before with hzero | ⟨hcreated, -⟩
        · have hnone := eq_zero_of_weigh hzero hg
          rw [drainsAhead, drainsAhead_requests] at hnone
          cases hnone
        · rw [hcreated] at hq
          cases hq

end Runs

end Frontier.Search
