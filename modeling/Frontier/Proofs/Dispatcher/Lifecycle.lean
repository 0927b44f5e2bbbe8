/-
# Lifecycle — created, admitting, draining, quiescent, and never back

Clients and bodies submit, start, close and drain at the same time, and all of
them write the gate.  Whatever the order, the lifecycle only moves forward and a
gate that was shut stays shut.

| while the lifecycle is | this holds |
| :-- | :-- |
| created | no slot is held, nothing was spawned or popped, the queue is what was pushed (`Buffering`) |
| not quiescent | the gate is shut only if somebody closed it (`Runs.closed_of_shut`) |
| quiescent | nothing is pending, queued or running, and nothing will be popped (`Spent`) |

A submission is refused at one moment, when it is admitted or not.  From there
on its thread has nothing to do but to drop handles (`Submitting.step_refused`).
-/
import Frontier.Dispatcher.Schedule
import Frontier.Dispatcher.Script
import Frontier.Proofs.Dispatcher.Closing
import Frontier.Proofs.Dispatcher.FirstInFirstOut
import Frontier.Proofs.Dispatcher.Joining
import Mathlib

namespace Frontier

namespace Gate

variable {g : Gate}

theorem rank_le_start : g.lifecycle.rank ≤ g.start.lifecycle.rank := by
  unfold start
  split
  · next h =>
      rw [h]
      exact Nat.zero_le _
  · exact le_rfl

theorem rank_le_drain : g.lifecycle.rank ≤ g.drain.lifecycle.rank := by
  unfold drain
  split
  · exact le_rfl
  · next h => cases hl : g.lifecycle <;> simp_all [Lifecycle.rank]

/-- Quiescence comes last. -/
theorem rank_le_quiescent (l : Lifecycle) : l.rank ≤ Lifecycle.quiescent.rank := by
  cases l <;> decide

end Gate

namespace Dispatcher

variable {J B ω : Type} {w : Workload J B ω} {n : Neighbours} {v v' : ω} {s s' : Shared J}
  {f g : Frame J B ω} {fs gs below above rest : Multiset (Frame J B ω)} {q : Result}
  {r r' : Option Result} {told told' : List (Occurrence J)} {limit : Nat}

/-! ## Only forward -/

theorem Turn.rank_le (h : Turn w n v s f v' s' fs r told) :
    s.gate.lifecycle.rank ≤ s'.gate.lifecycle.rank := by
  cases h with
  | takeSlot ha | reacquire ha | acquireSelf ha =>
      obtain ⟨-, rfl⟩ := Shared.acquire?_eq_some_iff.mp ha
      exact le_rfl
  | handBack | giveUp | release =>
      obtain ⟨_, _, _, hrelease, -⟩ := s.exists_release_eq
      rw [hrelease]
  | accept he =>
      obtain ⟨-, -, rfl⟩ := Shared.enroll_eq_ok_iff.mp he
      exact le_rfl
  | pop hp =>
      obtain ⟨_, -, rfl⟩ := Shared.pop?_eq_some_iff.mp hp
      exact le_rfl
  | start => exact Gate.rank_le_start
  | park => exact Gate.rank_le_drain
  | declare | wake => exact Gate.rank_le_quiescent _
  | _ => exact le_rfl

/-! ## Before jobs may run -/

theorem Frame.slots_of_unopened (hopened : ¬f.opened) (hserving : f.isServing = false) :
    f.slots = 0 := by
  cases f with
  | filling => exact absurd trivial hopened
  | _ => first | rfl | cases hserving

theorem Frame.tickets_of_not_serving (h : f.isServing = false) : f.tickets = 0 := by
  cases f with
  | run | submitting | starting => cases h
  | _ => rfl

theorem Frame.tickets_of_pending (h : f.pending = 0) : f.tickets = 0 := by
  cases f with
  | run | submitting | starting => cases h
  | _ => rfl

/-- A thread serves the queue because it did before, or because jobs may run. -/
theorem Turn.not_serving (h : Turn w n v s f v' s' fs r told) (hopened : ¬f.opened)
    (hserving : f.isServing = false) :
    (∀ g ∈ fs, g.isServing = false) ∧ told.any Occurrence.isSpawning = false ∧
      (told.filterMap Occurrence.event?).filterMap Event.popped? = [] := by
  cases h with
  | seeOpen | seeShut | seeJobs | seeNoJobs | takeSlot | findNoSlot | seeQuiescent | seeLive
  | handBack | takeNumber | spawn | spawnLast | failToSpawn | giveUp | acquireSelf
  | leaveToOthers => exact absurd trivial hopened
  | pop | popNothing | finish | panic | act | wait | submit | startInside | closeInside | ask
  | cloneInside | dropInside | shed | countFinished | countBroken | countPanicked | complete
  | release | leaveEmpty | lookAgain | reacquire | leaveFull => cases hserving
  | takeRegistry | join => exact ⟨forall_mem_joining (fun _ _ => rfl) rfl, rfl, rfl⟩
  | _ => exact ⟨by simp [Frame.isServing], rfl, rfl⟩

theorem Receives.not_serving (h : Receives q g gs r told) (hg : g.isServing = false) :
    ∀ f ∈ gs, f.isServing = false := by
  cases h with
  | startBody | submitBody => cases hg
  | _ => simp [Frame.isServing]

/-- No thread has got to where jobs may run. -/
structure Unopened (fs : Multiset (Frame J B ω)) (past : Machine.History J) : Prop where
  opened : ∀ f ∈ fs, ¬f.opened
  serving : ∀ f ∈ fs, f.isServing = false
  spawned : ∀ o ∈ past, o.2.isSpawning = false
  popped : Machine.popped past = []

theorem Unopened.turn {past : Machine.History J} (h : Unopened (f ::ₘ (below + rest)) past)
    (hturn : Turn w n v s f v' s' fs r told) (hpasses : Passes r below above r' told')
    (hcreated : s'.gate.lifecycle = .created) :
    Unopened (fs + (above + rest)) (past ++ (told ++ told').map (n.self, ·)) := by
  have hf : f ∈ f ::ₘ (below + rest) := Multiset.mem_cons_self ..
  obtain ⟨hopened, hr⟩ := hturn.opened (h.opened f hf) hcreated
  obtain ⟨hserving, hspawned, hpopped⟩ := hturn.not_serving (h.opened f hf) (h.serving f hf)
  refine ⟨?_, ?_, ?_, ?_⟩
  · exact hpasses.forall_mem_after (fun hg hq hno => hg.not_opened hq hno) hopened hr h.opened
  · exact hpasses.forall_after (fun hreceives _ hidle => hreceives.not_serving hidle) hserving
      fun g hg => h.serving g (Multiset.mem_cons_of_mem hg)
  · intro o ho
    rcases List.mem_append.mp ho with ho | ho
    · exact h.spawned o ho
    · obtain ⟨x, hx, rfl⟩ := List.mem_map.mp ho
      have hnone : (told ++ told').any Occurrence.isSpawning = false := by
        rw [List.any_append, hspawned, hpasses.any_isSpawning]
        rfl
      exact Bool.not_eq_true _ |>.mp (List.any_eq_false.mp hnone x hx)
  · rw [Machine.popped_append_map, List.filterMap_append, hpasses.no_event, List.append_nil,
      hpopped, h.popped]
    rfl

/-! ## Refused submissions -/

namespace Shared

theorem enroll_eq_error_iff {job : J} {handles : Nat} :
    s.enroll job handles = .error .dispatcherClosed ↔ s.gate.isAccepting = false := by
  unfold enroll Gate.enroll
  cases h : s.gate.isAccepting with
  | true => simp [Bind.bind, Except.bind, Pure.pure, Except.pure]
  | false => simp [Bind.bind, Except.bind]

end Shared

namespace Submitting

/-- The submission was refused, or will be in the next step. -/
def IsRefused (s : Shared J) : Submitting J → Prop
  | enroll job handles => s.enroll job handles = .error .dispatcherClosed
  | discard _ => True
  | count _ | push _ | checkOpen | fill _ => False

variable {p q : Submitting J}

theorem eq_discard_of_refuse {left : Nat} (h : refuse left = .more q) : ∃ k, q = discard k := by
  cases left with
  | zero => cases h
  | succ k => cases h; exact ⟨k, rfl⟩

theorem refuse_ne_done {left : Nat} {ok : Bool} (h : refuse (J := J) left = .done ok) :
    ok = false := by
  cases left <;> cases h
  rfl

/-- A refused submission changes the number of handles and nothing else, and returns as refused. -/
theorem step_refused (h : p.IsRefused s) :
    { (p.step n s).shared with handles := s.handles } = s ∧
      (∀ q, (p.step n s).next = .more q → ∃ left, q = discard left) ∧
      ∀ ok, (p.step n s).next = .done ok → ok = false := by
  cases p with
  | enroll job handles =>
      have herror : s.enroll job handles = .error .dispatcherClosed := h
      simp only [step, herror, Stepped.noted]
      exact ⟨trivial, fun _ => eq_discard_of_refuse, fun _ => refuse_ne_done⟩
  | discard left => exact ⟨rfl, fun _ => eq_discard_of_refuse, fun _ => refuse_ne_done⟩
  | _ => exact absurd h id

/-- The submission goes on where it is not refused, or has returned that it was accepted. -/
def Accepts : Progress (Submitting J) Bool → Prop
  | .more q => ∀ s, ¬q.IsRefused s
  | .done ok => ok = true

theorem step_accepts (h : ¬p.IsRefused s) : Accepts (p.step n s).next := by
  cases p with
  | enroll job handles =>
      simp only [step]
      split
      · exact fun _ => id
      · next e herror =>
          refine absurd ?_ h
          exact Shared.enroll_eq_error_iff.mpr (Shared.enroll_eq_error herror)
  | discard => exact absurd trivial h
  | count | push => exact fun _ => id
  | checkOpen =>
      simp only [step, Stepped.silent]
      split
      · exact fun _ => id
      · rfl
  | fill f =>
      simp only [step, Stepped.map]
      cases (f.step n s).next with
      | more f' => exact fun _ => id
      | done x => rfl

/-- A submission is refused in the step that does not admit its job. -/
theorem refused_mem_step {job : J} {handles : Nat} :
    .refused job ∈ ((enroll job handles).step n s).events ↔ s.gate.isAccepting = false := by
  simp only [step]
  split
  · next a s' hok =>
      obtain ⟨hacc, -, -⟩ := Shared.enroll_eq_ok_iff.mp hok
      simp [Stepped.noted, hacc]
  · next herror => simp [Stepped.noted, Shared.enroll_eq_error herror]

end Submitting

/-- Where what is going on has come to, unless it is done. -/
def Progress.point? {σ ρ : Type} : Progress σ ρ → Option σ
  | more p => some p
  | done _ => none

theorem Progress.point?_eq_some {σ ρ : Type} {p : Progress σ ρ} {q : σ} :
    p.point? = some q ↔ p = .more q := by
  cases p <;> simp [point?]

/-- Where a thread is in a submission, its own or that of the body that it runs. -/
def Thread.submission? : Thread J B ω → Option (Submitting J)
  | client ⟨_, some (.submitting p), _⟩ => some p
  | client ⟨_, some (.draining (.serve (.submitting _ _ p _))), _⟩ => some p
  | client ⟨_, some (.dropping (.drain (.serve (.submitting _ _ p _)))), _⟩ => some p
  | worker _ (some (.submitting _ _ p _)) => some p
  | _ => none

theorem Thread.eq_of_submission {th : Thread J B ω} {p : Submitting J}
    (h : th.submission? = some p) :
    (∃ held script, th = .client ⟨held, some (.submitting p), script⟩) ∨
      ∃ k handles next,
        (∃ number, th = .worker number (some (.submitting k handles p next))) ∨
          (∃ held script,
            th = .client ⟨held, some (.draining (.serve (.submitting k handles p next))), script⟩) ∨
          ∃ held script, th =
            .client ⟨held, some (.dropping (.drain (.serve (.submitting k handles p next)))),
              script⟩ := by
  unfold submission? at h
  split at h
  · cases h
    exact .inl ⟨_, _, rfl⟩
  · cases h
    exact .inr ⟨_, _, _, .inr (.inl ⟨_, _, rfl⟩)⟩
  · cases h
    exact .inr ⟨_, _, _, .inr (.inr ⟨_, _, rfl⟩)⟩
  · cases h
    exact .inr ⟨_, _, _, .inl ⟨_, rfl⟩⟩
  · cases h

/-! ## Who shuts the gate -/

/-- The next turn of the frame closes the dispatcher. -/
def Frame.Closes (w : Workload J B ω) : Frame J B ω → Prop
  | client _ none (.close :: _) => True
  | run _ _ b => ∃ next, w.move b = .close next
  | _ => False

/-- Only a frame that closes shuts the gate, until quiescence is declared. -/
theorem Turn.closes (h : Turn w n v s f v' s' fs r told) (hopen : s.gate.accepting = true)
    (hshut : s'.gate.accepting = false) : s'.gate.lifecycle = .quiescent ∨ f.Closes w := by
  have habsurd : ¬s.gate.accepting = false := by rw [hopen]; exact Bool.true_eq_false_eq_False
  cases h with
  | takeSlot ha | reacquire ha | acquireSelf ha =>
      obtain ⟨-, rfl⟩ := Shared.acquire?_eq_some_iff.mp ha
      exact absurd hshut habsurd
  | handBack | giveUp | release =>
      obtain ⟨_, _, _, hrelease, -⟩ := s.exists_release_eq
      rw [hrelease] at hshut
      exact absurd hshut habsurd
  | accept he =>
      obtain ⟨-, -, rfl⟩ := Shared.enroll_eq_ok_iff.mp he
      exact absurd hshut habsurd
  | pop hp =>
      obtain ⟨_, -, rfl⟩ := Shared.pop?_eq_some_iff.mp hp
      exact absurd hshut habsurd
  | declare | wake => exact .inl rfl
  | closeInside hmove => exact .inr ⟨_, hmove⟩
  | askClose => exact .inr trivial
  | start => exact absurd (Gate.accepting_start.symm.trans hshut) habsurd
  | park => exact absurd (Gate.accepting_drain.symm.trans hshut) habsurd
  | _ => exact absurd hshut habsurd

section Client

variable {held : Nat} {errand : Option Errand} {script : List (Request J ω)}

theorem Submitting.client_notMem (p : Submitting J) :
    (.client held errand script : Frame J B ω) ∉ p.frames := by
  cases p <;> simp [frames]

theorem Starting.client_notMem (p : Starting) :
    (.client held errand script : Frame J B ω) ∉ p.frames := by
  cases p <;> simp [frames]

theorem Serving.client_notMem (p : Serving J B) :
    (.client held errand script : Frame J B ω) ∉ p.frames := by
  cases p <;> simp [frames, Submitting.client_notMem, Starting.client_notMem]

theorem Draining.client_notMem (p : Draining J B) :
    (.client held errand script : Frame J B ω) ∉ p.frames := by
  cases p <;> simp [frames, Serving.client_notMem, Starting.client_notMem]

theorem Call.client_notMem (c : Call J B) :
    (.client held errand script : Frame J B ω) ∉ c.frames := by
  cases c with
  | submitting p => exact p.client_notMem
  | starting p => exact p.client_notMem
  | draining p => exact p.client_notMem
  | reading p => simp [frames]
  | dropping p => cases p <;> simp [frames, Dropping.frames, Draining.client_notMem]

/-- The frame of a client tells where the client is. -/
theorem Thread.exists_of_client_mem {th : Thread J B ω}
    (h : .client held errand script ∈ th.frames) :
    ∃ call, th = .client ⟨held, call, script⟩ ∧ errand = call.map Call.errand := by
  rcases th with ⟨held', _ | call, script'⟩ | ⟨number, _ | p⟩
  · cases Multiset.mem_singleton.mp h
    exact ⟨none, rfl, rfl⟩
  · rcases Multiset.mem_add.mp h with h | h
    · exact absurd h call.client_notMem
    · cases Multiset.mem_singleton.mp h
      exact ⟨some call, rfl, rfl⟩
  · exact absurd h (Multiset.notMem_zero _)
  · exact absurd h p.client_notMem

end Client

namespace Machine

variable {reliable canSpawn : Bool} {m m' : Machine J B ω} {history : History J} {t : ThreadId}
  {th : Thread J B ω} {occurred : List (Occurrence J)} {world : ω} {first : List (Request J ω)}
  {others : List (List (Request J ω))}

/-- A client changes the gate by closing it, or else in the calls that it makes. -/
theorem request_accepting {held : Nat} {request : Request J ω} {script : List (Request J ω)}
    (h : m.request t held script request = some (m', occurred)) :
    m'.shared.gate.accepting = m.shared.gate.accepting ∨
      request = .close ∧ m'.shared.gate.accepting = false := by
  have henter {left : Nat} {call : Call J B}
      (h : m.enter t held left call script = some (m', occurred)) :
      m'.shared.gate.accepting = m.shared.gate.accepting := by
    unfold enter at h
    split at h
    · cases h
      rfl
    · cases h
  cases request with
  | submit job given =>
      simp only [Machine.request] at h
      split at h
      · exact .inl (henter h)
      · cases h
  | start | drain | stats | drop unwinding => exact .inl (henter h)
  | close =>
      simp only [Machine.request] at h
      split at h
      · cases h
        exact .inr ⟨rfl, rfl⟩
      · cases h
  | clone =>
      simp only [Machine.request] at h
      split at h
      · cases h
        exact .inl rfl
      · cases h
  | give receiver =>
      simp only [Machine.request] at h
      split at h
      · split at h
        · cases h
          exact .inl rfl
        · cases h
      · cases h
  | touch effect =>
      cases h
      exact .inl rfl

/-- The next step of the thread closes the dispatcher. -/
def Closes (w : Workload J B ω) (m : Machine J B ω) (t : ThreadId) : Prop :=
  ∃ th, m.threads[t]? = some th ∧ ∃ f ∈ th.frames, f.Closes w

/-- Only a thread that closes shuts the gate, until quiescence is declared. -/
theorem closes_of_step (h : m.step w t canSpawn = some (m', occurred))
    (hopen : m.shared.gate.accepting = true) (hshut : m'.shared.gate.accepting = false) :
    m'.shared.gate.lifecycle = .quiescent ∨ m.Closes w t := by
  rcases turn_of_step h with ⟨held, request, script, hth, hrequest⟩ |
    ⟨th, f, _, _, _, hth, hf, hturn⟩
  · rcases request_accepting hrequest with hsame | ⟨rfl, -⟩
    · rw [hsame, hopen] at hshut
      cases hshut
    · exact .inr ⟨_, hth, _, Multiset.mem_singleton_self _, trivial⟩
  · exact (hturn.closes hopen hshut).imp_right fun hcloses => ⟨th, hth, f, hf, hcloses⟩

/-- The step of a thread that closes shuts the gate. -/
theorem Closes.shuts (hcloses : m.Closes w t) (h : m.step w t canSpawn = some (m', occurred)) :
    m'.shared.gate.accepting = false := by
  obtain ⟨th, hth, f, hf, hf'⟩ := hcloses
  cases f with
  | run k held b =>
      obtain ⟨next, hmove⟩ := hf'
      exact shuts_of_step hth hf hmove h
  | client held errand script =>
      match errand, script, hf' with
      | none, .close :: script, _ =>
          obtain ⟨call, rfl, hcall⟩ := Thread.exists_of_client_mem hf
          obtain rfl := Option.map_eq_none_iff.mp hcall.symm
          unfold step at h
          rw [hth] at h
          simp only [Machine.request] at h
          split at h
          · cases h
            rfl
          · cases h
  | _ => exact absurd hf' id

/-- In one of the steps of the run the dispatcher was closed. -/
def Closed (w : Workload J B ω) (reliable : Bool) (m₀ : Machine J B ω) (history : History J)
    (m : Machine J B ω) : Prop :=
  ∃ past m₁ t canSpawn m₂ occurred later, Runs w reliable m₀ past m₁ ∧ m₁.Closes w t ∧
    m₁.step w t canSpawn = some (m₂, occurred) ∧ Runs w reliable m₂ later m ∧
    history = past ++ occurred.map (t, ·) ++ later

theorem Closed.shut {m₀ : Machine J B ω} (h : Closed w reliable m₀ history m) :
    m.shared.gate.accepting = false := by
  obtain ⟨_, _, _, _, _, _, _, -, hcloses, hstep, hlater, -⟩ := h
  exact (hlater.shut (hcloses.shuts hstep)).1

/-- Behind a gate that is shut somebody has closed it, or quiescence was declared. -/
theorem Runs.closed_of_shut
    (run : Runs w reliable (ofClients limit world first others) history m)
    (hshut : m.shared.gate.accepting = false) :
    Closed w reliable (ofClients limit world first others) history m ∨
      m.shared.gate.lifecycle = .quiescent := by
  induction run with
  | refl => cases hshut
  | @step past m₁ m₂ t canSpawn occurred run spawns last ih =>
      cases haccepting : m₁.shared.gate.accepting with
      | false =>
          rcases ih haccepting with hclosed | hquiescent
          · obtain ⟨past', m₃, u, c, m₄, occurred', later, hpast, hcloses, hstep, hlater, rfl⟩ :=
              hclosed
            refine .inl ⟨past', m₃, u, c, m₄, occurred', _, hpast, hcloses, hstep,
              .step hlater spawns last, ?_⟩
            rw [← List.append_assoc]
          · obtain ⟨r, -, f, fs, below, above, rest, r₀, told₀, told₁, hturn, -, -, -, -⟩ :=
              step_rewrites last
            exact .inr (hturn.quiescent hquiescent).1
      | true =>
          rcases closes_of_step last haccepting hshut with hquiescent | hcloses
          · exact .inr hquiescent
          · refine .inl ⟨past, m₁, t, canSpawn, m₂, occurred, [], run, hcloses, last, .refl, ?_⟩
            rw [List.append_nil]

/-! ## What holds of a stage -/

/-- Jobs are kept and none is touched: nobody holds a slot, no worker was spawned, no job was popped,
and the queue is what was pushed. -/
structure Buffering (history : History J) (m : Machine J B ω) : Prop where
  slots : m.shared.slots.active = 0
  spawned : ∀ o ∈ history, o.2.isSpawning = false
  popped : popped history = []
  running : m.running = 0
  queue : m.shared.queue.items = pushed history

/-- There is no job, neither counted nor queued nor running. -/
structure Spent (m : Machine J B ω) : Prop where
  pending : m.shared.gate.pending = 0
  queue : m.shared.queue.items = []
  running : m.running = 0

theorem Runs.first_in_first_out
    (run : Runs w reliable (ofClients limit world first others) history m) :
    popped history ++ m.shared.queue.items = pushed history :=
  run.serves.first_in_first_out.symm

theorem Runs.unopened (run : Runs w reliable (ofClients limit world first others) history m)
    (hcreated : m.shared.gate.lifecycle = .created) : Unopened m.frames history := by
  refine run.frames_induction
    (P := fun _ s fs past => s.gate.lifecycle = .created → Unopened fs past) ?_ ?_ hcreated
  · intro _
    refine ⟨?_, ?_, nofun, rfl⟩ <;>
    · intro f hf
      obtain ⟨_, _, rfl⟩ := exists_client_of_mem_ofClients hf
      first | exact id | rfl
  · intro n v s f v' s' fs below above rest r r' told told' past _ hturn hpasses _ h hcreated
    have hbefore : s.gate.lifecycle = .created := by
      by_contra hopen
      exact hturn.not_created hopen hcreated
    exact (h hbefore).turn hturn hpasses hcreated

theorem Runs.buffering (run : Runs w reliable (ofClients limit world first others) history m)
    (hcreated : m.shared.gate.lifecycle = .created) : Buffering history m := by
  have hunopened := run.unopened hcreated
  have hfifo := run.first_in_first_out
  rw [hunopened.popped, List.nil_append] at hfifo
  refine ⟨?_, hunopened.spawned, hunopened.popped, ?_, hfifo⟩
  · rw [run.slotsOwned.owned]
    refine weigh_eq_zero ?_
    intro f hf
    exact Frame.slots_of_unopened (hunopened.opened f hf) (hunopened.serving f hf)
  · refine weigh_eq_zero ?_
    intro f hf
    exact Frame.tickets_of_not_serving (hunopened.serving f hf)

/-- Where no job is pending none is queued or running. -/
theorem Spent.of_accounted (h : Accounted m.shared m.frames)
    (hpending : m.shared.gate.pending = 0) : Spent m := by
  have hall := h.pending_eq
  rw [hpending] at hall
  refine ⟨hpending, List.length_eq_zero_iff.mp (by omega), weigh_eq_zero ?_⟩
  intro f hf
  exact Frame.tickets_of_pending (eq_zero_of_weigh (a := Frame.pending) (by omega) hf)

theorem Runs.rank_le (run : Runs w reliable m history m') :
    m.shared.gate.lifecycle.rank ≤ m'.shared.gate.lifecycle.rank := by
  refine run.frames_induction
    (P := fun _ s _ _ => m.shared.gate.lifecycle.rank ≤ s.gate.lifecycle.rank) le_rfl ?_
  intro n v s f v' s' fs below above rest r r' told told' past _ hturn _ _ h
  exact h.trans hturn.rank_le

/-- From quiescence on there is no job, and none is popped. -/
theorem Runs.spent {later : History J}
    (run : Runs w reliable (ofClients limit world first others) history m)
    (hquiescent : m.shared.gate.lifecycle = .quiescent) (hlater : Runs w reliable m later m') :
    m'.shared.gate.lifecycle = .quiescent ∧ Spent m' ∧ popped later = [] := by
  have hrun : m'.shared.gate.lifecycle = .quiescent ∧ popped later = [] := by
    refine hlater.turn_induction
      (P := fun m past => m.shared.gate.lifecycle = .quiescent ∧ popped past = [])
      ⟨hquiescent, rfl⟩ ?_
    intro n f fs below above rest r r' told told' past m₁ m₂ run₁ _ _ _ _ hturn hpasses _ h
    obtain ⟨hq, hpast⟩ := h
    have hempty := (run.trans run₁).accounted.queue_of_quiescent hq
    refine ⟨(hturn.quiescent hq).1, ?_⟩
    rw [popped_append_map, List.filterMap_append, hpasses.no_event, List.append_nil, hpast,
      hturn.dispatchChange.popped_eq_nil hempty]
    rfl
  have haccounted := (run.trans hlater).accounted
  exact ⟨hrun.1, .of_accounted haccounted (haccounted.pending_of_quiescent hrun.1), hrun.2⟩

/-! ## The step of a submission -/

/-- The thread is at that point of a submission. -/
def SubmitsAt (m : Machine J B ω) (t : ThreadId) (p : Submitting J) : Prop :=
  ∃ th, m.threads[t]? = some th ∧ th.submission? = some p

variable {p : Submitting J}

theorem filterMap_event?_map (events : List (Event J)) :
    (events.map Occurrence.event).filterMap Occurrence.event? = events := by
  rw [List.filterMap_map]
  exact List.filterMap_some

theorem returned_notMem_map {events : List (Event J)} {x : Returned} :
    Occurrence.returned x ∉ events.map Occurrence.event := by
  simp

/-- After its step a thread is where the submission is, or in none if it has returned. -/
theorem SubmitsAt.of_commit {σ : Type} {r : Stepped J (Progress (Submitting J) Bool)}
    {r' : Stepped J σ} {next : σ → Thread J B ω} (hth : m.threads[t]? = some th)
    (hpoint : (next r'.next).submission? = r.next.point?) :
    ∀ q, (m.commit t world r' next).SubmitsAt t q → r.next = .more q := by
  rintro q ⟨th', hth', hq⟩
  rw [getElem?_commit_self hth] at hth'
  cases hth'
  exact Progress.point?_eq_some.mp (hpoint.symm.trans hq)

theorem SubmitsAt.step (hsubmits : m.SubmitsAt t p)
    (h : m.step w t canSpawn = some (m', occurred)) :
    ∃ r, p.step (m.neighbours t canSpawn) m.shared = r ∧ m'.shared = r.shared ∧
      occurred.filterMap Occurrence.event? = r.events ∧
      (∀ q, m'.SubmitsAt t q → r.next = .more q) ∧
      ∀ ok, .returned (.submitted ok) ∈ occurred → r.next = .done ok := by
  obtain ⟨th, hth, hsubmission⟩ := hsubmits
  unfold Machine.step at h
  rw [hth] at h
  refine ⟨_, rfl, ?_⟩
  generalize hr : p.step (m.neighbours t canSpawn) m.shared = r
  obtain ⟨held, script, rfl⟩ | ⟨k, handles, next, ⟨number, rfl⟩ | ⟨held, script, rfl⟩ |
    ⟨held, script, rfl⟩⟩ := Thread.eq_of_submission hsubmission
  · simp only [Call.step, Option.map_some, Option.some.injEq, hr] at h
    cases h
    refine ⟨rfl, ?_, SubmitsAt.of_commit hth ?_, ?_⟩
    · rw [List.filterMap_append, filterMap_event?_map]
      cases hnext : r.next <;> simp [Stepped.map, Progress.embed, hnext, Occurrence.event?]
    · cases hnext : r.next <;>
        simp [Stepped.map, Progress.embed, Progress.point?, hnext, Thread.submission?]
    · intro ok hok
      cases hnext : r.next with
      | more q => simp [Stepped.map, Progress.embed, hnext] at hok
      | done ok' =>
          simp only [Stepped.map, hnext, Progress.embed, List.mem_append, returned_notMem_map,
            List.mem_singleton, false_or] at hok
          cases hok
          rfl
  · simp only [Serving.step, Option.map_some, Option.some.injEq, hr] at h
    cases h
    refine ⟨rfl, filterMap_event?_map _, SubmitsAt.of_commit hth ?_, ?_⟩
    · cases hnext : r.next <;>
        simp [Stepped.map, Progress.embed, Progress.point?, hnext, Thread.submission?]
    · intro ok hok
      exact absurd hok returned_notMem_map
  · simp only [Call.step, Draining.step, Serving.step, Option.map_some, Option.some.injEq,
      hr] at h
    cases h
    refine ⟨rfl, ?_, SubmitsAt.of_commit hth ?_, ?_⟩
    · exact (List.filterMap_append).trans (by rw [filterMap_event?_map]; exact List.append_nil _)
    · cases hnext : r.next <;>
        simp [Stepped.map, Progress.embed, Progress.point?, hnext, Thread.submission?]
    · intro ok hok
      simp [Stepped.map, Progress.embed] at hok
  · simp only [Call.step, Dropping.step, Draining.step, Serving.step, Option.map_some,
      Option.some.injEq, hr] at h
    cases h
    refine ⟨rfl, ?_, SubmitsAt.of_commit hth ?_, ?_⟩
    · exact (List.filterMap_append).trans (by rw [filterMap_event?_map]; exact List.append_nil _)
    · cases hnext : r.next <;>
        simp [Stepped.map, Progress.embed, Progress.point?, hnext, Thread.submission?]
    · intro ok hok
      simp [Stepped.map, Progress.embed] at hok

/-- A step of a submission that was refused or is refused by it.  But for the number of handles
nothing has changed, and if the submission returns it is told so. -/
structure StaysRefused (m : Machine J B ω) (t : ThreadId) (m' : Machine J B ω)
    (occurred : List (Occurrence J)) : Prop where
  unchanged : { m'.shared with handles := m.shared.handles } = m.shared
  refused : ∀ q, m'.SubmitsAt t q → q.IsRefused m'.shared
  returned : ∀ ok, .returned (.submitted ok) ∈ occurred → ok = false

/-- A step of a submission that was accepted or is accepted by it. -/
structure StaysAccepted (t : ThreadId) (m' : Machine J B ω) (occurred : List (Occurrence J)) :
    Prop where
  accepted : ∀ q, m'.SubmitsAt t q → ¬q.IsRefused m'.shared
  returned : ∀ ok, .returned (.submitted ok) ∈ occurred → ok = true

theorem SubmitsAt.staysRefused (hsubmits : m.SubmitsAt t p) (hrefused : p.IsRefused m.shared)
    (h : m.step w t canSpawn = some (m', occurred)) : StaysRefused m t m' occurred := by
  obtain ⟨r, rfl, hshared, -, hmore, hdone⟩ := hsubmits.step h
  obtain ⟨hunchanged, hdiscards, hreturns⟩ :=
    Submitting.step_refused (n := m.neighbours t canSpawn) hrefused
  refine ⟨by rw [hshared]; exact hunchanged, ?_, fun ok hok => hreturns ok (hdone ok hok)⟩
  intro q hq
  obtain ⟨left, rfl⟩ := hdiscards q (hmore q hq)
  trivial

theorem SubmitsAt.staysAccepted (hsubmits : m.SubmitsAt t p) (haccepted : ¬p.IsRefused m.shared)
    (h : m.step w t canSpawn = some (m', occurred)) : StaysAccepted t m' occurred := by
  obtain ⟨r, rfl, -, -, hmore, hdone⟩ := hsubmits.step h
  have haccepts := Submitting.step_accepts (n := m.neighbours t canSpawn) haccepted
  constructor
  · intro q hq
    rw [hmore q hq] at haccepts
    exact haccepts _
  · intro ok hok
    rw [hdone ok hok] at haccepts
    exact haccepts

/-- Its event tells that a submission is refused. -/
theorem SubmitsAt.refused_mem_iff {job : J} {handles : Nat}
    (hsubmits : m.SubmitsAt t (.enroll job handles))
    (h : m.step w t canSpawn = some (m', occurred)) :
    .event (.refused job) ∈ occurred ↔ m.shared.gate.isAccepting = false := by
  obtain ⟨r, rfl, -, hevents, -, -⟩ := hsubmits.step h
  have htold : .refused job ∈
      ((Submitting.enroll job handles).step (m.neighbours t canSpawn) m.shared).events ↔
        m.shared.gate.isAccepting = false := Submitting.refused_mem_step
  rw [← htold, ← hevents, List.mem_filterMap]
  constructor
  · intro ho
    exact ⟨_, ho, rfl⟩
  · rintro ⟨o, ho, he⟩
    cases o with
    | event e => cases he; exact ho
    | returned x => cases he

/-- No job is admitted if the dispatcher was closed or is quiescent, and only then. -/
theorem Runs.isAccepting_eq_false_iff
    (run : Runs w reliable (ofClients limit world first others) history m) :
    m.shared.gate.isAccepting = false ↔
      Closed w reliable (ofClients limit world first others) history m ∨
        m.shared.gate.lifecycle = .quiescent := by
  constructor
  · intro hrefuses
    by_contra hnone
    obtain ⟨hunclosed, hlive⟩ := not_or.mp hnone
    have hopen : m.shared.gate.accepting = true := by
      by_contra hshut
      exact hnone (run.closed_of_shut (Bool.not_eq_true _ |>.mp hshut))
    rw [Gate.isAccepting_iff.mpr ⟨hopen, hlive⟩] at hrefuses
    cases hrefuses
  · intro hclosed
    refine Bool.not_eq_true _ |>.mp ?_
    intro haccepts
    obtain ⟨hopen, hlive⟩ := Gate.isAccepting_iff.mp haccepts
    rcases hclosed with hclosed | hquiescent
    · rw [hclosed.shut] at hopen
      cases hopen
    · exact hlive hquiescent

/-! ## The lifecycle of a dispatcher -/

/-- Whatever clients and jobs do, the lifecycle only moves forward and a gate that was shut stays
shut.  While the dispatcher is created its jobs are buffered.  A submission is refused, when its job
is to be admitted, if the dispatcher was closed or is quiescent, and only then; it then changes
nothing but the number of handles.  From quiescence on there is no job, and none runs again. -/
theorem Runs.lifecycle_only_forward
    (run : Runs w reliable (ofClients limit world first others) history m) :
    (m.shared.gate.lifecycle = .created → Buffering history m) ∧
      (∀ later m', Runs w reliable m later m' →
        m.shared.gate.lifecycle.rank ≤ m'.shared.gate.lifecycle.rank ∧
        (m.shared.gate.accepting = false → m'.shared.gate.accepting = false) ∧
        (m.shared.gate.lifecycle = .quiescent →
          m'.shared.gate.lifecycle = .quiescent ∧ Spent m' ∧ popped later = [])) ∧
      ∀ t p canSpawn m' occurred, m.SubmitsAt t p →
        m.step w t canSpawn = some (m', occurred) →
        (∀ job handles, p = .enroll job handles →
          (p.IsRefused m.shared ↔
            Closed w reliable (ofClients limit world first others) history m ∨
              m.shared.gate.lifecycle = .quiescent) ∧
          (.event (.refused job) ∈ occurred ↔ p.IsRefused m.shared)) ∧
        (p.IsRefused m.shared → StaysRefused m t m' occurred) ∧
        (¬p.IsRefused m.shared → StaysAccepted t m' occurred) := by
  refine ⟨run.buffering, ?_, ?_⟩
  · intro later m' hlater
    exact ⟨hlater.rank_le, fun hshut => (hlater.shut hshut).1, fun hq => run.spent hq hlater⟩
  · intro t p canSpawn m' occurred hsubmits hstep
    refine ⟨?_, fun hrefused => hsubmits.staysRefused hrefused hstep,
      fun haccepted => hsubmits.staysAccepted haccepted hstep⟩
    rintro job handles rfl
    have hrefused : (Submitting.enroll job handles).IsRefused m.shared ↔
        m.shared.gate.isAccepting = false := Shared.enroll_eq_error_iff
    exact ⟨hrefused.trans run.isAccepting_eq_false_iff,
      (hsubmits.refused_mem_iff hstep).trans hrefused.symm⟩

/-- A client submits a job, closes the dispatcher, and submits another job before it drains. -/
def closing : Machine Script.Job Script.Body Script.World :=
  ofClients 1 .empty [.submit [.log "one"] 0, .close, .submit [.log "two"] 0, .drain] []

/-- The second job is refused while the first is buffered. -/
theorem lifecycle_only_forward_closing :
    ∃ history m m' occurred, Runs Script.workload true closing history m ∧
      m.shared.gate.lifecycle = .created ∧ Buffering history m ∧
      m.SubmitsAt 0 (.enroll [.log "two"] 0) ∧
      m.step Script.workload 0 true = some (m', occurred) ∧
      Closed Script.workload true closing history m ∧ StaysRefused m 0 m' occurred ∧
      m'.shared.queue.items = [⟨0, [.log "one"], 0⟩] := by
  have hrun := runs_settle Script.workload 7 closing
  have hcreated : (closing.settle Script.workload 7).1.shared.gate.lifecycle = .created := by
    decide
  have hsubmits : (closing.settle Script.workload 7).1.SubmitsAt 0 (.enroll [.log "two"] 0) :=
    ⟨_, rfl, rfl⟩
  have hstep : (closing.settle Script.workload 7).1.step Script.workload 0 true =
      some ((closing.settle Script.workload 8).1,
        [.event (.refused [.log "two"]), .returned (.submitted false)]) := by rfl
  have hitems : (closing.settle Script.workload 8).1.shared.queue.items =
      [⟨0, [.log "one"], 0⟩] := by rfl
  obtain ⟨hbuffering, -, hsubmission⟩ := Runs.lifecycle_only_forward hrun
  obtain ⟨hdecides, hstays, -⟩ := hsubmission 0 _ true _ _ hsubmits hstep
  obtain ⟨hcause, hevent⟩ := hdecides _ _ rfl
  have hrefused := hevent.mp List.mem_cons_self
  have hclosed := (hcause.mp hrefused).resolve_right (by rw [hcreated]; decide)
  exact ⟨_, _, _, _, hrun, hcreated, hbuffering hcreated, hsubmits, hstep, hclosed,
    hstays hrefused, hitems⟩

end Machine

end Dispatcher

end Frontier
