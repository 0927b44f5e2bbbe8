/-
# Every step is a turn

A step of a thread runs down its nested calls to the innermost one, lets that
take a step, and hands what it returns back up.  On frames this is a turn of
one frame with its result passed on; all other frames stay as they are.  The
proof follows the nesting: filling inside submitting and starting, these inside
serving, serving inside draining, draining inside dropping, and all of them
inside the call of a client.

    `Machine.stepping_of_step`       who takes a step serves, is in a call, or makes a request
    `Machine.step_rewrites`          a step of the machine rewrites its frames by one turn
    `Machine.Runs.frames_induction`  what turns keep holds of every run
-/
import Frontier.Proofs.Dispatcher.Turn
import Mathlib

namespace Frontier.Dispatcher

variable {J B ω : Type} {w : Workload J B ω} {n : Neighbours} {v v' : ω} {s s' : Shared J}

/-- One of the frames `before` takes a turn, and the frames `after` come of it.  `r` is returned
to a frame that is not among them. -/
def Rewrites (w : Workload J B ω) (n : Neighbours) (v : ω) (s : Shared J)
    (before : Multiset (Frame J B ω)) (v' : ω) (s' : Shared J) (after : Multiset (Frame J B ω))
    (r : Option Result) (told : List (Occurrence J)) : Prop :=
  ∃ f fs below above rest r₀ told₀ told₁,
    Turn w n v s f v' s' fs r₀ told₀ ∧ Passes r₀ below above r told₁ ∧
      before = f ::ₘ (below + rest) ∧ after = fs + (above + rest) ∧ told = told₀ ++ told₁

namespace Rewrites

variable {before after gs : Multiset (Frame J B ω)} {r r' : Option Result}
  {told told' : List (Occurrence J)} {f g : Frame J B ω}

theorem of_turn (h : Turn w n v s f v' s' after r told) :
    Rewrites w n v s {f} v' s' after r told :=
  ⟨f, after, 0, 0, 0, r, told, [], h, .refl r, rfl, by simp, by simp⟩

/-- Other frames do not matter. -/
theorem beside (h : Rewrites w n v s before v' s' after r told)
    (rest : Multiset (Frame J B ω)) :
    Rewrites w n v s (before + rest) v' s' (after + rest) r told := by
  obtain ⟨f, fs, below, above, rest₀, r₀, told₀, told₁, turn, passes, rfl, rfl, rfl⟩ := h
  refine ⟨f, fs, below, above, rest₀ + rest, r₀, told₀, told₁, turn, passes, ?_, ?_, rfl⟩
  · rw [Multiset.cons_add, add_assoc]
  · rw [add_assoc, add_assoc]

/-- The frame that waited for the result receives it. -/
theorem receive {q : Result} (h : Rewrites w n v s before v' s' after (some q) told)
    (hg : Receives q g gs r' told') :
    Rewrites w n v s (before + {g}) v' s' (after + gs) r' (told ++ told') := by
  obtain ⟨f, fs, below, above, rest, r₀, told₀, told₁, turn, passes, rfl, rfl, rfl⟩ := h
  refine ⟨f, fs, g ::ₘ below, gs + above, rest, r₀, told₀, told₁ ++ told', turn,
    passes.receive hg, ?_, ?_, by rw [List.append_assoc]⟩
  · rw [Multiset.cons_add, Multiset.cons_add, add_comm (below + rest), Multiset.singleton_add]
  · rw [add_comm gs above, add_assoc, add_assoc, add_assoc, add_comm gs rest]

end Rewrites

/-! ## The outcome of a step inside a call -/

section Nesting

variable {σ τ ρ ρ' : Type}

/-- The frames of a call that goes on; none if it has returned. -/
def Progress.frames (φ : σ → Multiset (Frame J B ω)) : Progress σ ρ → Multiset (Frame J B ω)
  | more p => φ p
  | done _ => 0

/-- The result of a call that has returned. -/
def Progress.result? (ι : ρ → Result) : Progress σ ρ → Option Result
  | more _ => none
  | done x => some (ι x)

/-- The step `r` of a call with the frames `before` is a turn. -/
def Turns (w : Workload J B ω) (n : Neighbours) (v : ω) (s : Shared J)
    (φ : σ → Multiset (Frame J B ω)) (ι : ρ → Result) (before : Multiset (Frame J B ω)) (v' : ω)
    (r : Stepped J (Progress σ ρ)) : Prop :=
  Rewrites w n v s before v' r.shared (r.next.frames φ + newcomers r.spawned)
    (r.next.result? ι) (r.events.map .event)

/-- A step inside a call that the frame `g` waits for, whether the call goes on or returns. -/
theorem Turns.nest {φ : σ → Multiset (Frame J B ω)} {ι : ρ → Result}
    {φ' : τ → Multiset (Frame J B ω)} {ι' : ρ' → Result} {before : Multiset (Frame J B ω)}
    {r : Stepped J (Progress σ ρ)} {g : Frame J B ω} {wrap : σ → τ} {k : ρ → Progress τ ρ'}
    (h : Turns w n v s φ ι before v' r) (more : ∀ p, φ' (wrap p) = φ p + {g})
    (done : ∀ x, Receives (ι x) g ((k x).frames φ') ((k x).result? ι') []) :
    Turns w n v s φ' ι' (before + {g}) v'
      (r.map fun p => p.embed (fun q => .more (wrap q)) k) := by
  obtain ⟨shared, next, events, spawned⟩ := r
  unfold Turns at h ⊢
  cases next with
  | more p =>
      have hb := h.beside {g}
      simp only [Progress.frames, Progress.result?, Stepped.map, Progress.embed, more] at hb ⊢
      rw [add_right_comm]
      exact hb
  | done x =>
      have hr := Rewrites.receive h (done x)
      simp only [Progress.frames, zero_add, List.append_nil] at hr
      rw [add_comm (newcomers spawned)] at hr
      exact hr

/-- The same where the outer call goes on in any case. -/
theorem Turns.nestWithin {φ : σ → Multiset (Frame J B ω)} {ι : ρ → Result}
    {φ' : τ → Multiset (Frame J B ω)} {ι' : ρ' → Result} {before : Multiset (Frame J B ω)}
    {r : Stepped J (Progress σ ρ)} {g : Frame J B ω} {wrap : σ → τ} {k : ρ → τ}
    (h : Turns w n v s φ ι before v' r) (more : ∀ p, φ' (wrap p) = φ p + {g})
    (done : ∀ x, Receives (ι x) g (φ' (k x)) none []) :
    Turns w n v s φ' ι' (before + {g}) v' (r.map fun p => .more (p.embed wrap k)) := by
  have embed : (fun p : Progress σ ρ => (.more (p.embed wrap k) : Progress τ ρ')) =
      fun p => p.embed (fun q => .more (wrap q)) fun x => .more (k x) := by
    funext p
    cases p <;> rfl
  rw [embed]
  exact h.nest more done

/-- A step of a call that spawns no worker. -/
theorem Turns.noted {φ : σ → Multiset (Frame J B ω)} {ι : ρ → Result} {f : Frame J B ω}
    {next : Progress σ ρ} {events : List (Event J)}
    (h : Turn w n v s f v' s' (next.frames φ) (next.result? ι) (events.map .event)) :
    Turns w n v s φ ι {f} v' (.noted s' next events) := by
  unfold Turns
  simp only [Stepped.noted, newcomers_none, add_zero]
  exact .of_turn h

/-- A step of a call of which nothing is reported. -/
theorem Turns.silent {φ : σ → Multiset (Frame J B ω)} {ι : ρ → Result} {f : Frame J B ω}
    {next : Progress σ ρ} (h : Turn w n v s f v' s' (next.frames φ) (next.result? ι) []) :
    Turns w n v s φ ι {f} v' (.silent s' next) := by
  have hnoted : Turns w n v s φ ι {f} v' (.noted s' next []) := .noted h
  exact hnoted

end Nesting

/-! ## Layer by layer -/

theorem Filling.turns (f : Filling) :
    Turns w n v s (fun f => {.filling f}) .filled {.filling f} v (f.step n s) := by
  cases f with
  | checkOpen =>
      cases h : s.gate.isOpen with
      | true => simpa only [step, h] using Turns.silent (.seeOpen h)
      | false => simpa only [step, h] using Turns.silent (.seeShut h)
  | readLength =>
      cases h : s.queue.length with
      | zero => simpa only [step, h, attempts] using Turns.silent (.seeNoJobs h)
      | succ k => simpa only [step, h, attempts] using Turns.silent (.seeJobs h)
  | acquire left =>
      cases h : s.acquire? with
      | some s' => simpa only [step, h] using Turns.silent (.takeSlot h)
      | none => simpa only [step, h] using Turns.silent (.findNoSlot h)
  | checkQuiescent left =>
      by_cases h : s.gate.lifecycle = .quiescent
      · simpa only [step, if_pos h] using Turns.silent (.seeQuiescent h)
      · simpa only [step, if_neg h] using Turns.silent (.seeLive h)
  | handBack => exact .noted .handBack
  | takeNumber left => exact .silent .takeNumber
  | spawn left number =>
      cases h : n.canSpawn with
      | true =>
          simp only [step, h, if_true]
          cases left with
          | zero => exact .of_turn (.spawnLast h)
          | succ k => exact .of_turn (.spawn h)
      | false =>
          simp only [step, h, Bool.false_eq_true, if_false]
          exact .silent (.failToSpawn h)
  | giveUp => exact .noted .giveUp

theorem Submitting.turns (p : Submitting J) :
    Turns w n v s Submitting.frames .submitted (p.frames : Multiset (Frame J B ω)) v
      (p.step n s) := by
  cases p with
  | enroll job handles =>
      cases h : s.enroll job handles with
      | ok r =>
          obtain ⟨a, s'⟩ := r
          simp only [step, h]
          exact .noted (.accept h)
      | error e =>
          simp only [step, h]
          cases handles with
          | zero => exact .noted (.refuseBare h)
          | succ k => exact .noted (.refuse h)
  | discard left =>
      cases left with
      | zero => exact .silent .discardLast
      | succ k => exact .silent .discard
  | count a => exact .silent .count
  | push a => exact .noted .push
  | checkOpen =>
      cases h : s.gate.isOpen with
      | true =>
          simp only [step, h, if_true]
          exact .silent (.goOnToFill h)
      | false =>
          simp only [step, h, Bool.false_eq_true, if_false]
          exact .silent (.leaveBuffered h)
  | fill f => exact f.turns.nest (fun _ => rfl) fun _ => .accepted

theorem Starting.turns (p : Starting) :
    Turns w n v s Starting.frames .filled (p.frames : Multiset (Frame J B ω)) v
      (p.step n s) := by
  cases p with
  | start => exact .silent .start
  | fill f =>
      have h := f.turns (w := w) (n := n) (v := v) (s := s)
      unfold Turns at h ⊢
      simp only [step, Stepped.map]
      cases hf : (f.step n s).next with
      | more q =>
          rw [hf] at h
          exact h
      | done all =>
          rw [hf] at h
          exact h

theorem Frame.frames_ended (h : Nat) (e : Ending) :
    (Serving.ended h e : Serving J B).frames = ({.ended h e} : Multiset (Frame J B ω)) := by
  cases h <;> rfl

theorem Serving.turns_move {number? : Option Nat} {k h : Nat} {b : B}
    {r : Stepped J (Progress (Serving J B) Unit)}
    (hstep : move number? v s k h (w.move b) = some (v', r)) :
    Turns w n v s Serving.frames (fun _ => .served) {.run k h b} v' r := by
  cases hm : w.move b with
  | finish =>
      simp only [hm, move, Option.some.injEq, Prod.mk.injEq] at hstep
      obtain ⟨rfl, rfl⟩ := hstep
      refine .noted ?_
      rw [Progress.frames, Frame.frames_ended]
      exact .finish hm
  | panic message =>
      simp only [hm, move, Option.some.injEq, Prod.mk.injEq] at hstep
      obtain ⟨rfl, rfl⟩ := hstep
      refine .noted ?_
      rw [Progress.frames, Frame.frames_ended]
      exact .panic hm
  | act effect =>
      simp only [hm, move, Option.some.injEq, Prod.mk.injEq] at hstep
      obtain ⟨rfl, rfl⟩ := hstep
      exact .silent (.act hm)
  | wait ready next =>
      simp only [hm, move] at hstep
      split at hstep
      · next hready =>
          cases hstep
          exact .silent (.wait hm hready)
      · cases hstep
  | submit job given next =>
      simp only [hm, move] at hstep
      split at hstep
      · next hgiven =>
          cases hstep
          exact .silent (.submit hm hgiven)
      · cases hstep
  | start next =>
      simp only [hm, move] at hstep
      split at hstep
      · next hpos =>
          cases hstep
          exact .silent (.startInside hm hpos)
      · cases hstep
  | close next =>
      simp only [hm, move] at hstep
      split at hstep
      · next hpos =>
          cases hstep
          exact .silent (.closeInside hm hpos)
      · cases hstep
  | ask question next =>
      simp only [hm, move] at hstep
      split at hstep
      · cases hstep
      · next hneeds =>
          cases hstep
          refine .silent (.ask hm fun hq => Nat.pos_of_ne_zero fun h0 => hneeds ?_)
          simp [hq, h0]
  | clone next =>
      simp only [hm, move] at hstep
      split at hstep
      · next hpos =>
          cases hstep
          exact .silent (.cloneInside hm hpos)
      · cases hstep
  | drop next =>
      simp only [hm, move] at hstep
      split at hstep
      · next hpos =>
          cases hstep
          exact .silent (.dropInside hm hpos)
      · cases hstep

theorem Serving.turns {number? : Option Nat} {p : Serving J B}
    {r : Stepped J (Progress (Serving J B) Unit)} (h : p.step w number? n v s = some (v', r)) :
    Turns w n v s Serving.frames (fun _ => .served) p.frames v' r := by
  cases p with
  | pop =>
      cases hp : s.pop? with
      | some q =>
          obtain ⟨a, s'⟩ := q
          simp only [step, hp] at h
          cases h
          exact .noted (.pop hp)
      | none =>
          simp only [step, hp] at h
          cases h
          exact .noted (.popNothing hp)
  | run k h b => exact Serving.turns_move h
  | submitting k h call next =>
      cases h
      exact call.turns.nestWithin (fun _ => rfl) fun _ => .submitBody
  | starting k h call next =>
      cases h
      exact call.turns.nestWithin (fun _ => rfl) fun _ => .startBody
  | shed left e =>
      cases h
      refine .silent ?_
      rw [Progress.frames, Frame.frames_ended]
      exact .shed
  | countExecuted e =>
      cases e with
      | finished =>
          cases h
          exact .silent .countFinished
      | panicked message =>
          cases h
          exact .silent .countBroken
  | countPanicked message =>
      cases h
      exact .noted .countPanicked
  | complete =>
      cases h
      exact .silent .complete
  | release =>
      cases h
      exact .noted .release
  | checkEmpty =>
      cases he : s.queue.isEmpty with
      | true =>
          simp only [step, he, if_true] at h
          cases h
          exact .silent (.leaveEmpty he)
      | false =>
          simp only [step, he, Bool.false_eq_true, if_false] at h
          cases h
          exact .silent (.lookAgain he)
  | reacquire =>
      cases ha : s.acquire? with
      | some s' =>
          simp only [step, ha] at h
          cases h
          exact .silent (.reacquire ha)
      | none =>
          simp only [step, ha] at h
          cases h
          exact .silent (.leaveFull ha)

theorem Frame.frames_joining (ts : List ThreadId) :
    (Draining.joining ts : Draining J B).frames = ({.joining ts} : Multiset (Frame J B ω)) := by
  cases ts <;> rfl

theorem Draining.turns_reading (p : Reading) :
    Turns w n v s Draining.frames .drained ({.concluding p} : Multiset (Frame J B ω)) v
      ((p.step s).map fun q => q.embed (fun q => .more (.reading q)) .done) := by
  cases p with
  | submitted => exact .silent (.conclude rfl)
  | executed a => exact .silent (.conclude rfl)
  | panicked a b => exact .silent (.conclude rfl)
  | peak a b c => exact .silent (.concluded rfl)

theorem Draining.turns {p : Draining J B} {r : Stepped J (Progress (Draining J B) Stats)}
    (h : p.step w n v s = some (v', r)) :
    Turns w n v s Draining.frames .drained p.frames v' r := by
  cases p with
  | opening call =>
      cases h
      refine call.turns.nestWithin (fun _ => rfl) ?_
      intro all
      cases all with
      | true => exact .opened
      | false => exact .openedAlone
  | acquireSelf =>
      cases ha : s.acquire? with
      | some s' =>
          simp only [step, ha] at h
          cases h
          exact .silent (.acquireSelf ha)
      | none =>
          simp only [step, ha] at h
          cases h
          exact .silent (.leaveToOthers ha)
  | serve p =>
      obtain ⟨⟨v₁, r₁⟩, hp, hr⟩ := Option.map_eq_some_iff.mp h
      cases hr
      exact (Serving.turns hp).nestWithin (fun _ => rfl) fun _ => .served
  | declare =>
      have hd : s.gate.drain.pending = s.gate.pending := by
        unfold Gate.drain
        split <;> rfl
      by_cases hp : s.gate.pending = 0
      · simp only [step, Shared.settle, hd, if_pos hp] at h
        cases h
        exact .silent (.declare hp)
      · simp only [step, Shared.settle, hd, if_neg hp] at h
        cases h
        exact .silent (.park hp)
  | parked =>
      simp only [step] at h
      split at h
      · cases h
      · next hself =>
          by_cases hp : s.gate.pending = 0
          · simp only [Shared.settle, if_pos hp] at h
            cases h
            exact .silent (.wake hself hp)
          · simp only [Shared.settle, if_neg hp] at h
            cases h
            exact .silent (.parkAgain hself hp)
  | checkIdle =>
      cases hi : s.slots.isIdle with
      | true =>
          simp only [step, Shared.awaitIdle, hi, if_true] at h
          cases h
          exact .silent (.seeIdle hi)
      | false =>
          simp only [step, Shared.awaitIdle, hi, Bool.false_eq_true, if_false] at h
          cases h
          exact .silent (.doze hi)
  | dozing =>
      simp only [step] at h
      split at h
      · cases h
      · next hself =>
          cases hi : s.slots.isIdle with
          | true =>
              simp only [Shared.awaitIdle, hi, if_true] at h
              cases h
              exact .silent (.rouse hself hi)
          | false =>
              simp only [Shared.awaitIdle, hi, Bool.false_eq_true, if_false] at h
              cases h
              exact .silent (.dozeAgain hself hi)
  | takeRegistry =>
      cases h
      refine .silent ?_
      rw [Progress.frames, Frame.frames_joining]
      exact .takeRegistry
  | join t rest =>
      simp only [step] at h
      split at h
      · next hfin =>
          cases h
          refine .silent ?_
          rw [Progress.frames, Frame.frames_joining]
          exact .join hfin
      · cases h
  | reading p =>
      cases h
      exact Draining.turns_reading p

theorem Reading.turns (p : Reading) :
    Turns w n v s (fun q => {.reading q}) .read ({.reading p} : Multiset (Frame J B ω)) v
      (p.step s) := by
  cases p with
  | submitted => exact .silent (.read rfl)
  | executed a => exact .silent (.read rfl)
  | panicked a b => exact .silent (.read rfl)
  | peak a b c => exact .silent (.readLast rfl)

theorem Dropping.turns {p : Dropping J B} {r : Stepped J (Progress (Dropping J B) Unit)}
    (h : p.step w n v s = some (v', r)) :
    Turns w n v s Dropping.frames (fun _ => .dropped) p.frames v' r := by
  cases p with
  | decrement unwinding =>
      by_cases hlast : s.handles = 1 ∧ unwinding = false
      · simp only [step, if_pos hlast] at h
        cases h
        obtain ⟨hone, rfl⟩ := hlast
        exact .silent (.dropLast hone)
      · simp only [step, if_neg hlast] at h
        cases h
        exact .silent (.dropOther hlast)
  | checkLifecycle =>
      by_cases hq : s.gate.lifecycle = .quiescent
      · simp only [step, if_pos hq] at h
        cases h
        exact .silent (.findDrained hq)
      · simp only [step, if_neg hq] at h
        cases h
        exact .silent (.findUndrained hq)
  | reclaim =>
      cases h
      exact .silent .reclaim
  | drain p =>
      obtain ⟨⟨v₁, r₁⟩, hp, hr⟩ := Option.map_eq_some_iff.mp h
      cases hr
      exact (Draining.turns hp).nestWithin (fun _ => rfl) fun _ => .drainDrop
  | forget =>
      cases h
      exact .silent .forget

/-! ## The step of a thread -/

section Client

variable {σ ρ : Type} {held : Nat} {script : List (Request J ω)}

/-- A client after a step of its call. -/
def Client.afterStep (held : Nat) (script : List (Request J ω)) (p : CallProgress J B) :
    Thread J B ω :=
  p.embed (fun q => .client ⟨held, some q, script⟩) fun _ => .client ⟨held, none, script⟩

theorem Turns.client {φ : σ → Multiset (Frame J B ω)} {ι : ρ → Result}
    {before : Multiset (Frame J B ω)} {r : Stepped J (Progress σ ρ)} {e : Errand}
    {wrap : σ → Call J B} {k : ρ → Returned} (h : Turns w n v s φ ι before v' r)
    (frames : ∀ p, (wrap p).frames = φ p) (errand : ∀ p, (wrap p).errand = e)
    (done : ∀ x, Receives (ι x) (.client held (some e) script : Frame J B ω)
      {.client held none script} none [.returned (k x)]) :
    let r' : Stepped J (CallProgress J B) :=
      r.map fun p => p.embed (fun q => .more (wrap q)) fun x => .done (k x)
    Rewrites w n v s (before + {.client held (some e) script}) v' r'.shared
      ((Client.afterStep held script r'.next).frames + newcomers r'.spawned) none
      (r'.events.map .event ++ r'.next.embed (fun _ => []) fun x => [.returned x]) := by
  obtain ⟨shared, next, events, spawned⟩ := r
  unfold Turns at h
  cases next with
  | more p =>
      have hb := h.beside {.client held (some e) script}
      simp only [Progress.frames, Progress.result?, Stepped.map, Progress.embed,
        Client.afterStep, Thread.frames, frames, errand, List.append_nil] at hb ⊢
      rw [add_right_comm]
      exact hb
  | done x =>
      have hr := Rewrites.receive h (done x)
      simp only [Progress.frames, zero_add] at hr
      rw [add_comm (newcomers spawned)] at hr
      exact hr

theorem Call.rewrites {call : Call J B} {r : Stepped J (CallProgress J B)}
    (h : call.step w n v s = some (v', r)) :
    Rewrites w n v s (call.frames + {.client held (some call.errand) script}) v' r.shared
      ((Client.afterStep held script r.next).frames + newcomers r.spawned) none
      (r.events.map .event ++ r.next.embed (fun _ => []) fun x => [.returned x]) := by
  cases call with
  | submitting p =>
      cases h
      exact p.turns.client (fun _ => rfl) (fun _ => rfl) fun _ => .submitClient
  | starting p =>
      cases h
      exact p.turns.client (fun _ => rfl) (fun _ => rfl) fun _ => .startClient
  | draining p =>
      obtain ⟨⟨v₁, r₁⟩, hp, hr⟩ := Option.map_eq_some_iff.mp h
      cases hr
      exact (Draining.turns hp).client (fun _ => rfl) (fun _ => rfl) fun _ => .drainClient
  | reading p =>
      cases h
      exact p.turns.client (fun _ => rfl) (fun _ => rfl) fun _ => .readClient
  | dropping p =>
      obtain ⟨⟨v₁, r₁⟩, hp, hr⟩ := Option.map_eq_some_iff.mp h
      cases hr
      exact (Dropping.turns hp).client (fun _ => rfl) (fun _ => rfl) fun _ => .dropClient

end Client

namespace Machine

variable {m m' : Machine J B ω} {t : ThreadId} {canSpawn : Bool}
  {occurred : List (Occurrence J)}

/-- What the step of a thread is: it serves the queue, goes on with its call, or makes a request. -/
inductive Stepping (w : Workload J B ω) (m : Machine J B ω) (t : ThreadId) (canSpawn : Bool) :
    Machine J B ω → List (Occurrence J) → Prop
  | serves {number : Nat} {p : Serving J B} {world : ω}
      {r : Stepped J (Progress (Serving J B) Unit)} :
      m.threads[t]? = some (.worker number (some p)) →
      p.step w (some number) (m.neighbours t canSpawn) m.world m.shared = some (world, r) →
      Stepping w m t canSpawn
        (m.commit t world r fun q => q.embed (fun p => .worker number (some p))
          fun _ => .worker number none)
        (r.events.map .event)
  | calls {held : Nat} {call : Call J B} {script : List (Request J ω)} {world : ω}
      {r : Stepped J (CallProgress J B)} :
      m.threads[t]? = some (.client ⟨held, some call, script⟩) →
      call.step w (m.neighbours t canSpawn) m.world m.shared = some (world, r) →
      Stepping w m t canSpawn
        (m.commit t world r fun q => q.embed (fun call => .client ⟨held, some call, script⟩)
          fun _ => .client ⟨held, none, script⟩)
        (r.events.map .event ++ r.next.embed (fun _ => []) fun result => [.returned result])
  | asks {held : Nat} {request : Request J ω} {script : List (Request J ω)} {m' : Machine J B ω}
      {occurred : List (Occurrence J)} :
      m.threads[t]? = some (.client ⟨held, none, request :: script⟩) →
      m.request t held script request = some (m', occurred) → Stepping w m t canSpawn m' occurred

theorem stepping_of_step (h : m.step w t canSpawn = some (m', occurred)) :
    Stepping w m t canSpawn m' occurred := by
  unfold step at h
  simp only at h
  split at h
  · cases h
  · cases h
  · cases h
  · next hth =>
      obtain ⟨⟨v₁, r₁⟩, hp, hr⟩ := Option.map_eq_some_iff.mp h
      cases hr
      exact .serves hth hp
  · next hth =>
      obtain ⟨⟨v₁, r₁⟩, hp, hr⟩ := Option.map_eq_some_iff.mp h
      cases hr
      exact .calls hth hp
  · next hth => exact .asks hth h

/-- A client takes up a request. -/
theorem rewrites_withClient {held : Nat} {script : List (Request J ω)} {c : Client J B ω}
    {world : ω} {shared : Shared J}
    (hth : m.threads[t]? = some (.client ⟨held, none, script⟩))
    (h : Turn w n m.world m.shared (.client held none script) world shared
      (Thread.client c).frames none occurred) :
    Rewrites w n m.world m.shared m.frames world shared (m.withClient t c).frames none
      occurred := by
  rw [frames_of_getElem? hth, frames_withClient hth]
  exact (Rewrites.of_turn h).beside _

/-- A client gives a handle to another one. -/
theorem rewrites_give {held : Nat} {receiver : ThreadId} {rest : List (Request J ω)}
    {other : Client J B ω}
    (hth : m.threads[t]? = some (.client ⟨held, none, .give receiver :: rest⟩))
    (hother : m.threads[receiver]? = some (.client other)) (hpos : 0 < held)
    (hne : receiver ≠ t) :
    Rewrites w n m.world m.shared m.frames m.world m.shared
      ((m.withClient t ⟨held - 1, none, rest⟩).withClient receiver
        { other with held := other.held + 1 }).frames none [] := by
  obtain ⟨otherHeld, call, script⟩ := other
  have hother' : (m.withClient t ⟨held - 1, none, rest⟩).threads[receiver]? =
      some (.client ⟨otherHeld, call, script⟩) := by
    rw [← hother]
    exact List.getElem?_set_ne hne.symm
  have hth' : (m.without receiver).threads[t]? =
      some (.client ⟨held, none, .give receiver :: rest⟩) := by
    rw [getElem?_without hne.symm, hth]
  -- the two threads leave the same others, in whichever order they are taken out
  have hothers : ((m.withClient t ⟨held - 1, none, rest⟩).without receiver).frames =
      (Thread.client ⟨held - 1, none, rest⟩ : Thread J B ω).frames +
        ((m.without receiver).without t).frames := by
    refine frames_set hth' ?_
    simp only [without, withClient]
    rw [List.set_comm _ _ hne.symm]
  have before : m.frames = Frame.client held none (.give receiver :: rest) ::ₘ
      ((Thread.client ⟨otherHeld, call, script⟩ : Thread J B ω).frames +
        ((m.without receiver).without t).frames) := by
    rw [frames_of_getElem? hother, frames_of_getElem? hth']
    simp only [Thread.frames, Multiset.singleton_add, Multiset.add_cons]
  have turn : Turn w n m.world m.shared (.client held none (.give receiver :: rest)) m.world
      m.shared {.client (held - 1) none rest} (some .handle) [] := .give hpos
  have receives : Receives .handle (.client otherHeld (call.map Call.errand) script : Frame J B ω)
      {.client (otherHeld + 1) (call.map Call.errand) script} none [] := .handle
  have h := ((Rewrites.of_turn turn).receive receives).beside
    (call.elim 0 Call.frames + ((m.without receiver).without t).frames)
  rw [before, frames_withClient hother', hothers, Thread.frames_client, Thread.frames_client]
  convert h using 1
  · rw [← Multiset.singleton_add]
    abel
  · simp only [Thread.frames]
    abel
  · rfl

/-- A client enters a call for which it needs a handle. -/
theorem enter_rewrites {held left : Nat} {call : Call J B} {r : Request J ω}
    {rest : List (Request J ω)}
    (hth : m.threads[t]? = some (.client ⟨held, none, r :: rest⟩))
    (h : m.enter t held left call rest = some (m', occurred))
    (turn : 0 < held → Turn w n m.world m.shared (.client held none (r :: rest)) m.world m.shared
      (Thread.client ⟨left, some call, rest⟩).frames none []) :
    Rewrites w n m.world m.shared m.frames m'.world m'.shared m'.frames none occurred := by
  unfold enter at h
  split at h
  · next hpos =>
      cases h
      exact rewrites_withClient hth (turn hpos)
  · cases h

theorem request_rewrites {held : Nat} {r : Request J ω} {rest : List (Request J ω)}
    (hth : m.threads[t]? = some (.client ⟨held, none, r :: rest⟩))
    (h : m.request t held rest r = some (m', occurred)) :
    Rewrites w n m.world m.shared m.frames m'.world m'.shared m'.frames none occurred := by
  cases r with
  | submit job given =>
      simp only [request] at h
      split at h
      · next hgiven => exact enter_rewrites hth h fun _ => .askSubmit hgiven
      · cases h
  | start => exact enter_rewrites hth h .askStart
  | close =>
      simp only [request] at h
      split at h
      · next hpos =>
          cases h
          exact rewrites_withClient hth (.askClose hpos)
      · cases h
  | drain => exact enter_rewrites hth h .askDrain
  | stats => exact enter_rewrites hth h .askStats
  | clone =>
      simp only [request] at h
      split at h
      · next hpos =>
          cases h
          exact rewrites_withClient hth (.askClone hpos)
      · cases h
  | drop unwinding => exact enter_rewrites hth h .askDrop
  | give receiver =>
      simp only [request] at h
      split at h
      · next other hother =>
          split at h
          · next hok =>
              cases h
              exact rewrites_give hth hother hok.1 hok.2
          · cases h
      · cases h
  | touch effect =>
      cases h
      exact rewrites_withClient hth .touch

/-- A step of the machine is a turn of one of its frames.  The only result that no frame waits for
is that of a worker which returns. -/
theorem step_rewrites (h : m.step w t canSpawn = some (m', occurred)) :
    ∃ r, (∀ x ∈ r, x = .served) ∧
      Rewrites w (m.neighbours t canSpawn) m.world m.shared m.frames m'.world m'.shared
        m'.frames r occurred := by
  cases stepping_of_step h with
  | @serves _ _ _ r₁ hth hp =>
      refine ⟨r₁.next.result? fun _ => .served, ?_, ?_⟩
      · cases r₁.next with
        | more q => exact nofun
        | done x => exact fun _ hx => (Option.mem_some.mp hx).symm
      rw [frames_of_getElem? hth, frames_commit hth]
      have hturns := (Serving.turns hp).beside (m.without t).frames
      cases hnext : r₁.next with
      | more q =>
          rw [hnext] at hturns
          exact hturns
      | done x =>
          rw [hnext] at hturns
          exact hturns
  | calls hth hp =>
      refine ⟨none, nofun, ?_⟩
      rw [frames_of_getElem? hth, frames_commit hth]
      exact (Call.rewrites hp).beside (m.without t).frames
  | asks hth hrequest => exact ⟨none, nofun, request_rewrites hth hrequest⟩

/-- A thread in a call, or a worker, takes the turn of one of its own frames. -/
theorem turn_of_step (h : m.step w t canSpawn = some (m', occurred)) :
    (∃ held request script, m.threads[t]? = some (.client ⟨held, none, request :: script⟩) ∧
        m.request t held script request = some (m', occurred)) ∨
      ∃ th f fs r told, m.threads[t]? = some th ∧ f ∈ th.frames ∧
        Turn w (m.neighbours t canSpawn) m.world m.shared f m'.world m'.shared fs r told := by
  cases stepping_of_step h with
  | serves hth hp =>
      obtain ⟨f, fs, _, _, _, r, told, _, hturn, -, hframes, -, -⟩ := Serving.turns hp
      refine .inr ⟨_, f, fs, r, told, hth, ?_, hturn⟩
      rw [Thread.frames, hframes]
      exact Multiset.mem_cons_self ..
  | @calls held call script v₁ r₁ hth hp =>
      have hrewrites : Rewrites w (m.neighbours t canSpawn) m.world m.shared
          (Thread.client ⟨held, some call, script⟩).frames v₁ r₁.shared _ none _ :=
        Call.rewrites hp
      obtain ⟨f, fs, _, _, _, r, told, _, hturn, -, hframes, -, -⟩ := hrewrites
      refine .inr ⟨_, f, fs, r, told, hth, ?_, hturn⟩
      rw [hframes]
      exact Multiset.mem_cons_self ..
  | asks hth hrequest => exact .inl ⟨_, _, _, hth, hrequest⟩

/-! ## Runs -/

/-- What holds at first and outlives turns holds after every run.  Before and after the turn the
machine is one that can be reached. -/
theorem Runs.turn_induction {reliable : Bool} {history : History J}
    {P : Machine J B ω → History J → Prop} (run : Runs w reliable m history m') (init : P m [])
    (turn : ∀ {n f fs below above rest r r' told told' past} {m₁ m₂ : Machine J B ω},
      Runs w reliable m past m₁ →
      Runs w reliable m (past ++ (told ++ told').map (n.self, ·)) m₂ →
      m₁.frames = f ::ₘ (below + rest) → m₂.frames = fs + (above + rest) →
      (reliable = true → n.canSpawn = true) →
      Turn w n m₁.world m₁.shared f m₂.world m₂.shared fs r told →
      Passes r below above r' told' → (∀ x ∈ r', x = .served) →
      P m₁ past → P m₂ (past ++ (told ++ told').map (n.self, ·))) : P m' history := by
  induction run with
  | refl => exact init
  | step run spawns last ih =>
      obtain ⟨r, hserved, f, fs, below, above, rest, r₀, told₀, told₁, hturn, hpasses, hbefore,
        hafter, rfl⟩ := step_rewrites last
      exact turn run (.step run spawns last) hbefore hafter spawns hturn hpasses hserved ih

/-- The same for a property of the frames and of what they share. -/
theorem Runs.frames_induction {reliable : Bool} {history : History J}
    {P : ω → Shared J → Multiset (Frame J B ω) → History J → Prop}
    (run : Runs w reliable m history m') (init : P m.world m.shared m.frames [])
    (turn : ∀ {n v s f v' s' fs below above rest r r' told told' past},
      (reliable = true → n.canSpawn = true) → Turn w n v s f v' s' fs r told →
      Passes r below above r' told' → (∀ x ∈ r', x = .served) →
      P v s (f ::ₘ (below + rest)) past →
      P v' s' (fs + (above + rest)) (past ++ (told ++ told').map (n.self, ·))) :
    P m'.world m'.shared m'.frames history := by
  refine run.turn_induction (P := fun m past => P m.world m.shared m.frames past) init ?_
  intro n f fs below above rest r r' told told' past m₁ m₂ _ _ hbefore hafter spawns hturn
    hpasses hserved h
  rw [hbefore] at h
  rw [hafter]
  exact turn spawns hturn hpasses hserved h

theorem Runs.trans {reliable : Bool} {m'' : Machine J B ω} {history history' : History J}
    (run : Runs w reliable m history m') (later : Runs w reliable m' history' m'') :
    Runs w reliable m (history ++ history') m'' := by
  induction later with
  | refl => simpa using run
  | step _ spawns last ih =>
      rw [← List.append_assoc]
      exact .step ih spawns last

end Machine

end Frontier.Dispatcher
