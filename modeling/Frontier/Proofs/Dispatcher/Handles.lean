/-
# Handles — the counter says how many are alive

Handles are owned by clients, by jobs, queued or running, and by the calls that
they were moved into.  A drop that drains holds one more until it is done.

    counter = handles that are alive + drops that drain      (`Handled.counter`)

Who makes a handle makes it from another one, so once the last one has been
dropped there will never be another (`Handled.gone`).  That is why the drop of
the last one is the only one that ever goes on to drain, whatever is counted
meanwhile.
-/
import Frontier.Proofs.Dispatcher.Calls
import Frontier.Proofs.Dispatcher.Stranding
import Mathlib

namespace Frontier.Dispatcher

variable {J B ω : Type} {w : Workload J B ω} {n : Neighbours} {v v' : ω} {s s' : Shared J}
  {f g : Frame J B ω} {fs gs below above rest : Multiset (Frame J B ω)} {q : Result}
  {r r' : Option Result} {told told' : List (Occurrence J)}

/-! ## Who owns handles -/

/-- The handles that a frame owns. -/
def Frame.handles : Frame J B ω → Nat
  | client held _ _ => held
  | enroll _ handles | run _ handles _ | submitting _ handles _ | starting _ handles _ => handles
  | count a | push a => a.handles
  | discard left | shed left _ => left + 1
  | decrement _ => 1
  | _ => 0

/-- The handles that queued jobs own. -/
def queueHandles (items : List (Admitted J)) : Nat := (items.map Admitted.handles).sum

/-- The frame is a drop that drains.  It holds a handle of its own. -/
def Frame.drains : Frame J B ω → Nat
  | drain | forget => 1
  | _ => 0

/-- The frame is the drop of the last handle, which is gone. -/
def Frame.parting : Frame J B ω → Nat
  | checkLifecycle | reclaim | drain | forget => 1
  | _ => 0

/-- The handle that is on its way from one client to another. -/
def Result.handles : Option Result → Nat
  | some .handle => 1
  | _ => 0

@[simp] theorem queueHandles_nil : queueHandles ([] : List (Admitted J)) = 0 := rfl

theorem Frame.drains_le_parting (f : Frame J B ω) : f.drains ≤ f.parting := by
  cases f <;> simp [drains, parting]

theorem Frame.handles_ended (h : Nat) (e : Ending) :
    weigh Frame.handles ({.ended h e} : Multiset (Frame J B ω)) = h := by
  cases h <;> simp [ended, handles]

/-! ## One turn -/

/-- What a turn does to the handles.  `before` and `after` are those that are owned by the frames of
the turn and by the queue, or are on their way. -/
inductive HandleChange (s s' : Shared J) (f : Frame J B ω) (fs : Multiset (Frame J B ω))
    (before after : Nat) (told : List (Occurrence J)) : Prop
  | kept : s'.handles = s.handles → after = before → weigh Frame.drains fs = f.drains →
      weigh Frame.parting fs ≤ f.parting → HandleChange s s' f fs before after told
  /-- One is made from another. -/
  | made : s'.handles = s.handles + 1 → 0 < before → after = before + 1 →
      weigh Frame.drains fs = f.drains → weigh Frame.parting fs = 0 →
      HandleChange s s' f fs before after told
  /-- One is dropped.  Nothing else changes, and a drop goes on only if it was the last. -/
  | dropped : s' = s.dropHandle → after + 1 = before → told = [] →
      weigh Frame.drains fs = f.drains →
      (weigh Frame.parting fs = 0 ∨ s.handles = 1 ∧ weigh Frame.parting fs = 1) →
      HandleChange s s' f fs before after told
  /-- The drop of the last one takes a handle to drain with. -/
  | reclaimed : s'.handles = s.handles + 1 → after = before →
      weigh Frame.drains fs = f.drains + 1 → weigh Frame.parting fs ≤ f.parting →
      HandleChange s s' f fs before after told
  /-- The drop that drained gives its handle up. -/
  | forgotten : s'.handles = s.handles - 1 → after = before →
      weigh Frame.drains fs + 1 = f.drains → weigh Frame.parting fs ≤ f.parting →
      HandleChange s s' f fs before after told

theorem Turn.handleChange (h : Turn w n v s f v' s' fs r told) :
    HandleChange s s' f fs (f.handles + queueHandles s.queue.items)
      (weigh Frame.handles fs + queueHandles s'.queue.items + Result.handles r) told := by
  cases h with
  | takeSlot ha | reacquire ha | acquireSelf ha =>
      obtain ⟨-, rfl⟩ := Shared.acquire?_eq_some_iff.mp ha
      exact .kept rfl rfl rfl le_rfl
  | handBack | giveUp | release =>
      obtain ⟨_, _, _, hrelease, -⟩ := s.exists_release_eq
      rw [hrelease]
      exact .kept rfl rfl rfl le_rfl
  | accept he =>
      obtain ⟨-, rfl, rfl⟩ := Shared.enroll_eq_ok_iff.mp he
      exact .kept rfl rfl rfl le_rfl
  | push =>
      refine .kept rfl ?_ rfl le_rfl
      simp only [Frame.handles, Shared.push, Queue.items_push, queueHandles, weigh_singleton,
        List.map_append, List.sum_append, List.map_cons, List.map_nil, List.sum_singleton,
        Result.handles]
      omega
  | pop hp =>
      obtain ⟨_, hitems, rfl⟩ := Shared.pop?_eq_some_iff.mp hp
      refine .kept rfl ?_ rfl le_rfl
      simp only [Frame.handles, hitems, queueHandles, weigh_singleton, List.map_cons,
        List.sum_cons, Result.handles]
      omega
  | finish | panic =>
      refine .kept rfl ?_ (weigh_ended (fun _ => rfl) rfl) (weigh_ended (fun _ => rfl) rfl).le
      rw [Frame.handles_ended]
      rfl
  | takeRegistry | join =>
      refine .kept rfl ?_ (weigh_joining (fun _ _ => rfl) rfl)
        (weigh_joining (fun _ _ => rfl) rfl).le
      rw [weigh_joining (x := 0) (fun _ _ => rfl) rfl]
      rfl
  | submit _ hgiven | askSubmit hgiven =>
      refine .kept rfl ?_ rfl le_rfl
      simp [Frame.handles, Result.handles]
      omega
  | cloneInside _ hpos | askClone hpos =>
      refine .made rfl ?_ ?_ rfl rfl
      · exact Nat.add_pos_left hpos _
      · simp [Frame.handles, Result.handles, Shared.addHandle]
        omega
  | shed =>
      refine .dropped rfl ?_ rfl (weigh_ended (fun _ => rfl) rfl)
        (.inl (weigh_ended (fun _ => rfl) rfl))
      rw [Frame.handles_ended]
      simp [Frame.handles, Result.handles, Shared.dropHandle]
      omega
  | dropInside _ hpos =>
      refine .dropped rfl ?_ rfl rfl (.inl rfl)
      simp [Frame.handles, Result.handles, Shared.dropHandle]
      omega
  | discard | discardLast | dropOther =>
      refine .dropped rfl ?_ rfl rfl (.inl rfl)
      simp [Frame.handles, Result.handles, Shared.dropHandle]
      omega
  | dropLast hone =>
      refine .dropped rfl ?_ rfl rfl (.inr ⟨hone, rfl⟩)
      simp [Frame.handles, Result.handles, Shared.dropHandle]
      omega
  | reclaim =>
      refine .reclaimed rfl ?_ rfl le_rfl
      simp [Frame.handles, Result.handles, Shared.addHandle]
  | forget =>
      refine .forgotten rfl ?_ rfl (Nat.zero_le _)
      simp [Frame.handles, Result.handles, Shared.dropHandle]
  | askDrop hpos =>
      refine .kept rfl ?_ rfl (Nat.zero_le _)
      simp [Frame.handles, Result.handles]
      omega
  | give hpos =>
      refine .kept rfl ?_ rfl (Nat.zero_le _)
      simp [Frame.handles, Result.handles]
      omega
  | _ =>
      refine .kept rfl ?_ (by simp [Frame.drains]) (by simp [Frame.parting])
      simp [Frame.handles, Result.handles, Shared.takeNumber, Shared.register, Shared.close,
        Shared.countSubmitted, Shared.countExecuted, Shared.countPanicked, Shared.complete,
        Shared.start, Shared.parked, Shared.dozing]

/-! ## Passing on -/

theorem Receives.handles (h : Receives q g gs r told) :
    Result.handles (some q) + g.handles = weigh Frame.handles gs + Result.handles r := by
  cases h with
  | handle => simp [Frame.handles, Result.handles, Nat.add_comm]
  | _ => simp [Frame.handles, Result.handles]

theorem Receives.drains_eq (h : Receives q g gs r told) : g.drains = weigh Frame.drains gs := by
  cases h <;> rfl

theorem Receives.parting_eq (h : Receives q g gs r told) : g.parting = weigh Frame.parting gs := by
  cases h <;> rfl

theorem Passes.handles (h : Passes r below above r' told) :
    Result.handles r + weigh Frame.handles below =
      weigh Frame.handles above + Result.handles r' := by
  induction h with
  | refl => simp
  | receive _ hg ih =>
      have hreceives := hg.handles
      rw [weigh_cons, weigh_add]
      omega

/-! ## The invariant -/

/-- The counter counts the handles that are alive and those that drops drain with.  At most one drop
is that of the last handle, and then none is alive. -/
structure Handled (s : Shared J) (fs : Multiset (Frame J B ω)) : Prop where
  counter : s.handles =
    weigh Frame.handles fs + queueHandles s.queue.items + weigh Frame.drains fs
  alone : weigh Frame.parting fs ≤ 1
  gone : 0 < weigh Frame.parting fs →
    weigh Frame.handles fs + queueHandles s.queue.items = 0

theorem Handled.turn (h : Handled s (f ::ₘ (below + rest)))
    (hturn : Turn w n v s f v' s' fs r told) (hpasses : Passes r below above r' told')
    (hnone : Result.handles r' = 0) : Handled s' (fs + (above + rest)) := by
  have hpassed := hpasses.handles
  have hdrains := hpasses.weigh_eq Receives.drains_eq
  have hparting := hpasses.weigh_eq Receives.parting_eq
  have hle : weigh Frame.drains (f ::ₘ (below + rest)) ≤
      weigh Frame.parting (f ::ₘ (below + rest)) := weigh_le_weigh Frame.drains_le_parting _
  obtain ⟨hcounter, halone, hgone⟩ := h
  simp only [weigh_cons, weigh_add] at hcounter halone hgone hle
  cases hturn.handleChange with
  | kept | made | reclaimed | forgotten => constructor <;> simp only [weigh_add] <;> omega
  | dropped hs =>
      have hhandles : s'.handles = s.handles - 1 := congrArg Shared.handles hs
      constructor <;> simp only [weigh_add] <;> omega

/-! ## Handles that calls are made with -/

/-- Who is in a call has a handle left, unless it is dropping it. -/
def Frame.provided : Frame J B ω → Prop
  | client held (some errand) _ => errand ≠ .drop → 0 < held
  | submitting _ handles _ | starting _ handles _ => 0 < handles
  | _ => True

theorem Turn.provided (h : Turn w n v s f v' s' fs r told) : ∀ g ∈ fs, g.provided := by
  cases h with
  | finish | panic | shed => exact forall_mem_ended (fun _ => trivial) trivial
  | takeRegistry | join => exact forall_mem_joining (fun _ _ => trivial) trivial
  | _ => simp_all [Frame.provided]

theorem Receives.provided (h : Receives q g gs r told) (hg : g.provided) :
    ∀ f ∈ gs, f.provided := by
  cases h with
  | @handle held errand script =>
      cases errand <;> simp [Frame.provided]
  | _ => simp [Frame.provided]

/-- Only who has a handle drops one, and only who serves, submits or drops. -/
theorem Turn.owner (h : Turn w n v s f v' s' fs r told) (hlt : s'.handles < s.handles) :
    f = .forget ∨ (∃ unwinding, f = .decrement unwinding) ∨ (∃ left, f = .discard left) ∨
      f.isServing = true ∧ 0 < f.handles := by
  cases h with
  | takeSlot ha | reacquire ha | acquireSelf ha =>
      obtain ⟨-, rfl⟩ := Shared.acquire?_eq_some_iff.mp ha
      exact absurd hlt (Nat.lt_irrefl _)
  | handBack | giveUp | release =>
      obtain ⟨_, _, _, hrelease, -⟩ := s.exists_release_eq
      rw [hrelease] at hlt
      exact absurd hlt (Nat.lt_irrefl _)
  | accept he =>
      obtain ⟨-, -, rfl⟩ := Shared.enroll_eq_ok_iff.mp he
      exact absurd hlt (Nat.lt_irrefl _)
  | pop hp =>
      obtain ⟨_, -, rfl⟩ := Shared.pop?_eq_some_iff.mp hp
      exact absurd hlt (Nat.lt_irrefl _)
  | forget => exact .inl rfl
  | dropLast | dropOther => exact .inr (.inl ⟨_, rfl⟩)
  | discard | discardLast => exact .inr (.inr (.inl ⟨_, rfl⟩))
  | shed => exact .inr (.inr (.inr ⟨rfl, Nat.succ_pos _⟩))
  | dropInside _ hpos => exact .inr (.inr (.inr ⟨rfl, hpos⟩))
  | cloneInside | askClone | reclaim => exact absurd hlt (Nat.not_lt_of_gt (Nat.lt_succ_self _))
  | _ => exact absurd hlt (Nat.lt_irrefl _)

namespace Machine

variable {limit : Nat} {world : ω} {first : List (Request J ω)}
  {others : List (List (Request J ω))} {reliable : Bool} {m : Machine J B ω} {history : History J}

/-- The handles that are alive: those of clients, those in calls, and those of jobs. -/
def liveHandles (m : Machine J B ω) : Nat :=
  weigh Frame.handles m.frames + queueHandles m.shared.queue.items

/-- The drops that drain with a handle of their own. -/
def drainingDrops (m : Machine J B ω) : Nat := weigh Frame.drains m.frames

theorem Runs.handled (run : Runs w reliable (ofClients limit world first others) history m) :
    Handled m.shared m.frames := by
  refine run.frames_induction (P := fun _ s fs _ => Handled s fs) ?_ ?_
  · have hhandles : weigh Frame.handles
        (ofClients limit world first others : Machine J B ω).frames = 1 := by
      rw [frames_ofClients, weigh_cons, weigh, Multiset.map_coe, Multiset.sum_coe, List.map_map]
      exact Nat.add_eq_left.mpr (List.sum_eq_zero (by simp [Frame.handles]))
    have hdrains : weigh Frame.drains
        (ofClients limit world first others : Machine J B ω).frames = 0 :=
      weigh_ofClients fun _ _ => rfl
    have hparting : weigh Frame.parting
        (ofClients limit world first others : Machine J B ω).frames = 0 :=
      weigh_ofClients fun _ _ => rfl
    refine ⟨?_, by omega, fun hpos => absurd hparting (Nat.ne_of_gt hpos)⟩
    rw [hhandles, hdrains]
    rfl
  · intro n v s f v' s' fs below above rest r r' told told' past _ hturn hpasses hserved h
    refine h.turn hturn hpasses ?_
    cases r' with
    | none => rfl
    | some q => rw [hserved q rfl]; rfl

theorem Runs.provided (run : Runs w reliable (ofClients limit world first others) history m) :
    ∀ f ∈ m.frames, f.provided := by
  refine run.frames_induction (P := fun _ _ fs _ => ∀ f ∈ fs, f.provided) ?_ ?_
  · intro f hf
    obtain ⟨_, _, rfl⟩ := exists_client_of_mem_ofClients hf
    trivial
  · intro n v s f v' s' fs below above rest r r' told told' past _ hturn hpasses _ h
    refine hpasses.forall_after (fun hreceives _ => hreceives.provided) hturn.provided ?_
    intro g hg
    exact h g (Multiset.mem_cons_of_mem hg)

end Machine

end Frontier.Dispatcher
