/-
# Rest — where no thread can go on

A thread that cannot take a step sleeps, waits for a worker to end, or has come
to its end, unless it is a body that waits or a client without a handle.  On a
reliable system only the last remain when none can take a step.

    sleeps for the gate     a job is pending, so one is queued and attended
    sleeps for the slots    a slot is held, so there is one who owns it
    waits for a worker      every worker has returned

So a wake-up is never lost, and a drain is never stuck but in a body.
-/
import Frontier.Proofs.Dispatcher.Stranding
import Frontier.Proofs.Dispatcher.Threads
import Mathlib

namespace Frontier.Dispatcher

variable {J B ω : Type} {w : Workload J B ω} {n : Neighbours} {v v' : ω} {s s' : Shared J}
  {f g : Frame J B ω} {fs gs below above rest : Multiset (Frame J B ω)} {q : Result}
  {r r' : Option Result} {told told' : List (Occurrence J)}

/-! ## Threads that cannot go on -/

/-- The move cannot be made in that world, by a body that owns so many handles. -/
def Move.Blocked (world : ω) (handles : Nat) : Move J B ω → Prop
  | .wait ready _ => ready world = false
  | .submit _ given _ => handles ≤ given
  | .start _ | .close _ | .clone _ | .drop _ => handles = 0
  | .ask question _ => Serving.needsHandle question = true ∧ handles = 0
  | .finish | .panic _ | .act _ => False

/-- A body that cannot make its next move. -/
def Frame.Blocked (w : Workload J B ω) (world : ω) : Frame J B ω → Prop
  | run _ h b => (w.move b).Blocked world h
  | _ => False

theorem Serving.blocked_of_move {number? : Option Nat} {k h : Nat} {mv : Move J B ω}
    (hnone : move number? v s k h mv = none) : mv.Blocked v h := by
  cases mv with
  | finish | panic message | act effect => cases hnone
  | wait ready next =>
      simp only [move] at hnone
      split at hnone
      · cases hnone
      · next hready => exact Bool.not_eq_true _ |>.mp hready
  | submit job given next =>
      simp only [move] at hnone
      split at hnone
      · cases hnone
      · next hgiven => exact Nat.le_of_not_lt hgiven
  | start next | close next | clone next | drop next =>
      simp only [move] at hnone
      split at hnone
      · cases hnone
      · next hpos => exact Nat.eq_zero_of_not_pos hpos
  | ask question next =>
      simp only [move] at hnone
      split at hnone
      · next hneeds => simpa [Move.Blocked] using hneeds
      · cases hnone

/-- A thread that serves the queue can go on, unless its body is blocked. -/
theorem Serving.blocked_of_step {number? : Option Nat} {p : Serving J B}
    (hnone : p.step w number? n v s = none) :
    ∃ k h b, p = .run k h b ∧ (w.move b).Blocked v h := by
  cases p with
  | pop | reacquire =>
      simp only [step] at hnone
      split at hnone <;> cases hnone
  | run k h b => exact ⟨k, h, b, rfl, blocked_of_move hnone⟩
  | _ => cases hnone

/-- A thread that drains can go on, unless it sleeps, or waits for a worker, or serves the queue
with a body that is blocked. -/
inductive Draining.Stuck (w : Workload J B ω) (n : Neighbours) (v : ω) (s : Shared J) :
    Draining J B → Prop
  | parked : n.self ∈ s.gateSleepers → Stuck w n v s .parked
  | dozing : n.self ∈ s.slotSleepers → Stuck w n v s .dozing
  | join {t : ThreadId} {rest : List ThreadId} : n.finished t = false →
      Stuck w n v s (.join t rest)
  | serve {k h : Nat} {b : B} : (w.move b).Blocked v h → Stuck w n v s (.serve (.run k h b))

theorem Draining.stuck_of_step {p : Draining J B} (hnone : p.step w n v s = none) :
    Stuck w n v s p := by
  cases p with
  | acquireSelf =>
      simp only [step] at hnone
      split at hnone <;> cases hnone
  | serve p =>
      obtain ⟨k, h, b, rfl, hblocked⟩ := Serving.blocked_of_step (Option.map_eq_none_iff.mp hnone)
      exact .serve hblocked
  | parked =>
      simp only [step] at hnone
      split at hnone
      · next hself => exact .parked hself
      · cases hnone
  | dozing =>
      simp only [step] at hnone
      split at hnone
      · next hself => exact .dozing hself
      · cases hnone
  | join t rest =>
      simp only [step] at hnone
      split at hnone
      · cases hnone
      · next hfinished => exact .join (Bool.not_eq_true _ |>.mp hfinished)
  | _ => cases hnone

theorem Dropping.stuck_of_step {p : Dropping J B} (hnone : p.step w n v s = none) :
    ∃ q, p = .drain q ∧ q.Stuck w n v s := by
  cases p with
  | drain q => exact ⟨q, rfl, Draining.stuck_of_step (Option.map_eq_none_iff.mp hnone)⟩
  | _ => cases hnone

/-- A client in a call can go on, unless it drains and is stuck. -/
theorem Call.stuck_of_step {call : Call J B} (hnone : call.step w n v s = none) :
    ∃ q, (call = .draining q ∨ call = .dropping (.drain q)) ∧ q.Stuck w n v s := by
  cases call with
  | draining q =>
      exact ⟨q, .inl rfl, Draining.stuck_of_step (Option.map_eq_none_iff.mp hnone)⟩
  | dropping p =>
      obtain ⟨q, rfl, hstuck⟩ := Dropping.stuck_of_step (Option.map_eq_none_iff.mp hnone)
      exact ⟨q, .inr rfl, hstuck⟩
  | _ => cases hnone

/-- A thread that is in the middle of a call or serves. -/
def Thread.isEngaged : Thread J B ω → Bool
  | client c => c.call.isSome
  | worker _ serving => serving.isSome

/-- A frame of a thread that sleeps, waits for a worker or makes no call. -/
def Frame.isIdle : Frame J B ω → Prop
  | client .. | parked | dozing | join .. | drain => True
  | _ => False

/-- An idle frame has nothing to do with queue, slots and jobs. -/
theorem Frame.weights_of_isIdle (h : f.isIdle) : f.attends = 0 ∧ f.slots = 0 ∧ f.pending = 0 := by
  cases f <;> first | exact absurd h id | exact ⟨rfl, rfl, rfl⟩

theorem Draining.Stuck.isIdle {p : Draining J B} (h : p.Stuck w n v s)
    (hbodies : ∀ f ∈ p.frames, ¬f.Blocked w v) :
    ∀ f ∈ (p.frames : Multiset (Frame J B ω)), f.isIdle := by
  cases h with
  | @serve k h b hblocked =>
      exact absurd hblocked (hbodies (.run k h b) (by simp [frames, Serving.frames]))
  | _ => simp [frames, Frame.isIdle]

/-! ## Sleepers -/

/-- Threads sleep for the gate only while a job is pending and may run, and for the slots only while
one is held. -/
structure Sleeping (s : Shared J) (fs : Multiset (Frame J B ω)) : Prop where
  gate : s.gateSleepers ≠ [] → s.gate.pending ≠ 0
  opened : ∀ f ∈ fs, f = .parked → s.gate.lifecycle ≠ .created
  slots : s.slotSleepers ≠ [] → s.slots.active ≠ 0

theorem Turn.gate_sleeping (h : Turn w n v s f v' s' fs r told)
    (hs : s.gateSleepers ≠ [] → s.gate.pending ≠ 0) :
    s'.gateSleepers ≠ [] → s'.gate.pending ≠ 0 := by
  cases h with
  | takeSlot ha | reacquire ha | acquireSelf ha =>
      obtain ⟨-, rfl⟩ := Shared.acquire?_eq_some_iff.mp ha
      exact hs
  | handBack | giveUp | release =>
      obtain ⟨_, _, _, hrelease, -⟩ := s.exists_release_eq
      rw [hrelease]
      exact hs
  | accept he =>
      obtain ⟨-, -, rfl⟩ := Shared.enroll_eq_ok_iff.mp he
      exact fun _ => Nat.succ_ne_zero _
  | pop hp =>
      obtain ⟨_, -, rfl⟩ := Shared.pop?_eq_some_iff.mp hp
      exact hs
  | complete =>
      intro hsleepers hzero
      refine hsleepers ?_
      exact if_pos hzero
  | declare hp | wake _ hp =>
      intro hsleepers
      exact absurd hp (hs hsleepers)
  | park hp => exact fun _ => Gate.pending_drain.trans_ne hp
  | parkAgain _ hp => exact fun _ => hp
  | start =>
      intro hsleepers
      exact Gate.pending_start.trans_ne (hs hsleepers)
  | _ => exact hs

theorem Turn.slot_sleeping (h : Turn w n v s f v' s' fs r told)
    (hs : s.slotSleepers ≠ [] → s.slots.active ≠ 0) :
    s'.slotSleepers ≠ [] → s'.slots.active ≠ 0 := by
  cases h with
  | takeSlot ha | reacquire ha | acquireSelf ha =>
      obtain ⟨-, rfl⟩ := Shared.acquire?_eq_some_iff.mp ha
      exact fun _ => Nat.succ_ne_zero _
  | handBack | giveUp | release =>
      by_cases hpos : 0 < s.slots.active
      · rw [Shared.release_of_pos hpos]
        intro hsleepers hzero
        refine hsleepers ?_
        have hone : s.slots.active = 1 := by
          have : s.slots.active - 1 = 0 := hzero
          omega
        exact if_pos hone
      · rw [Shared.release_of_not_pos hpos]
        exact hs
  | accept he =>
      obtain ⟨-, -, rfl⟩ := Shared.enroll_eq_ok_iff.mp he
      exact hs
  | pop hp =>
      obtain ⟨_, -, rfl⟩ := Shared.pop?_eq_some_iff.mp hp
      exact hs
  | doze hidle | dozeAgain _ hidle =>
      intro _ hzero
      have hnone : s.slots.isIdle = true := Slots.isIdle_iff.mpr hzero
      rw [hnone] at hidle
      cases hidle
  | _ => exact hs

theorem Turn.parked_opened (h : Turn w n v s f v' s' fs r told)
    (hf : f = .parked → s.gate.lifecycle ≠ .created) :
    ∀ g ∈ fs, g = .parked → s'.gate.lifecycle ≠ .created := by
  cases h with
  | park => exact fun _ _ _ => Gate.lifecycle_drain_ne_created
  | parkAgain => exact fun _ _ _ => hf rfl
  | finish | panic | shed => exact forall_mem_ended (fun _ => nofun) nofun
  | takeRegistry | join => exact forall_mem_joining (fun _ _ => nofun) nofun
  | _ => simp

theorem Receives.not_parked (h : Receives q g gs r told) : ∀ f ∈ gs, f ≠ .parked := by
  cases h <;> simp

theorem Sleeping.turn (h : Sleeping s (f ::ₘ (below + rest)))
    (hturn : Turn w n v s f v' s' fs r told) (hpasses : Passes r below above r' told') :
    Sleeping s' (fs + (above + rest)) where
  gate := hturn.gate_sleeping h.gate
  opened g hg hparked := by
    rw [Multiset.mem_add, Multiset.mem_add] at hg
    rcases hg with hg | hg | hg
    · exact hturn.parked_opened (h.opened f (Multiset.mem_cons_self ..)) g hg hparked
    · obtain ⟨_, _, _, _, _, -, hgs, hreceives⟩ := hpasses.exists_receives hg
      exact absurd hparked (hreceives.not_parked g hgs)
    · exact hturn.not_created (h.opened g (by simp [hg]) hparked)
  slots := hturn.slot_sleeping h.slots

/-! ## Workers that are joined -/

theorem Frame.eq_of_joining {ts ws : List ThreadId} {u : ThreadId}
    (h : (.joining ts : Frame J B ω) = .join u ws) : ts = u :: ws := by
  cases ts with
  | nil => cases h
  | cons t rest =>
      cases h
      rfl

/-- Who is joined was registered, and who is registered has been spawned. -/
theorem Turn.registry (h : Turn w n v s f v' s' fs r told) :
    (∀ t ∈ s'.registry, t ∈ s.registry ∨
        t = n.newcomer ∧ told.any Occurrence.isSpawning = true) ∧
      ∀ g ∈ fs, ∀ u ws, g = .join u ws → ∀ t ∈ u :: ws,
        t ∈ s.registry ∨ ∃ u' ws', f = .join u' ws' ∧ t ∈ ws' := by
  cases h with
  | takeSlot ha | reacquire ha | acquireSelf ha =>
      obtain ⟨-, rfl⟩ := Shared.acquire?_eq_some_iff.mp ha
      exact ⟨fun _ => .inl, by simp⟩
  | handBack | giveUp | release =>
      obtain ⟨_, _, _, hrelease, -⟩ := s.exists_release_eq
      rw [hrelease]
      exact ⟨fun _ => .inl, by simp⟩
  | accept he =>
      obtain ⟨-, -, rfl⟩ := Shared.enroll_eq_ok_iff.mp he
      exact ⟨fun _ => .inl, by simp⟩
  | pop hp =>
      obtain ⟨_, -, rfl⟩ := Shared.pop?_eq_some_iff.mp hp
      exact ⟨fun _ => .inl, by simp⟩
  | spawn | spawnLast =>
      refine ⟨?_, by simp⟩
      intro t ht
      rw [Shared.register, List.mem_append, List.mem_singleton] at ht
      rcases ht with ht | rfl
      · exact .inl (List.mem_of_mem_filter ht)
      · exact .inr ⟨rfl, rfl⟩
  | takeRegistry =>
      refine ⟨fun t ht => absurd ht List.not_mem_nil, fun g hg u ws hjoin t ht => .inl ?_⟩
      rw [Multiset.mem_singleton.mp hg] at hjoin
      rw [Frame.eq_of_joining hjoin]
      exact ht
  | join =>
      refine ⟨fun _ => .inl, fun g hg u ws hjoin t ht => .inr ⟨_, _, rfl, ?_⟩⟩
      rw [Multiset.mem_singleton.mp hg] at hjoin
      rw [Frame.eq_of_joining hjoin]
      exact ht
  | finish | panic | shed =>
      exact ⟨fun _ => .inl, forall_mem_ended (by simp) (by simp)⟩
  | _ => exact ⟨fun _ => .inl, by simp⟩

theorem Receives.not_join (h : Receives q g gs r told) : ∀ f ∈ gs, ∀ u ws, f ≠ .join u ws := by
  cases h <;> simp

namespace Machine

variable {limit : Nat} {world : ω} {first : List (Request J ω)}
  {others : List (List (Request J ω))} {reliable : Bool} {m m' : Machine J B ω}
  {history : History J} {t : ThreadId} {canSpawn : Bool} {occurred : List (Occurrence J)}

/-- Threads that are registered or waited for are workers. -/
structure Enlisted (m : Machine J B ω) : Prop where
  registry : ∀ t ∈ m.shared.registry, m.IsWorker t
  joins : ∀ u ws, .join u ws ∈ m.frames → ∀ t ∈ u :: ws, m.IsWorker t

theorem Enlisted.step (h : m.Enlisted) (hstep : m.step w t canSpawn = some (m', occurred)) :
    m'.Enlisted := by
  have hkeeps := step_keeps hstep
  obtain ⟨r, -, f, fs, below, above, rest, r₀, told₀, told₁, hturn, hpasses, hbefore, hafter,
    rfl⟩ := step_rewrites hstep
  obtain ⟨hregistry, hjoins⟩ := hturn.registry
  constructor
  · intro u hu
    rcases hregistry u hu with hold | ⟨rfl, hspawned⟩
    · exact hkeeps.workers u (h.registry u hold)
    · exact hkeeps.newcomer (by rw [List.any_append, hspawned, Bool.true_or])
  · intro u ws hmem x hx
    rw [hafter, Multiset.mem_add, Multiset.mem_add] at hmem
    rcases hmem with hmem | hmem | hmem
    · rcases hjoins _ hmem u ws rfl x hx with hold | ⟨u', ws', rfl, hx'⟩
      · exact hkeeps.workers x (h.registry x hold)
      · refine hkeeps.workers x (h.joins u' ws' ?_ x (List.mem_cons_of_mem _ hx'))
        rw [hbefore]
        exact Multiset.mem_cons_self ..
    · obtain ⟨_, _, _, _, _, -, hgs, hreceives⟩ := hpasses.exists_receives hmem
      exact absurd rfl (hreceives.not_join _ hgs u ws)
    · refine hkeeps.workers x (h.joins u ws ?_ x hx)
      rw [hbefore]
      simp [hmem]

theorem Runs.enlisted (run : Runs w reliable (ofClients limit world first others) history m) :
    m.Enlisted := by
  induction run with
  | refl =>
      refine ⟨nofun, ?_⟩
      intro u ws hmem
      obtain ⟨_, _, heq⟩ := exists_client_of_mem_ofClients hmem
      cases heq
  | step _ _ last ih => exact ih.step last

theorem Runs.sleeping (run : Runs w reliable (ofClients limit world first others) history m) :
    Sleeping m.shared m.frames := by
  refine run.frames_induction (P := fun _ s fs _ => Sleeping s fs) ?_
    fun _ hturn hpasses _ h => h.turn hturn hpasses
  refine ⟨fun h => absurd rfl h, ?_, fun h => absurd rfl h⟩
  intro f hf hparked
  obtain ⟨_, _, rfl⟩ := exists_client_of_mem_ofClients hf
  cases hparked

/-! ## At rest -/

/-- A client in a call that cannot go on is stuck in a drain. -/
theorem stuck_of_step (hnone : m.step w t canSpawn = none) {held : Nat} {call : Call J B}
    {script : List (Request J ω)}
    (hth : m.threads[t]? = some (.client ⟨held, some call, script⟩)) :
    ∃ q, (call = .draining q ∨ call = .dropping (.drain q)) ∧
      q.Stuck w (m.neighbours t canSpawn) m.world m.shared := by
  unfold step at hnone
  rw [hth] at hnone
  exact Call.stuck_of_step (Option.map_eq_none_iff.mp hnone)

/-- A thread is idle, and no worker at work, if it is not engaged or cannot take a step, unless its
body is blocked. -/
theorem idle_of_step {th : Thread J B ω} (hth : m.threads[t]? = some th)
    (hnone : th.isEngaged = true → m.step w t canSpawn = none)
    (hbodies : ∀ f ∈ th.frames, ¬f.Blocked w m.world) :
    (∀ f ∈ th.frames, f.isIdle) ∧ th.atWork = false := by
  obtain ⟨held, _ | call, script⟩ | ⟨number, _ | p⟩ := th
  · exact ⟨by simp [Thread.frames, Frame.isIdle], rfl⟩
  · refine ⟨?_, rfl⟩
    obtain ⟨q, hq, hstuck⟩ := stuck_of_step (hnone rfl) hth
    have hframes : ∀ f ∈ q.frames, f.isIdle := hstuck.isIdle fun f hf => hbodies f (by
      rcases hq with rfl | rfl <;> simp [Thread.frames, Call.frames, Dropping.frames, hf])
    intro f hf
    rw [Thread.frames, Multiset.mem_add, Multiset.mem_singleton] at hf
    rcases hf with hf | rfl
    · rcases hq with rfl | rfl
      · exact hframes f hf
      · rw [Call.frames, Dropping.frames, Multiset.mem_add, Multiset.mem_singleton] at hf
        rcases hf with hf | rfl
        · exact hframes f hf
        · trivial
    · trivial
  · exact ⟨by simp [Thread.frames], rfl⟩
  · have hstep := hnone rfl
    unfold step at hstep
    rw [hth] at hstep
    obtain ⟨k, h, b, rfl, hblocked⟩ :=
      Serving.blocked_of_step (Option.map_eq_none_iff.mp hstep)
    exact absurd hblocked (hbodies (.run k h b) (by simp [Thread.frames, Serving.frames]))

/-- When no thread that is engaged can take a step and no body is blocked, every worker has returned
and no client is in a call. -/
theorem Runs.disengaged (run : Runs w true (ofClients limit world first others) history m)
    (hlimit : 0 < limit)
    (hrest : ∀ t th, m.threads[t]? = some th → th.isEngaged = true → m.step w t true = none)
    (hbodies : ∀ f ∈ m.frames, ¬f.Blocked w m.world) :
    (∀ th ∈ m.threads, th.atWork = false) ∧
      ∀ (t : ThreadId) (c : Client J B ω), m.threads[t]? = some (.client c) → c.call = none := by
  have hthread : ∀ th ∈ m.threads, (∀ f ∈ th.frames, f.isIdle) ∧ th.atWork = false := by
    intro th hth
    obtain ⟨t, ht⟩ := List.mem_iff_getElem?.mp hth
    exact idle_of_step ht (hrest t th ht) fun f hf => hbodies f (mem_frames.mpr ⟨th, hth, hf⟩)
  have hidle : ∀ f ∈ m.frames, f.isIdle := by
    intro f hf
    obtain ⟨th, hth, hfth⟩ := mem_frames.mp hf
    exact (hthread th hth).1 f hfth
  have hzero : ∀ a : Frame J B ω → Nat, (∀ f, f.isIdle → a f = 0) → weigh a m.frames = 0 := by
    intro a ha
    refine weigh_eq_zero ?_
    intro f hf
    exact ha f (hidle f hf)
  have htended := run.tended hlimit
  have hsleeping := run.sleeping
  refine ⟨fun th hth => (hthread th hth).2, ?_⟩
  rintro t ⟨held, _ | call, script⟩ hth
  · rfl
  · exfalso
    obtain ⟨q, hq, hstuck⟩ := stuck_of_step (hrest t _ hth rfl) hth
    have hmem : ∀ f ∈ q.frames, f ∈ m.frames := by
      intro f hf
      refine mem_frames.mpr ⟨_, List.mem_of_getElem? hth, ?_⟩
      rcases hq with rfl | rfl <;> simp [Thread.frames, Call.frames, Dropping.frames, hf]
    cases hstuck with
    | parked hself =>
        have hpending := hsleeping.gate (List.ne_nil_of_mem hself)
        have hopened := hsleeping.opened .parked (hmem _ (Multiset.mem_singleton_self _)) rfl
        rw [htended.jobs.pending_eq, hzero _ fun f hf => (Frame.weights_of_isIdle hf).2.2,
          zero_add] at hpending
        rcases htended.attended with hempty | hcreated | hattended
        · exact hpending (List.length_eq_zero_iff.mpr hempty)
        · exact hopened hcreated
        · rw [hzero _ fun f hf => (Frame.weights_of_isIdle hf).1] at hattended
          exact Nat.lt_irrefl 0 hattended
    | dozing hself =>
        have hactive := hsleeping.slots (List.ne_nil_of_mem hself)
        rw [htended.slots.owned, hzero _ fun f hf => (Frame.weights_of_isIdle hf).2.1] at hactive
        exact hactive rfl
    | @join u ws hfinished =>
        have hjoin : .join u ws ∈ m.frames := hmem _ (Multiset.mem_singleton_self _)
        obtain ⟨number, serving, hu⟩ := run.enlisted.joins u ws hjoin u List.mem_cons_self
        have hreturned := (hthread _ (List.mem_of_getElem? hu)).2
        cases serving with
        | some p => cases hreturned
        | none =>
            rw [neighbours] at hfinished
            simp only [hu] at hfinished
            cases hfinished
    | @serve k h b hblocked =>
        exact hbodies (.run k h b) (hmem _ (by simp [Draining.frames, Serving.frames])) hblocked

/-- When no thread can take a step and no body is blocked, every worker has returned and no client
is in a call. -/
theorem Runs.at_rest (run : Runs w true (ofClients limit world first others) history m)
    (hlimit : 0 < limit) (hrest : ∀ t, m.step w t true = none)
    (hbodies : ∀ f ∈ m.frames, ¬f.Blocked w m.world) :
    (∀ th ∈ m.threads, th.atWork = false) ∧
      ∀ (t : ThreadId) (c : Client J B ω), m.threads[t]? = some (.client c) → c.call = none :=
  run.disengaged hlimit (fun t _ _ _ => hrest t) hbodies

end Machine

end Frontier.Dispatcher
