/-
# Ownership — every slot that is held has one owner

A slot changes hands: a thread that fills takes one and leaves it to the worker
it spawns; a worker gives its own back and may take another; what cannot be
used is handed back.  `Frame.slots` says which frames own one.  The counter of
the dispatcher is the weight of all frames by it, so a slot is never given back
that is not held, and no more bodies run than slots are held.

    acquire?   +1 held, +1 owned        (`takeSlot`, `reacquire`, `acquireSelf`)
    release    -1 held, -1 owned        (`handBack`, `giveUp`, `release`)
    spawn      the frame `filling` gives its slot to a frame `pop`
-/
import Frontier.Dispatcher.Schedule
import Frontier.Dispatcher.Script
import Frontier.Proofs.Dispatcher.Inversion
import Frontier.Proofs.Dispatcher.Operations
import Mathlib

namespace Frontier.Dispatcher

variable {J B ω : Type} {w : Workload J B ω} {n : Neighbours} {v v' : ω} {s s' : Shared J}

/-- The slots that a frame owns. -/
def Frame.slots : Frame J B ω → Nat
  | filling f => f.ownsSlot.toNat
  | pop | run .. | submitting .. | starting .. | shed .. | countExecuted _ | countPanicked _
  | complete | release => 1
  | _ => 0

/-- The bodies that are between their first move and their last in a frame. -/
def Frame.bodies : Frame J B ω → Nat
  | run .. | submitting .. | starting .. => 1
  | _ => 0

theorem Frame.bodies_le_slots (f : Frame J B ω) : f.bodies ≤ f.slots := by
  cases f <;> simp [bodies, slots]

theorem Submitting.weigh_bodies (p : Submitting J) :
    weigh Frame.bodies (p.frames : Multiset (Frame J B ω)) = 0 := by
  cases p <;> simp [frames, Frame.bodies]

theorem Starting.weigh_bodies (p : Starting) :
    weigh Frame.bodies (p.frames : Multiset (Frame J B ω)) = 0 := by
  cases p <;> simp [frames, Frame.bodies]

/-- A thread that serves runs at most one body. -/
theorem Serving.weigh_bodies (p : Serving J B) :
    weigh Frame.bodies (p.frames : Multiset (Frame J B ω)) = p.isRunning.toNat := by
  cases p <;>
    simp [frames, Frame.bodies, isRunning, Submitting.weigh_bodies, Starting.weigh_bodies]

/-! ## One turn -/

/-- What a turn does to the slots. -/
inductive SlotChange (s s' : Shared J) (before after : Nat) (told : List (Occurrence J)) : Prop
  | none : s'.slots = s.slots → after = before → .event .overReleased ∉ told →
      SlotChange s s' before after told
  | acquired : s.acquire? = some s' → after = before + 1 → told = [] →
      SlotChange s s' before after told
  | released : s' = s.release.1 → before = 1 → after = 0 → told = s.release.2.map .event →
      SlotChange s s' before after told

theorem Turn.slotChange {f : Frame J B ω} {fs : Multiset (Frame J B ω)} {r : Option Result}
    {told : List (Occurrence J)} (h : Turn w n v s f v' s' fs r told) :
    SlotChange s s' f.slots (weigh Frame.slots fs) told := by
  cases h with
  | takeSlot ha => exact .acquired ha rfl rfl
  | reacquire ha => exact .acquired ha rfl rfl
  | acquireSelf ha => exact .acquired ha rfl rfl
  | handBack => exact .released rfl rfl rfl rfl
  | giveUp => exact .released rfl rfl rfl rfl
  | release => exact .released rfl rfl rfl rfl
  | accept he =>
      obtain ⟨-, -, rfl⟩ := Shared.enroll_eq_ok_iff.mp he
      exact .none rfl rfl (by simp)
  | pop hp =>
      obtain ⟨_, -, rfl⟩ := Shared.pop?_eq_some_iff.mp hp
      exact .none rfl rfl (by simp)
  | finish | panic | shed => exact .none rfl (weigh_ended (fun _ => rfl) rfl) (by simp)
  | takeRegistry | join => exact .none rfl (weigh_joining (fun _ _ => rfl) rfl) (by simp)
  | _ => exact .none rfl (by simp [Frame.slots, Filling.ownsSlot]) (by simp)

theorem Receives.slots_eq {q : Result} {g : Frame J B ω} {gs : Multiset (Frame J B ω)}
    {r : Option Result} {told : List (Occurrence J)} (h : Receives q g gs r told) :
    g.slots = weigh Frame.slots gs := by
  cases h <;> rfl

theorem Receives.overReleased_notMem {q : Result} {g : Frame J B ω}
    {gs : Multiset (Frame J B ω)} {r : Option Result} {told : List (Occurrence J)}
    (h : Receives q g gs r told) : .event .overReleased ∉ told := by
  cases h <;> simp

theorem Passes.overReleased_notMem {r r' : Option Result} {below above : Multiset (Frame J B ω)}
    {told : List (Occurrence J)} (h : Passes r below above r' told) :
    .event .overReleased ∉ told := by
  induction h with
  | refl => simp
  | receive _ hg ih =>
      rw [List.mem_append]
      exact not_or.mpr ⟨ih, hg.overReleased_notMem⟩

/-! ## The invariant -/

/-- As many slots are held as frames own, and never more than allowed. -/
structure SlotsOwned (limit : Nat) (s : Shared J) (fs : Multiset (Frame J B ω)) : Prop where
  owned : s.slots.active = weigh Frame.slots fs
  active_le_peak : s.slots.active ≤ s.slots.peak
  peak_le_limit : s.slots.peak ≤ limit
  limit_eq : s.slots.limit = limit

theorem SlotsOwned.bodies_le_active {limit : Nat} {fs : Multiset (Frame J B ω)}
    (h : SlotsOwned limit s fs) : weigh Frame.bodies fs ≤ s.slots.active := by
  rw [h.owned]
  exact weigh_le_weigh Frame.bodies_le_slots fs

/-- A change of the slots by one owner keeps the others theirs.  The peak follows. -/
theorem SlotsOwned.change {limit before after others : Nat} {told : List (Occurrence J)}
    (h : SlotChange s s' before after told) (hlimit : s.slots.limit = limit)
    (hactive : s.slots.active = before + others) (hle : s.slots.active ≤ s.slots.peak)
    (hpeak : s.slots.peak ≤ limit) :
    s'.slots.active = after + others ∧ s'.slots.peak = max s.slots.peak s'.slots.active ∧
      s'.slots.peak ≤ limit ∧ s'.slots.limit = limit ∧ .event .overReleased ∉ told := by
  cases h with
  | none hs hafter htold =>
      rw [hs, hafter]
      exact ⟨hactive, by omega, hpeak, hlimit, htold⟩
  | acquired ha hafter htold =>
      obtain ⟨hfree, rfl⟩ := Shared.acquire?_eq_some_iff.mp ha
      refine ⟨?_, rfl, Nat.max_le.mpr ⟨hpeak, ?_⟩, hlimit, by simp [htold]⟩
      · rw [hactive, hafter, Nat.add_right_comm]
      · rw [← hlimit]
        exact hfree
  | released hs hbefore hafter htold =>
      have hpos : 0 < s.slots.active := by omega
      rw [Shared.release_of_pos hpos] at hs htold
      subst hs
      simp only
      refine ⟨by omega, by omega, hpeak, hlimit, by simp [htold]⟩

section Turn

variable {limit : Nat} {f : Frame J B ω} {fs below above rest : Multiset (Frame J B ω)}
  {r r' : Option Result} {told told' : List (Occurrence J)}

theorem SlotsOwned.turn_spec (h : SlotsOwned limit s (f ::ₘ (below + rest)))
    (hturn : Turn w n v s f v' s' fs r told) (hpasses : Passes r below above r' told') :
    SlotsOwned limit s' (fs + (above + rest)) ∧
      s'.slots.peak = max s.slots.peak s'.slots.active ∧
      .event .overReleased ∉ told ++ told' := by
  have hpassed := hpasses.weigh_eq Receives.slots_eq
  have hactive : s.slots.active = f.slots + (weigh Frame.slots above + weigh Frame.slots rest) := by
    rw [h.owned, weigh_cons, weigh_add, hpassed]
  obtain ⟨hactive', hmax, hpeak', hlimit', htold⟩ :=
    SlotsOwned.change hturn.slotChange h.limit_eq hactive h.active_le_peak h.peak_le_limit
  refine ⟨⟨?_, by omega, hpeak', hlimit'⟩, hmax, ?_⟩
  · rw [hactive', weigh_add, weigh_add]
  · rw [List.mem_append]
    exact not_or.mpr ⟨htold, hpasses.overReleased_notMem⟩

end Turn

namespace Machine

variable {limit : Nat} {reliable : Bool} {m m' : Machine J B ω} {t : ThreadId}
  {canSpawn : Bool} {occurred : List (Occurrence J)} {history : History J}

theorem slotsOwned_ofClients (limit : Nat) (world : ω) (first : List (Request J ω))
    (others : List (List (Request J ω))) :
    SlotsOwned limit (ofClients limit world first others : Machine J B ω).shared
      (ofClients limit world first others : Machine J B ω).frames where
  owned := (weigh_ofClients fun _ _ => rfl).symm
  active_le_peak := Nat.le_refl 0
  peak_le_limit := Nat.zero_le limit
  limit_eq := rfl

theorem step_slots (h : SlotsOwned limit m.shared m.frames)
    (hstep : m.step w t canSpawn = some (m', occurred)) :
    SlotsOwned limit m'.shared m'.frames ∧
      m'.shared.slots.peak = max m.shared.slots.peak m'.shared.slots.active ∧
      .event .overReleased ∉ occurred := by
  obtain ⟨r, -, f, fs, below, above, rest, r₀, told₀, told₁, hturn, hpasses, hbefore, hafter,
    rfl⟩ := step_rewrites hstep
  rw [hbefore] at h
  rw [hafter]
  exact h.turn_spec hturn hpasses

/-- A run with the states that it passes through, the last one first. -/
inductive Visits (w : Workload J B ω) (reliable : Bool) (m : Machine J B ω) :
    List (Machine J B ω) → History J → Machine J B ω → Prop
  | refl : Visits w reliable m [m] [] m
  | step {states : List (Machine J B ω)} {history : History J} {m' m'' : Machine J B ω}
      {t : ThreadId} {canSpawn : Bool} {occurred : List (Occurrence J)}
      (visits : Visits w reliable m states history m')
      (spawns : reliable = true → canSpawn = true)
      (last : m'.step w t canSpawn = some (m'', occurred)) :
      Visits w reliable m (m'' :: states) (history ++ occurred.map (t, ·)) m''

theorem Visits.runs {states : List (Machine J B ω)}
    (h : Visits w reliable m states history m') : Runs w reliable m history m' := by
  induction h with
  | refl => exact .refl
  | step _ spawns last ih => exact .step ih spawns last

/-- Every run passes through states. -/
theorem Runs.visits (h : Runs w reliable m history m') :
    ∃ states, Visits w reliable m states history m' := by
  induction h with
  | refl => exact ⟨[m], .refl⟩
  | step _ spawns last ih =>
      obtain ⟨states, ih⟩ := ih
      exact ⟨_, .step ih spawns last⟩

/-- The peak is the most that were held in any of the states so far. -/
def IsPeak (states : List (Machine J B ω)) (peak : Nat) : Prop :=
  (∀ x ∈ states, x.shared.slots.active ≤ peak) ∧ ∃ x ∈ states, x.shared.slots.active = peak

theorem IsPeak.cons {states : List (Machine J B ω)} {peak : Nat} (h : IsPeak states peak)
    (x : Machine J B ω) : IsPeak (x :: states) (max peak x.shared.slots.active) := by
  obtain ⟨hle, y, hy, hpeak⟩ := h
  constructor
  · intro z hz
    rcases List.mem_cons.mp hz with rfl | hz
    · exact Nat.le_max_right ..
    · exact Nat.le_trans (hle z hz) (Nat.le_max_left ..)
  · rcases Nat.le_total x.shared.slots.active peak with hx | hx
    · exact ⟨y, List.mem_cons_of_mem _ hy, by omega⟩
    · exact ⟨x, List.mem_cons_self, by omega⟩

theorem Visits.slotsOwned {world : ω} {first : List (Request J ω)}
    {others : List (List (Request J ω))} {states : List (Machine J B ω)}
    (h : Visits w reliable (ofClients limit world first others) states history m') :
    SlotsOwned limit m'.shared m'.frames ∧ IsPeak states m'.shared.slots.peak ∧
      ∀ t, (t, .event .overReleased) ∉ history := by
  induction h with
  | refl =>
      exact ⟨slotsOwned_ofClients limit world first others,
        ⟨by simp [ofClients, Shared.ofLimit, Slots.ofLimit],
          _, List.mem_singleton_self _, rfl⟩, by simp⟩
  | step _ _ last ih =>
      obtain ⟨howned, hpeak, htold⟩ := ih
      obtain ⟨howned', hmax, hoccurred⟩ := step_slots howned last
      refine ⟨howned', ?_, ?_⟩
      · rw [hmax]
        exact hpeak.cons _
      · intro u
        rw [List.mem_append, List.mem_map]
        rintro (hu | ⟨o, ho, heq⟩)
        · exact htold u hu
        · cases heq
          exact hoccurred ho

theorem Runs.slotsOwned {world : ω} {first : List (Request J ω)}
    {others : List (List (Request J ω))}
    (run : Runs w reliable (ofClients limit world first others) history m') :
    SlotsOwned limit m'.shared m'.frames := by
  obtain ⟨states, hvisits⟩ := run.visits
  exact hvisits.slotsOwned.1

/-- In every state that a dispatcher reaches, the slots that are held are those that its threads
own, bodies run in no more than these, their peak is the most that were held so far and within the
limit, and none was given back that was not held. -/
theorem Visits.bounded_concurrency {world : ω} {first : List (Request J ω)}
    {others : List (List (Request J ω))} {states : List (Machine J B ω)}
    (h : Visits w reliable (ofClients limit world first others) states history m') :
    m'.shared.slots.active = weigh Frame.slots m'.frames ∧
      weigh Frame.bodies m'.frames ≤ m'.shared.slots.active ∧
      m'.shared.slots.active ≤ m'.shared.slots.peak ∧
      m'.shared.slots.peak ≤ m'.shared.slots.limit ∧ m'.shared.slots.limit = limit ∧
      (∀ x ∈ states, x.shared.slots.active ≤ m'.shared.slots.peak) ∧
      (∃ x ∈ states, x.shared.slots.active = m'.shared.slots.peak) ∧
      ∀ t, (t, .event .overReleased) ∉ history := by
  obtain ⟨howned, ⟨hle, hreached⟩, htold⟩ := h.slotsOwned
  refine ⟨howned.owned, howned.bodies_le_active, howned.active_le_peak, ?_, howned.limit_eq, hle,
    hreached, htold⟩
  rw [howned.limit_eq]
  exact howned.peak_le_limit

/-- Two jobs are submitted that wait at a door, and may run. -/
def waiting : Machine Script.Job Script.Body Script.World :=
  ofClients 2 .empty [.submit [.wait "door"] 0, .submit [.wait "door"] 0, .start] []

/-- Both jobs hold a slot when they wait. -/
theorem bounded_concurrency_waiting :
    ∃ states history m', Visits Script.workload true waiting states history m' ∧
      weigh Frame.slots m'.frames = 2 ∧ m'.shared.slots.peak = 2 ∧
      (∃ x ∈ states, x.shared.slots.active = 2) ∧ ∀ t, (t, .event .overReleased) ∉ history := by
  obtain ⟨states, hvisits⟩ := (runs_settle Script.workload 60 waiting).visits
  have hslots : (waiting.settle Script.workload 60).1.shared.slots = ⟨2, 2, 2⟩ := by decide
  obtain ⟨howned, -, -, -, -, -, hreached, htold⟩ := Visits.bounded_concurrency hvisits
  rw [hslots] at howned hreached
  exact ⟨states, _, _, hvisits, howned.symm, by rw [hslots], hreached, htold⟩

end Machine

end Frontier.Dispatcher
