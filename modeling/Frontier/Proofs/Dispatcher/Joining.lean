/-
# Joining — a drain that has returned leaves no worker behind

A worker is registered in the step that spawns it.  It stays registered until it
has returned, or until a drain takes the registry and goes on to join it; so a
worker at work is always expected by somebody (`Machine.Expected`).

That no worker is spawned behind the back of a drain rests on an order:

    quiescence is declared      who takes a slot from now on hands it back
    the slots are found idle    who was about to spawn a worker has spawned it
    the registry is taken       it holds every worker at work, and nobody adds to it

From the second line on no frame is about to spawn, and this lasts (`Barren`).
A drain that overlaps another may return while the other still joins, so the
last line needs that the drain which returns is the only one.
-/
import Frontier.Proofs.Dispatcher.Wakeups
import Mathlib

namespace Frontier.Dispatcher

variable {J B ω : Type} {w : Workload J B ω} {n : Neighbours} {v v' : ω} {s s' : Shared J}
  {f g : Frame J B ω} {fs gs below above rest : Multiset (Frame J B ω)} {q : Result}
  {r r' : Option Result} {told told' : List (Occurrence J)}

/-- The thread has seen that the dispatcher is not quiescent and is about to spawn a worker. -/
def Frame.spawns : Frame J B ω → Prop
  | filling (.takeNumber _) | filling (.spawn ..) => True
  | _ => False

/-- The drain has found no slot held. -/
def Frame.foundIdle : Frame J B ω → Prop
  | takeRegistry | join .. | concluding _ => True
  | _ => False

/-- The drain has taken the registry. -/
def Frame.tookRegistry : Frame J B ω → Prop
  | join .. | concluding _ => True
  | _ => False

/-- Who is about to spawn a worker owns the slot that it will get. -/
theorem Frame.slots_of_spawns (h : f.spawns) : f.slots = 1 := by
  cases f with
  | filling p => cases p <;> first | rfl | exact absurd h id
  | _ => exact absurd h id

theorem Frame.settled_of_foundIdle (h : f.foundIdle) : f.settled := by
  cases f <;> first | exact trivial | exact absurd h id

theorem Frame.foundIdle_of_tookRegistry (h : f.tookRegistry) : f.foundIdle := by
  cases f <;> first | exact trivial | exact absurd h id

/-! ## Nobody spawns any more -/

/-- Quiescence is declared, and no frame is about to spawn a worker. -/
structure Barren (s : Shared J) (fs : Multiset (Frame J B ω)) : Prop where
  quiescent : s.gate.lifecycle = .quiescent
  spawns : ∀ f ∈ fs, ¬f.spawns

theorem Shared.any_isSpawning_map_release (s : Shared J) :
    (s.release.2.map Occurrence.event).any Occurrence.isSpawning = false :=
  (Machine.any_isSpawning_map _).trans s.any_isSpawning_release

/-- At quiescence nobody gets as far as to spawn. -/
theorem Turn.barren (h : Turn w n v s f v' s' fs r told) (hq : s.gate.lifecycle = .quiescent)
    (hf : ¬f.spawns) :
    (∀ g ∈ fs, ¬g.spawns) ∧ told.any Occurrence.isSpawning = false := by
  cases h with
  | seeLive hlive => exact absurd hq hlive
  | takeNumber | spawn | spawnLast | failToSpawn => exact absurd trivial hf
  | handBack | giveUp => exact ⟨by simp, s.any_isSpawning_map_release⟩
  | release => exact ⟨by simp [Frame.spawns], s.any_isSpawning_map_release⟩
  | finish | panic | shed => exact ⟨forall_mem_ended (fun _ => id) id, rfl⟩
  | takeRegistry | join => exact ⟨forall_mem_joining (fun _ _ => id) id, rfl⟩
  | _ => exact ⟨by simp [Frame.spawns], rfl⟩

theorem Receives.not_spawns (h : Receives q g gs r told) : ∀ f ∈ gs, ¬f.spawns := by
  cases h <;> simp [Frame.spawns]

theorem Passes.any_isSpawning (h : Passes r below above r' told) :
    told.any Occurrence.isSpawning = false := by
  induction h with
  | refl => rfl
  | receive _ hg ih =>
      rw [List.any_append, ih]
      cases hg <;> rfl

/-- A frame that joins a worker waits for no result. -/
theorem Passes.not_join (h : Passes r below above r' told) :
    ∀ f ∈ below, ∀ u ws, f ≠ .join u ws := by
  induction h with
  | refl => simp
  | receive _ hg ih =>
      intro f hf
      rcases Multiset.mem_cons.mp hf with rfl | hf
      · cases hg <;> simp
      · exact ih f hf

theorem Barren.turn (h : Barren s (f ::ₘ (below + rest)))
    (hturn : Turn w n v s f v' s' fs r told) (hpasses : Passes r below above r' told') :
    Barren s' (fs + (above + rest)) ∧ (told ++ told').any Occurrence.isSpawning = false := by
  obtain ⟨hfs, htold⟩ := hturn.barren h.quiescent (h.spawns f (Multiset.mem_cons_self ..))
  refine ⟨⟨(hturn.quiescent h.quiescent).1, ?_⟩, ?_⟩
  · exact hpasses.forall_after (fun hreceives _ _ => hreceives.not_spawns) hfs
      fun g hg => h.spawns g (Multiset.mem_cons_of_mem hg)
  · rw [List.any_append, htold, hpasses.any_isSpawning]
    rfl

/-! ## What a drain has found out -/

/-- While a drain that has found the slots idle goes on, nobody is about to spawn; and while one
that has taken the registry does, the registry is empty. -/
structure Deserted (s : Shared J) (fs : Multiset (Frame J B ω)) : Prop where
  spawns : ∀ f ∈ fs, f.foundIdle → ∀ g ∈ fs, ¬g.spawns
  registry : ∀ f ∈ fs, f.tookRegistry → s.registry = []

/-- Where no slot is held nobody is about to spawn. -/
theorem SlotsOwned.not_spawns {limit : Nat} (h : SlotsOwned limit s fs)
    (hidle : s.slots.isIdle = true) : ∀ g ∈ fs, ¬g.spawns := by
  intro g hg hspawns
  have hzero : weigh Frame.slots fs = 0 := by
    rw [← h.owned]
    exact Slots.isIdle_iff.mp hidle
  have hnone := eq_zero_of_weigh hzero hg
  rw [Frame.slots_of_spawns hspawns] at hnone
  cases hnone

/-- A drain finds the slots idle when no slot is held. -/
theorem Turn.foundIdle (h : Turn w n v s f v' s' fs r told) :
    ∀ g ∈ fs, g.foundIdle → f.settled ∧ (f.foundIdle ∨ s.slots.isIdle = true) := by
  cases h with
  | seeIdle hidle | rouse _ hidle => exact fun _ _ _ => ⟨trivial, .inr hidle⟩
  | takeRegistry | join | conclude => exact fun _ _ _ => ⟨trivial, .inl trivial⟩
  | finish | panic | shed => exact forall_mem_ended (fun _ => nofun) nofun
  | _ => simp [Frame.foundIdle]

/-- A drain that takes the registry leaves it empty. -/
theorem Turn.tookRegistry (h : Turn w n v s f v' s' fs r told) :
    ∀ g ∈ fs, g.tookRegistry → f.tookRegistry ∨ s'.registry = [] := by
  cases h with
  | takeRegistry => exact fun _ _ _ => .inr rfl
  | join | conclude => exact fun _ _ _ => .inl trivial
  | finish | panic | shed => exact forall_mem_ended (fun _ => nofun) nofun
  | _ => simp [Frame.tookRegistry]

/-- Where nobody spawns, an empty registry stays empty. -/
theorem Turn.registry_eq_nil (h : Turn w n v s f v' s' fs r told)
    (htold : told.any Occurrence.isSpawning = false) (hempty : s.registry = []) :
    s'.registry = [] := by
  refine List.eq_nil_iff_forall_not_mem.mpr ?_
  intro u hu
  rcases h.registry.1 u hu with hold | ⟨-, hspawned⟩
  · rw [hempty] at hold
    cases hold
  · rw [htold] at hspawned
    cases hspawned

theorem Deserted.turn {limit : Nat} (h : Deserted s (f ::ₘ (below + rest)))
    (hslots : SlotsOwned limit s (f ::ₘ (below + rest)))
    (hjobs : Accounted s (f ::ₘ (below + rest))) (hturn : Turn w n v s f v' s' fs r told)
    (hpasses : Passes r below above r' told') : Deserted s' (fs + (above + rest)) := by
  have hf : f ∈ f ::ₘ (below + rest) := Multiset.mem_cons_self ..
  -- a frame that has found the slots idle took this turn, or was there before
  have hbarren : ∀ g ∈ fs + (above + rest), g.foundIdle → Barren s (f ::ₘ (below + rest)) := by
    intro g hg hidle
    rw [Multiset.mem_add, Multiset.mem_add] at hg
    rcases hg with hg | hg | hg
    · obtain ⟨hsettled, hbefore⟩ := hturn.foundIdle g hg hidle
      refine ⟨hjobs.quiescent_of_settled f hf hsettled, ?_⟩
      rcases hbefore with hbefore | hnone
      · exact h.spawns f hf hbefore
      · exact hslots.not_spawns hnone
    · obtain ⟨_, _, _, _, _, -, hgs, hreceives⟩ := hpasses.exists_receives hg
      exact absurd (Frame.settled_of_foundIdle hidle) (hreceives.not_settled g hgs)
    · have hmem : g ∈ f ::ₘ (below + rest) := by simp [hg]
      exact ⟨hjobs.quiescent_of_settled g hmem (Frame.settled_of_foundIdle hidle),
        h.spawns g hmem hidle⟩
  constructor
  · intro g hg hidle
    exact ((hbarren g hg hidle).turn hturn hpasses).1.spawns
  · intro g hg htook
    have hidle := Frame.foundIdle_of_tookRegistry htook
    have htold := ((hbarren g hg hidle).turn hturn hpasses).2
    rw [List.any_append, Bool.or_eq_false_iff] at htold
    have hkept := hturn.registry_eq_nil htold.1
    rw [Multiset.mem_add, Multiset.mem_add] at hg
    rcases hg with hg | hg | hg
    · rcases hturn.tookRegistry g hg htook with hbefore | hempty
      · exact hkept (h.registry f hf hbefore)
      · exact hempty
    · obtain ⟨_, _, _, _, _, -, hgs, hreceives⟩ := hpasses.exists_receives hg
      exact absurd (Frame.settled_of_foundIdle hidle) (hreceives.not_settled g hgs)
    · exact hkept (h.registry g (by simp [hg]) htook)

/-! ## Workers at work are expected -/

/-- Who is registered stays so until it has returned or is taken over by a drain, and who is to be
joined is joined after it has returned. -/
theorem Turn.expected (h : Turn w n v s f v' s' fs r told) {u : ThreadId}
    (hwork : n.finished u = false)
    (hu : u ∈ s.registry ∨ ∃ x ws, f = .join x ws ∧ u ∈ x :: ws) :
    u ∈ s'.registry ∨ ∃ x ws, .join x ws ∈ fs ∧ u ∈ x :: ws := by
  have hjoining : ∀ ts : List ThreadId, u ∈ ts →
      ∃ x ws, (.join x ws : Frame J B ω) ∈ ({.joining ts} : Multiset (Frame J B ω)) ∧
        u ∈ x :: ws := by
    intro ts hts
    cases ts with
    | nil => cases hts
    | cons x ws => exact ⟨x, ws, Multiset.mem_singleton_self _, hts⟩
  rcases hu with hu | ⟨x, ws, rfl, hu⟩
  · cases h with
    | takeSlot ha | reacquire ha | acquireSelf ha =>
        obtain ⟨-, rfl⟩ := Shared.acquire?_eq_some_iff.mp ha
        exact .inl hu
    | handBack | giveUp | release =>
        obtain ⟨_, _, _, hrelease, -⟩ := s.exists_release_eq
        rw [hrelease]
        exact .inl hu
    | accept he =>
        obtain ⟨-, -, rfl⟩ := Shared.enroll_eq_ok_iff.mp he
        exact .inl hu
    | pop hp =>
        obtain ⟨_, -, rfl⟩ := Shared.pop?_eq_some_iff.mp hp
        exact .inl hu
    | spawn | spawnLast =>
        refine .inl (List.mem_append_left _ (List.mem_filter.mpr ⟨hu, ?_⟩))
        rw [hwork]
        rfl
    | takeRegistry => exact .inr (hjoining _ hu)
    | _ => exact .inl hu
  · cases h with
    | join hfinished =>
        rcases List.mem_cons.mp hu with rfl | hu
        · rw [hfinished] at hwork
          cases hwork
        · exact .inr (hjoining _ hu)

/-- A worker is registered when it is spawned. -/
theorem Turn.newcomer_mem_registry (h : Turn w n v s f v' s' fs r told)
    (hspawned : told.any Occurrence.isSpawning = true) : n.newcomer ∈ s'.registry := by
  cases h with
  | spawn | spawnLast => exact List.mem_append_right _ (List.mem_singleton_self _)
  | handBack | giveUp | release =>
      rw [s.any_isSpawning_map_release] at hspawned
      cases hspawned
  | _ => cases hspawned

/-- Of the frames of a drain only that of the drain itself joins. -/
theorem Draining.eq_of_join_mem {p : Draining J B} {x : ThreadId} {ws : List ThreadId}
    (hf : (.join x ws : Frame J B ω) ∈ p.frames) : p = .join x ws := by
  cases p with
  | join t ts =>
      rw [frames, Multiset.mem_singleton] at hf
      cases hf
      rfl
  | opening call => cases call <;> simp [frames, Starting.frames] at hf
  | serve point =>
      cases point with
      | submitting _ _ call => cases call <;> simp [frames, Serving.frames, Submitting.frames] at hf
      | starting _ _ call => cases call <;> simp [frames, Serving.frames, Starting.frames] at hf
      | _ => simp [frames, Serving.frames] at hf
  | _ => simp [frames] at hf

/-- A thread that joins a worker is a client that drains. -/
theorem Thread.eq_of_join_mem {th : Thread J B ω} {x : ThreadId} {ws : List ThreadId}
    (hf : .join x ws ∈ th.frames) :
    ∃ held script, th = .client ⟨held, some (.draining (.join x ws)), script⟩ ∨
      th = .client ⟨held, some (.dropping (.drain (.join x ws))), script⟩ := by
  have hserving (p : Serving J B) : (.join x ws : Frame J B ω) ∉ p.frames := by
    intro hp
    have hdraining : (.join x ws : Frame J B ω) ∈ (Draining.serve p).frames :=
      Multiset.mem_add.mpr (.inl hp)
    cases Draining.eq_of_join_mem hdraining
  rcases th with ⟨held, _ | call, script⟩ | ⟨number, _ | p⟩
  · simp [Thread.frames] at hf
  · rw [Thread.frames, Multiset.mem_add] at hf
    rcases hf with hf | hf
    · cases call with
      | submitting p => cases p <;> simp [Call.frames, Submitting.frames] at hf
      | starting p => cases p <;> simp [Call.frames, Starting.frames] at hf
      | draining p =>
          obtain rfl := Draining.eq_of_join_mem hf
          exact ⟨held, script, .inl rfl⟩
      | reading p => simp [Call.frames] at hf
      | dropping p =>
          cases p with
          | drain p =>
              obtain rfl := Draining.eq_of_join_mem (ω := ω) (by
                simpa [Call.frames, Dropping.frames] using hf)
              exact ⟨held, script, .inr rfl⟩
          | _ => simp [Call.frames, Dropping.frames] at hf
    · simp at hf
  · simp [Thread.frames] at hf
  · exact absurd hf (hserving p)

/-- A drain returns when it has read the counters. -/
theorem Draining.eq_reading_of_done {p : Draining J B} {stats : Stats}
    {r : Stepped J (Progress (Draining J B) Stats)} (h : p.step w n v s = some (v', r))
    (hdone : r.next = .done stats) : ∃ point, p = .reading point := by
  cases p with
  | reading point => exact ⟨point, rfl⟩
  | opening call | checkIdle | takeRegistry | declare =>
      cases h
      cases hdone
  | acquireSelf | parked | dozing | join t ts =>
      simp only [step] at h
      split at h <;> cases h <;> cases hdone
  | serve point =>
      obtain ⟨⟨v₁, r₁⟩, -, hr⟩ := Option.map_eq_some_iff.mp h
      cases hr
      cases hdone

namespace Machine

variable {limit : Nat} {world : ω} {first : List (Request J ω)}
  {others : List (List (Request J ω))} {reliable : Bool} {m m' : Machine J B ω}
  {history : History J} {t u : ThreadId} {canSpawn : Bool} {occurred : List (Occurrence J)}
  {th : Thread J B ω} {p : Draining J B}

/-- The worker is registered, or a drain is to join it. -/
def Expected (m : Machine J B ω) (u : ThreadId) : Prop :=
  u ∈ m.shared.registry ∨ ∃ x ws, .join x ws ∈ m.frames ∧ u ∈ x :: ws

/-- After a step of a thread it is what the step has made of it. -/
theorem getElem?_commit_self {σ : Type} {world : ω} {r : Stepped J σ} {next : σ → Thread J B ω}
    (hth : m.threads[t]? = some th) :
    (m.commit t world r next).threads[t]? = some (next r.next) := by
  obtain ⟨hlt, -⟩ := List.getElem?_eq_some_iff.mp hth
  rw [commit, List.getElem?_append_left (by simpa using hlt), List.getElem?_set_self hlt]

/-- A thread after a step is the one that took it, another one as before, or the worker that was
spawned. -/
theorem getElem?_commit {σ : Type} {world : ω} {r : Stepped J σ} {next : σ → Thread J B ω}
    (hu : (m.commit t world r next).threads[u]? = some th) :
    (u = t ∧ th = next r.next) ∨ m.threads[u]? = some th ∨
      u = m.threads.length ∧ r.spawned.isSome = true := by
  rw [commit] at hu
  rcases Nat.lt_or_ge u m.threads.length with hlt | hge
  · rw [List.getElem?_append_left (by simpa using hlt)] at hu
    by_cases hut : u = t
    · subst hut
      rw [List.getElem?_set_self hlt] at hu
      exact .inl ⟨rfl, (Option.some.inj hu).symm⟩
    · rw [List.getElem?_set_ne (Ne.symm hut)] at hu
      exact .inr (.inl hu)
  · rw [List.getElem?_append_right (by simpa using hge), List.length_set] at hu
    obtain ⟨hlt, -⟩ := List.getElem?_eq_some_iff.mp hu
    cases hspawned : r.spawned with
    | none =>
        rw [hspawned] at hlt
        exact absurd hlt (Nat.not_lt_zero _)
    | some number =>
        have hone : u - m.threads.length < 1 := by simpa [hspawned] using hlt
        have hle := Nat.le_of_sub_eq_zero (Nat.lt_one_iff.mp hone)
        exact .inr (.inr ⟨Nat.le_antisymm hle hge, rfl⟩)

/-- A client is no worker at work. -/
theorem getElem?_set_client {threads : List (Thread J B ω)} {c : Client J B ω}
    (hu : (threads.set t (.client c))[u]? = some th) (hwork : th.atWork = true) :
    threads[u]? = some th := by
  rw [List.getElem?_set] at hu
  split at hu
  · split at hu
    · cases hu
      cases hwork
    · cases hu
  · exact hu

theorem enter_atWork {held left : Nat} {call : Call J B} {rest : List (Request J ω)}
    (h : m.enter t held left call rest = some (m', occurred))
    (hu : m'.threads[u]? = some th) (hwork : th.atWork = true) : m.threads[u]? = some th := by
  unfold enter at h
  split at h
  · cases h
    exact getElem?_set_client hu hwork
  · cases h

/-- The request of a client puts no thread to work. -/
theorem request_atWork {held : Nat} {request : Request J ω} {rest : List (Request J ω)}
    (h : m.request t held rest request = some (m', occurred))
    (hu : m'.threads[u]? = some th) (hwork : th.atWork = true) : m.threads[u]? = some th := by
  cases request with
  | submit job given =>
      simp only [Machine.request] at h
      split at h
      · exact enter_atWork h hu hwork
      · cases h
  | start | drain | stats | drop unwinding => exact enter_atWork h hu hwork
  | close | clone =>
      simp only [Machine.request] at h
      split at h
      · cases h
        exact getElem?_set_client hu hwork
      · cases h
  | give receiver =>
      simp only [Machine.request] at h
      split at h
      · split at h
        · cases h
          exact getElem?_set_client (getElem?_set_client hu hwork) hwork
        · cases h
      · cases h
  | touch effect =>
      cases h
      exact getElem?_set_client hu hwork

/-- Who is at work after a step was at work before, or the step tells that it was spawned. -/
theorem atWork_of_step (h : m.step w t canSpawn = some (m', occurred))
    (hu : m'.threads[u]? = some th) (hwork : th.atWork = true) :
    (∃ old, m.threads[u]? = some old ∧ old.atWork = true) ∨
      u = m.threads.length ∧ occurred.any Occurrence.isSpawning = true := by
  cases stepping_of_step h with
  | serves hth hp =>
      rcases getElem?_commit hu with ⟨rfl, -⟩ | hold | ⟨hnew, hspawned⟩
      · exact .inl ⟨_, hth, rfl⟩
      · exact .inl ⟨th, hold, hwork⟩
      · refine .inr ⟨hnew, ?_⟩
        rw [any_isSpawning_map, Serving.announces hp, hspawned]
  | @calls _ _ _ _ r hth hp =>
      rcases getElem?_commit hu with ⟨-, rfl⟩ | hold | ⟨hnew, hspawned⟩
      · cases hnext : r.next <;> rw [hnext] at hwork <;> cases hwork
      · exact .inl ⟨th, hold, hwork⟩
      · refine .inr ⟨hnew, ?_⟩
        rw [List.any_append, any_isSpawning_map, Call.announces hp, hspawned, Bool.true_or]
  | asks hth hrequest => exact .inl ⟨th, request_atWork hrequest hu hwork, hwork⟩

theorem Expected.step (hu : m.Expected u) (hth : m.threads[u]? = some th)
    (hwork : th.atWork = true) (h : m.step w t canSpawn = some (m', occurred)) :
    m'.Expected u := by
  have hunfinished : (m.neighbours t canSpawn).finished u = false := by
    show (m.threads[u]?).any (·.isFinishedWorker) = false
    rw [hth]
    obtain _ | ⟨_, _ | _⟩ := th
    · cases hwork
    · cases hwork
    · rfl
  obtain ⟨r, -, f, fs, below, above, rest, r₀, told₀, told₁, hturn, hpasses, hbefore, hafter,
    rfl⟩ := step_rewrites h
  have hturned : (u ∈ m.shared.registry ∨ ∃ x ws, f = .join x ws ∧ u ∈ x :: ws) →
      m'.Expected u := by
    intro hu
    rcases hturn.expected hunfinished hu with hregistered | ⟨x, ws, hjoin, hu⟩
    · exact .inl hregistered
    · refine .inr ⟨x, ws, ?_, hu⟩
      rw [hafter]
      exact Multiset.mem_add.mpr (.inl hjoin)
  rcases hu with hregistered | ⟨x, ws, hjoin, hu⟩
  · exact hturned (.inl hregistered)
  · rw [hbefore, Multiset.mem_cons, Multiset.mem_add] at hjoin
    rcases hjoin with rfl | hjoin | hjoin
    · exact hturned (.inr ⟨x, ws, rfl, hu⟩)
    · exact absurd rfl (hpasses.not_join _ hjoin x ws)
    · refine .inr ⟨x, ws, ?_, hu⟩
      rw [hafter]
      simp [hjoin]

/-- Every worker at work is expected. -/
theorem Runs.expected (run : Runs w reliable (ofClients limit world first others) history m) :
    ∀ u th, m.threads[u]? = some th → th.atWork = true → m.Expected u := by
  induction run with
  | refl =>
      intro u th hth hwork
      have hmem := List.mem_of_getElem? hth
      rw [ofClients, List.mem_cons, List.mem_map] at hmem
      rcases hmem with rfl | ⟨script, -, rfl⟩ <;> cases hwork
  | step _ _ last ih =>
      intro u th hth hwork
      rcases atWork_of_step last hth hwork with ⟨old, hold, holdwork⟩ | ⟨rfl, hspawned⟩
      · exact (ih u old hold holdwork).step hold holdwork last
      · obtain ⟨r, -, f, fs, below, above, rest, r₀, told₀, told₁, hturn, hpasses, -, -, rfl⟩ :=
          step_rewrites last
        rw [List.any_append, hpasses.any_isSpawning, Bool.or_false] at hspawned
        exact .inl (hturn.newcomer_mem_registry hspawned)

theorem Runs.deserted (run : Runs w reliable (ofClients limit world first others) history m) :
    Deserted m.shared m.frames := by
  refine run.turn_induction (P := fun m _ => Deserted m.shared m.frames) ?_ ?_
  · constructor <;>
    · intro f hf hdrains
      obtain ⟨_, _, rfl⟩ := exists_client_of_mem_ofClients hf
      exact absurd hdrains id
  · intro n f fs below above rest r r' told told' past m₁ m₂ run₁ _ hbefore hafter _ hturn
      hpasses _ h
    have hslots := run₁.slotsOwned
    have hjobs := run₁.accounted
    rw [hbefore] at h hslots hjobs
    rw [hafter]
    exact h.turn hslots hjobs hturn hpasses

/-- Where nobody is about to spawn, no worker is spawned any more. -/
theorem Runs.barren (run : Runs w reliable m history m') (h : Barren m.shared m.frames) :
    Barren m'.shared m'.frames ∧ ∀ o ∈ history, o.2.isSpawning = false := by
  refine run.frames_induction
    (P := fun _ s fs past => Barren s fs ∧ ∀ o ∈ past, o.2.isSpawning = false)
    ⟨h, nofun⟩ ?_
  intro n v s f v' s' fs below above rest r r' told told' past _ hturn hpasses _ ⟨h, hpast⟩
  obtain ⟨h', htold⟩ := h.turn hturn hpasses
  refine ⟨h', ?_⟩
  intro o ho
  rcases List.mem_append.mp ho with ho | ho
  · exact hpast o ho
  · obtain ⟨x, hx, rfl⟩ := List.mem_map.mp ho
    exact Bool.not_eq_true _ |>.mp fun hspawned =>
      absurd (List.any_eq_true.mpr ⟨x, hx, hspawned⟩) (by rw [htold]; exact Bool.false_ne_true)

/-- Where no worker is at work and none is spawned, none will be at work. -/
theorem Runs.none_atWork (run : Runs w reliable m history m')
    (hnone : ∀ th ∈ m.threads, th.atWork = false)
    (hhistory : ∀ o ∈ history, o.2.isSpawning = false) :
    ∀ th ∈ m'.threads, th.atWork = false := by
  induction run with
  | refl => exact hnone
  | step _ _ last ih =>
      have hbefore := ih fun o ho => hhistory o (List.mem_append_left _ ho)
      intro th hth
      obtain ⟨u, hu⟩ := List.mem_iff_getElem?.mp hth
      refine Bool.not_eq_true _ |>.mp ?_
      intro hwork
      rcases atWork_of_step last hu hwork with ⟨old, hold, holdwork⟩ | ⟨-, hspawned⟩
      · rw [hbefore old (List.mem_of_getElem? hold)] at holdwork
        cases holdwork
      · obtain ⟨o, ho, hspawns⟩ := List.any_eq_true.mp hspawned
        have := hhistory _ (List.mem_append_right _ (List.mem_map_of_mem ho))
        rw [hspawns] at this
        cases this

/-! ## The return of a drain -/

/-- A drain goes on until it has read the counters. -/
theorem DrainsAt.step (hdrain : m.DrainsAt t p)
    (h : m.step w t canSpawn = some (m', occurred)) :
    (∃ q, m'.DrainsAt t q) ∨ ∃ point, p = .reading point := by
  obtain ⟨held, call, script, hth, hcall⟩ := hdrain
  unfold Machine.step at h
  rw [hth] at h
  obtain ⟨⟨v₁, r₁⟩, hp, hr⟩ := Option.map_eq_some_iff.mp h
  cases hr
  have hnext : ∀ c, r₁.next = .more c → ∀ q, c.drain? = some q →
      ∃ q, (m.commit t v₁ r₁ fun p => p.embed (fun q => Thread.client ⟨held, some q, script⟩)
        fun _ => .client ⟨held, none, script⟩).DrainsAt t q := by
    intro c hc q hq
    refine ⟨q, held, c, script, ?_, hq⟩
    rw [getElem?_commit_self hth, hc]
    rfl
  cases call with
  | draining p₀ =>
      obtain rfl := Option.some.inj hcall
      obtain ⟨⟨v₂, r₂⟩, hp₂, hr₂⟩ := Option.map_eq_some_iff.mp hp
      cases hr₂
      cases hnext₂ : r₂.next with
      | more q =>
          refine .inl (hnext (.draining q) ?_ q rfl)
          simp only [Stepped.map, hnext₂, Progress.embed]
      | done stats => exact .inr (Draining.eq_reading_of_done hp₂ hnext₂)
  | dropping p₀ =>
      cases p₀ with
      | drain p₁ =>
          obtain rfl := Option.some.inj hcall
          obtain ⟨⟨v₂, r₂⟩, hp₂, hr₂⟩ := Option.map_eq_some_iff.mp hp
          cases hr₂
          obtain ⟨⟨v₃, r₃⟩, hp₃, hr₃⟩ := Option.map_eq_some_iff.mp hp₂
          cases hr₃
          cases hnext₃ : r₃.next with
          | more q =>
              refine .inl (hnext (.dropping (.drain q)) ?_ q rfl)
              simp only [Stepped.map, hnext₃, Progress.embed]
          | done stats => exact .inr (Draining.eq_reading_of_done hp₃ hnext₃)
      | _ => cases hcall
  | _ => cases hcall

/-- A thread is at one point of one drain. -/
theorem DrainsAt.unique {q : Draining J B} (hp : m.DrainsAt t p) (hq : m.DrainsAt t q) :
    p = q := by
  obtain ⟨_, _, _, hth, hcall⟩ := hp
  obtain ⟨_, _, _, hth', hcall'⟩ := hq
  rw [hth] at hth'
  cases hth'
  rw [hcall] at hcall'
  exact Option.some.inj hcall'

theorem DrainsAt.frames_subset (hdrain : m.DrainsAt t p) : ∀ f ∈ p.frames, f ∈ m.frames := by
  obtain ⟨held, call, script, hth, hcall⟩ := hdrain
  intro f hf
  refine mem_frames.mpr ⟨_, List.mem_of_getElem? hth, ?_⟩
  cases call with
  | draining p₀ =>
      obtain rfl := Option.some.inj hcall
      simp [Thread.frames, Call.frames, hf]
  | dropping p₀ =>
      cases p₀ with
      | drain p₁ =>
          obtain rfl := Option.some.inj hcall
          simp [Thread.frames, Call.frames, Dropping.frames, hf]
      | _ => cases hcall
  | _ => cases hcall

/-- Who joins a worker drains. -/
theorem exists_drainsAt_of_join {x : ThreadId} {ws : List ThreadId} (h : .join x ws ∈ m.frames) :
    ∃ u, m.DrainsAt u (.join x ws) := by
  obtain ⟨th, hth, hf⟩ := mem_frames.mp h
  obtain ⟨u, hu⟩ := List.mem_iff_getElem?.mp hth
  obtain ⟨held, script, rfl | rfl⟩ := Thread.eq_of_join_mem hf
  · exact ⟨u, held, _, script, hu, rfl⟩
  · exact ⟨u, held, _, script, hu, rfl⟩

/-- When a drain returns and no other one is under way, every worker that was ever spawned has
returned, and from then on none is spawned, whoever is in the middle of filling slots. -/
theorem Runs.drain_leaves_no_worker
    (run : Runs w reliable (ofClients limit world first others) history m)
    (hdrain : m.DrainsAt t p) (halone : ∀ u q, m.DrainsAt u q → u = t)
    (hstep : m.step w t canSpawn = some (m', occurred)) (hreturns : ∀ q, ¬m'.DrainsAt t q) :
    (∀ th ∈ m'.threads, th.atWork = false) ∧
      ∀ later m'', Runs w reliable m' later m'' →
        (∀ o ∈ later, o.2.isSpawning = false) ∧ ∀ th ∈ m''.threads, th.atWork = false := by
  obtain ⟨point, rfl⟩ : ∃ point, p = .reading point :=
    (hdrain.step hstep).resolve_left fun ⟨q, hq⟩ => hreturns q hq
  have hconcluding : .concluding point ∈ m.frames :=
    hdrain.frames_subset _ (Multiset.mem_singleton_self _)
  have hdeserted := run.deserted
  have hbarren : Barren m.shared m.frames :=
    ⟨run.accounted.quiescent_of_settled _ hconcluding trivial,
      hdeserted.spawns _ hconcluding trivial⟩
  -- nobody joins a worker but this drain, and it is past that
  have hnone : ∀ u, ¬m.Expected u := by
    rintro u (hregistered | ⟨x, ws, hjoin, -⟩)
    · rw [hdeserted.registry _ hconcluding trivial] at hregistered
      cases hregistered
    · obtain ⟨u', hu'⟩ := exists_drainsAt_of_join hjoin
      obtain rfl := halone u' _ hu'
      exact nomatch hu'.unique hdrain
  have hidle : ∀ th ∈ m.threads, th.atWork = false := by
    intro th hth
    obtain ⟨u, hu⟩ := List.mem_iff_getElem?.mp hth
    exact Bool.not_eq_true _ |>.mp fun hwork => hnone u (run.expected u th hu hwork)
  -- the step of the drain is a run of one step
  have hlast : Runs w false m ([] ++ occurred.map (t, ·)) m' := .step .refl nofun hstep
  obtain ⟨hbarren', hquiet⟩ := hlast.barren hbarren
  have hidle' := hlast.none_atWork hidle hquiet
  refine ⟨hidle', ?_⟩
  intro later m'' hlater
  have hquiet' := (hlater.barren hbarren').2
  exact ⟨hquiet', hlater.none_atWork hidle' hquiet'⟩

/-- A client drains, and while it waits another one submits a second job and drops its handle. -/
def joined : Machine Script.Job Script.Body Script.World :=
  ofClients 1 .empty [.submit [.log "one"] 0, .clone, .give 1, .drain]
    [[.submit [.log "two"] 0, .drop false]]

/-- The drain waits for both jobs and joins the worker that ran them. -/
theorem drain_leaves_no_worker_joined :
    ∃ history m m' occurred, Runs Script.workload true joined history m ∧
      m.DrainsAt 0 (.reading (.peak 2 2 0)) ∧
      m.step Script.workload 0 true = some (m', occurred) ∧
      m'.threads.length = 3 ∧ (∀ th ∈ m'.threads, th.atWork = false) ∧
      ∀ later m'', Runs Script.workload true m' later m'' →
        ∀ o ∈ later, o.2.isSpawning = false := by
  have hrun := runs_settle Script.workload 47 joined
  have hthreads : (joined.settle Script.workload 47).1.threads =
      [.client ⟨1, some (.draining (.reading (.peak 2 2 0))), []⟩, .client ⟨0, none, []⟩,
        .worker 0 none] := by rfl
  have hthreads' : (joined.settle Script.workload 48).1.threads =
      [.client ⟨1, none, []⟩, .client ⟨0, none, []⟩, .worker 0 none] := by rfl
  have hdrain : (joined.settle Script.workload 47).1.DrainsAt 0 (.reading (.peak 2 2 0)) :=
    ⟨1, _, [], by rw [hthreads]; rfl, rfl⟩
  have halone : ∀ u q, (joined.settle Script.workload 47).1.DrainsAt u q → u = 0 := by
    rintro u q ⟨held, call, script, hth, hcall⟩
    rw [hthreads] at hth
    match u with
    | 0 => rfl
    | 1 => cases hth
    | 2 => cases hth
    | _ + 3 => cases hth
  have hstep : (joined.settle Script.workload 47).1.step Script.workload 0 true =
      some ((joined.settle Script.workload 48).1, [.returned (.drained ⟨2, 2, 0, 1⟩)]) := by rfl
  have hreturns : ∀ q, ¬(joined.settle Script.workload 48).1.DrainsAt 0 q := by
    rintro q ⟨held, call, script, hth, hcall⟩
    rw [hthreads'] at hth
    cases hth
  obtain ⟨hidle, hlater⟩ := Runs.drain_leaves_no_worker hrun hdrain halone hstep hreturns
  refine ⟨_, _, _, _, hrun, hdrain, hstep, by rw [hthreads']; rfl, hidle, ?_⟩
  intro later m'' h
  exact (hlater later m'' h).1

end Machine

end Frontier.Dispatcher
