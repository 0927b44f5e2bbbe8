/-
# Threads — a step keeps the threads, and adds the worker that it tells of

A thread that was spawned is a worker for ever, and its index is the one that
was registered.  Here steps are looked at as wholes: which threads there are is
what the frames of a machine do not say.
-/
import Frontier.Proofs.Dispatcher.Inversion
import Frontier.Proofs.Dispatcher.Operations
import Mathlib

namespace Frontier.Dispatcher

variable {J B ω : Type} {w : Workload J B ω} {n : Neighbours} {v v' : ω} {s : Shared J}

/-- A worker was spawned. -/
def Event.isSpawning : Event J → Bool
  | spawned _ => true
  | _ => false

def Occurrence.isSpawning : Occurrence J → Bool
  | event e => e.isSpawning
  | returned _ => false

/-! ## Steps of calls -/

/-- The step tells of the worker that it spawns. -/
def Stepped.Announces {σ : Type} (r : Stepped J σ) : Prop :=
  r.events.any Event.isSpawning = r.spawned.isSome

theorem Shared.any_isSpawning_release (s : Shared J) :
    s.release.2.any Event.isSpawning = false := by
  obtain ⟨_, _, events, hrelease, htold⟩ := s.exists_release_eq
  rw [hrelease]
  rcases htold with rfl | rfl <;> rfl

theorem Filling.announces (f : Filling) : (f.step n s).Announces := by
  cases f with
  | acquire left | spawn left number =>
      simp only [step]
      split <;> rfl
  | handBack | giveUp => exact s.any_isSpawning_release
  | _ => rfl

theorem Submitting.announces (p : Submitting J) : (p.step n s).Announces := by
  cases p with
  | enroll job handles =>
      simp only [step]
      split <;> rfl
  | fill f => exact f.announces
  | _ => rfl

theorem Starting.announces (p : Starting) : (p.step n s).Announces := by
  cases p with
  | fill f => exact f.announces
  | _ => rfl

theorem Serving.announces_move {number? : Option Nat} {k h : Nat} {mv : Move J B ω}
    {r : Stepped J (Progress (Serving J B) Unit)}
    (hstep : move number? v s k h mv = some (v', r)) : r.Announces := by
  cases mv with
  | finish | panic message | act effect => cases hstep; rfl
  | _ =>
      simp only [move] at hstep
      split at hstep <;> cases hstep
      rfl

theorem Serving.announces {number? : Option Nat} {p : Serving J B}
    {r : Stepped J (Progress (Serving J B) Unit)} (h : p.step w number? n v s = some (v', r)) :
    r.Announces := by
  cases p with
  | pop | reacquire =>
      simp only [step] at h
      split at h <;> cases h <;> rfl
  | run k h b => exact announces_move h
  | submitting k h call next => cases h; exact call.announces
  | starting k h call next => cases h; exact call.announces
  | release =>
      cases h
      exact s.any_isSpawning_release
  | _ => cases h; rfl

theorem Draining.announces {p : Draining J B} {r : Stepped J (Progress (Draining J B) Stats)}
    (h : p.step w n v s = some (v', r)) : r.Announces := by
  cases p with
  | opening call => cases h; exact call.announces
  | acquireSelf =>
      simp only [step] at h
      split at h <;> cases h <;> rfl
  | serve p =>
      obtain ⟨⟨v₁, r₁⟩, hp, hr⟩ := Option.map_eq_some_iff.mp h
      cases hr
      exact Serving.announces hp
  | parked | dozing | join t rest =>
      simp only [step] at h
      split at h <;> cases h
      rfl
  | reading p => cases h; cases p <;> rfl
  | _ => cases h; rfl

theorem Dropping.announces {p : Dropping J B} {r : Stepped J (Progress (Dropping J B) Unit)}
    (h : p.step w n v s = some (v', r)) : r.Announces := by
  cases p with
  | drain p =>
      obtain ⟨⟨v₁, r₁⟩, hp, hr⟩ := Option.map_eq_some_iff.mp h
      cases hr
      exact Draining.announces hp
  | _ => cases h; rfl

theorem Call.announces {call : Call J B} {r : Stepped J (CallProgress J B)}
    (h : call.step w n v s = some (v', r)) : r.Announces := by
  cases call with
  | submitting p => cases h; exact p.announces
  | starting p => cases h; exact p.announces
  | draining p =>
      obtain ⟨⟨v₁, r₁⟩, hp, hr⟩ := Option.map_eq_some_iff.mp h
      cases hr
      exact Draining.announces hp
  | reading p => cases h; cases p <;> rfl
  | dropping p =>
      obtain ⟨⟨v₁, r₁⟩, hp, hr⟩ := Option.map_eq_some_iff.mp h
      cases hr
      exact Dropping.announces hp

/-! ## Steps of the machine -/

namespace Machine

variable {m m' : Machine J B ω} {t u : ThreadId} {canSpawn : Bool}
  {occurred : List (Occurrence J)}

/-- The thread is a worker, maybe one that has returned. -/
def IsWorker (m : Machine J B ω) (u : ThreadId) : Prop :=
  ∃ number serving, m.threads[u]? = some (.worker number serving)

/-- What a step does to the threads: none is lost, workers stay workers, and at most one worker
joins, of which the step tells. -/
structure Keeps (m m' : Machine J B ω) (occurred : List (Occurrence J)) : Prop where
  length : m'.threads.length =
    m.threads.length + (occurred.any Occurrence.isSpawning).toNat
  workers : ∀ u, m.IsWorker u → m'.IsWorker u
  newcomer : occurred.any Occurrence.isSpawning = true → m'.IsWorker m.threads.length

theorem any_isSpawning_map (events : List (Event J)) :
    (events.map Occurrence.event).any Occurrence.isSpawning = events.any Event.isSpawning := by
  rw [List.any_map]
  rfl

theorem IsWorker.set {next : Thread J B ω} (h : m.IsWorker u)
    (hnext : ∀ number p, m.threads[t]? = some (.worker number p) → ∃ p', next = .worker number p') :
    ∃ number p, (m.threads.set t next)[u]? = some (.worker number p) := by
  obtain ⟨number, p, hu⟩ := h
  by_cases hut : u = t
  · subst hut
    obtain ⟨p', rfl⟩ := hnext number p hu
    obtain ⟨hlt, -⟩ := List.getElem?_eq_some_iff.mp hu
    exact ⟨number, p', List.getElem?_set_self hlt⟩
  · exact ⟨number, p, by rw [List.getElem?_set_ne (Ne.symm hut), hu]⟩

theorem keeps_commit {σ : Type} {world : ω} {r : Stepped J σ} {next : σ → Thread J B ω}
    (hannounces : r.Announces) (hworker : ∀ number p, m.threads[t]? = some (.worker number p) →
      ∃ p', next r.next = .worker number p')
    (hoccurred : occurred.any Occurrence.isSpawning = r.events.any Event.isSpawning) :
    Keeps m (m.commit t world r next) occurred := by
  have hspawn : occurred.any Occurrence.isSpawning = r.spawned.isSome :=
    hoccurred.trans hannounces
  refine ⟨?_, ?_, ?_⟩
  · rw [hspawn, commit]
    cases r.spawned <;> simp
  · intro u hu
    obtain ⟨number, p, hset⟩ := hu.set hworker
    obtain ⟨hlt, -⟩ := List.getElem?_eq_some_iff.mp hset
    refine ⟨number, p, ?_⟩
    rw [commit, List.getElem?_append_left hlt, hset]
  · intro hspawned
    rw [hspawn] at hspawned
    obtain ⟨number, hnumber⟩ := Option.isSome_iff_exists.mp hspawned
    refine ⟨number, some .pop, ?_⟩
    rw [commit, hnumber, List.getElem?_append_right (by simp)]
    simp

theorem keeps_of_set {c c' : Client J B ω} (hth : m.threads[t]? = some (.client c))
    (hset : m'.threads = m.threads.set t (.client c'))
    (hoccurred : occurred.any Occurrence.isSpawning = false) : Keeps m m' occurred := by
  refine ⟨?_, ?_, ?_⟩
  · rw [hoccurred, hset]
    simp
  · intro u hu
    rw [IsWorker, hset]
    exact hu.set fun number p hp => by rw [hth] at hp; cases hp
  · intro hspawned
    rw [hoccurred] at hspawned
    cases hspawned

theorem enter_keeps {held left : Nat} {call : Call J B} {c : Client J B ω}
    {rest : List (Request J ω)} (hth : m.threads[t]? = some (.client c))
    (h : m.enter t held left call rest = some (m', occurred)) : Keeps m m' occurred := by
  unfold enter at h
  split at h
  · cases h
    exact keeps_of_set hth rfl rfl
  · cases h

theorem request_keeps {held : Nat} {r : Request J ω} {rest : List (Request J ω)}
    {c : Client J B ω} (hth : m.threads[t]? = some (.client c))
    (h : m.request t held rest r = some (m', occurred)) : Keeps m m' occurred := by
  cases r with
  | submit job given =>
      simp only [request] at h
      split at h
      · exact enter_keeps hth h
      · cases h
  | start | drain | stats | drop unwinding => exact enter_keeps hth h
  | close | clone =>
      simp only [request] at h
      split at h
      · cases h
        exact keeps_of_set hth rfl rfl
      · cases h
  | give receiver =>
      simp only [request] at h
      split at h
      · next other hother =>
          split at h
          · next hok =>
              cases h
              have hfirst : Keeps m (m.withClient t ⟨held - 1, none, rest⟩) [] :=
                keeps_of_set hth rfl rfl
              have hother' : (m.withClient t ⟨held - 1, none, rest⟩).threads[receiver]? =
                  some (.client other) := by
                rw [← hother]
                exact List.getElem?_set_ne hok.2.symm
              have hsecond : Keeps (m.withClient t ⟨held - 1, none, rest⟩)
                  ((m.withClient t ⟨held - 1, none, rest⟩).withClient receiver
                    { other with held := other.held + 1 }) [] :=
                keeps_of_set hother' rfl rfl
              exact ⟨hsecond.length.trans hfirst.length,
                fun u hu => hsecond.workers u (hfirst.workers u hu), by rintro ⟨⟩⟩
          · cases h
      · cases h
  | touch effect =>
      cases h
      exact keeps_of_set hth rfl rfl

theorem step_keeps (h : m.step w t canSpawn = some (m', occurred)) : Keeps m m' occurred := by
  cases stepping_of_step h with
  | @serves _ _ _ r hth hp =>
      refine keeps_commit (Serving.announces hp) ?_ (any_isSpawning_map _)
      intro number' p' hp'
      rw [hth] at hp'
      cases hp'
      cases r.next <;> exact ⟨_, rfl⟩
  | @calls _ _ _ _ r hth hp =>
      refine keeps_commit (Call.announces hp) ?_ ?_
      · intro number' p' hp'
        rw [hth] at hp'
        cases hp'
      · rw [List.any_append, any_isSpawning_map]
        cases r.next <;> simp [Progress.embed, Occurrence.isSpawning]
  | asks hth hrequest => exact request_keeps hth hrequest

/-- A thread that takes a step is one of the machine. -/
theorem lt_of_step (h : m.step w t canSpawn = some (m', occurred)) : t < m.threads.length := by
  by_contra hlt
  have hnone : m.threads[t]? = none := List.getElem?_eq_none_iff.mpr (Nat.le_of_not_lt hlt)
  unfold step at h
  rw [hnone] at h
  cases h

end Machine

end Frontier.Dispatcher
