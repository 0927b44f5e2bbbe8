/-
# Closing — a gate that was shut stays shut

Whoever closes the dispatcher, a client or a body, shuts the gate.  Nothing
opens it again, so from then on no job is accepted.

    `Machine.shuts_of_step`    the step of a body that closes shuts the gate
    `Machine.Runs.shut`        behind a shut gate nothing is accepted any more
-/
import Frontier.Proofs.Dispatcher.Completion
import Mathlib

namespace Frontier.Dispatcher

variable {J B ω : Type} {w : Workload J B ω} {n : Neighbours} {v v' : ω} {s s' : Shared J}
  {f : Frame J B ω} {fs : Multiset (Frame J B ω)} {r : Option Result}
  {told : List (Occurrence J)}

/-- A gate that is shut is not opened by a turn, and lets nothing in. -/
theorem Turn.shut (h : Turn w n v s f v' s' fs r told) (hshut : s.gate.accepting = false) :
    s'.gate.accepting = false ∧
      told.filterMap (fun o => o.event?.bind Event.accepted?) = [] := by
  cases h with
  | takeSlot ha | reacquire ha | acquireSelf ha =>
      obtain ⟨-, rfl⟩ := Shared.acquire?_eq_some_iff.mp ha
      exact ⟨hshut, rfl⟩
  | handBack | giveUp | release =>
      obtain ⟨_, _, events, hrelease, htold⟩ := s.exists_release_eq
      rw [hrelease]
      rcases htold with rfl | rfl <;> exact ⟨hshut, rfl⟩
  | accept he =>
      obtain ⟨hacc, -, -⟩ := Shared.enroll_eq_ok_iff.mp he
      rw [(Gate.isAccepting_iff.mp hacc).1] at hshut
      cases hshut
  | pop hp =>
      obtain ⟨_, -, rfl⟩ := Shared.pop?_eq_some_iff.mp hp
      exact ⟨hshut, rfl⟩
  | declare | wake | closeInside | askClose => exact ⟨rfl, rfl⟩
  | park => exact ⟨Gate.accepting_drain.trans hshut, rfl⟩
  | start => exact ⟨Gate.accepting_start.trans hshut, rfl⟩
  | _ => exact ⟨hshut, rfl⟩

/-- The move of a body that closes the dispatcher shuts the gate. -/
theorem Serving.shuts_of_close {number? : Option Nat} {k h : Nat} {b next : B}
    {x : ω × Stepped J (Progress (Serving J B) Unit)} (hclose : w.move b = .close next)
    (hstep : (Serving.run k h b).step w number? n v s = some x) :
    x.2.shared.gate.accepting = false := by
  rw [Serving.step, hclose, Serving.move] at hstep
  split at hstep
  · cases hstep
    rfl
  · cases hstep

/-- A thread in the middle of a body is a worker, or it serves the queue while it drains. -/
theorem Thread.eq_of_run_mem {th : Thread J B ω} {k h : Nat} {b : B}
    (hf : .run k h b ∈ th.frames) :
    (∃ number, th = .worker number (some (.run k h b))) ∨
      (∃ held script, th = .client ⟨held, some (.draining (.serve (.run k h b))), script⟩) ∨
        ∃ held script,
          th = .client ⟨held, some (.dropping (.drain (.serve (.run k h b)))), script⟩ := by
  have hsubmitting (p : Submitting J) : (.run k h b : Frame J B ω) ∉ p.frames := by
    cases p <;> simp [Submitting.frames]
  have hstarting (p : Starting) : (.run k h b : Frame J B ω) ∉ p.frames := by
    cases p <;> simp [Starting.frames]
  have hserving {p : Serving J B} (hp : (.run k h b : Frame J B ω) ∈ p.frames) :
      p = .run k h b := by
    cases p <;> simp_all [Serving.frames]
  have hdraining {p : Draining J B} (hp : (.run k h b : Frame J B ω) ∈ p.frames) :
      p = .serve (.run k h b) := by
    cases p with
    | serve p =>
        obtain rfl := hserving (p := p) (by simpa [Draining.frames] using hp)
        rfl
    | opening p => simp [Draining.frames, hstarting] at hp
    | _ => simp [Draining.frames] at hp
  rcases th with ⟨held, _ | call, script⟩ | ⟨number, _ | p⟩
  · simp [Thread.frames] at hf
  · cases call with
    | submitting p => simp [Thread.frames, Call.frames, hsubmitting] at hf
    | starting p => simp [Thread.frames, Call.frames, hstarting] at hf
    | reading p => simp [Thread.frames, Call.frames] at hf
    | draining p =>
        obtain rfl := hdraining (by simpa [Thread.frames, Call.frames] using hf)
        exact .inr (.inl ⟨held, script, rfl⟩)
    | dropping p =>
        cases p with
        | drain p =>
            obtain rfl := hdraining (by
              simpa [Thread.frames, Call.frames, Dropping.frames] using hf)
            exact .inr (.inr ⟨held, script, rfl⟩)
        | _ => simp [Thread.frames, Call.frames, Dropping.frames] at hf
  · simp [Thread.frames] at hf
  · obtain rfl := hserving (by simpa [Thread.frames] using hf)
    exact .inl ⟨number, rfl⟩

namespace Machine

variable {reliable : Bool} {m m' : Machine J B ω} {history : History J} {t : ThreadId}
  {canSpawn : Bool} {occurred : List (Occurrence J)}

/-- When a thread in the middle of a body that closes the dispatcher takes its step, the gate is
shut. -/
theorem shuts_of_step {th : Thread J B ω} {k h : Nat} {b next : B}
    (hth : m.threads[t]? = some th) (hf : .run k h b ∈ th.frames)
    (hclose : w.move b = .close next) (hstep : m.step w t canSpawn = some (m', occurred)) :
    m'.shared.gate.accepting = false := by
  unfold step at hstep
  rw [hth] at hstep
  obtain ⟨number, rfl⟩ | ⟨held, script, rfl⟩ | ⟨held, script, rfl⟩ := Thread.eq_of_run_mem hf
  · simp only [Option.map_eq_some_iff] at hstep
    obtain ⟨x, hx, hm'⟩ := hstep
    cases hm'
    exact Serving.shuts_of_close hclose hx
  · simp only [Call.step, Draining.step, Option.map_map, Option.map_eq_some_iff] at hstep
    obtain ⟨x, hx, hm'⟩ := hstep
    cases hm'
    exact Serving.shuts_of_close hclose hx
  · simp only [Call.step, Dropping.step, Draining.step, Option.map_map,
      Option.map_eq_some_iff] at hstep
    obtain ⟨x, hx, hm'⟩ := hstep
    cases hm'
    exact Serving.shuts_of_close hclose hx

/-- Behind a gate that was shut no job is accepted. -/
theorem Runs.shut (run : Runs w reliable m history m') (hshut : m.shared.gate.accepting = false) :
    m'.shared.gate.accepting = false ∧ accepted history = [] := by
  refine run.frames_induction
    (P := fun _ s _ past => s.gate.accepting = false ∧ accepted past = []) ⟨hshut, rfl⟩ ?_
  intro n v s f v' s' fs below above rest r r' told told' past _ hturn hpasses _ h
  obtain ⟨hshut, hnone⟩ := h
  obtain ⟨hshut', hnone'⟩ := hturn.shut hshut
  refine ⟨hshut', ?_⟩
  rw [accepted_append_map, List.filterMap_append, hpasses.filterMap_event, hnone, hnone']
  rfl

end Machine

end Frontier.Dispatcher
