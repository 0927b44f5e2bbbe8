/-
# Operations — what the steps on the shared state read and write

One lemma for each operation that can fail or that branches.  A caller cites
these and does not unfold the operation.

| operation | succeeds if | and then |
| :-- | :-- | :-- |
| `enroll` | the gate accepts | one more job is pending, and the ticket is the next |
| `pop?` | a job is queued | the oldest one leaves |
| `acquire?` | fewer slots are held than the limit | one more is held |
| `release` | a slot is held | one less is held, and the last wakes who waits for the slots |
-/
import Frontier.Dispatcher.Shared
import Mathlib

namespace Frontier

namespace Slots

variable {s t : Slots}

theorem acquire?_eq_some_iff :
    s.acquire? = some t ↔
      s.active < s.limit ∧ t = ⟨s.limit, s.active + 1, max s.peak (s.active + 1)⟩ := by
  unfold acquire?
  split
  · next hfree => simp [hfree, eq_comm]
  · next hfull => simp [hfull]

theorem acquire?_eq_none_iff : s.acquire? = none ↔ s.limit ≤ s.active := by
  simp [acquire?]

theorem isIdle_iff : s.isIdle = true ↔ s.active = 0 := by
  simp [isIdle]

end Slots

namespace Gate

variable {g : Gate}

theorem isOpen_iff : g.isOpen = true ↔ g.lifecycle ≠ .created := by
  simp [isOpen]

theorem isAccepting_iff :
    g.isAccepting = true ↔ g.accepting = true ∧ g.lifecycle ≠ .quiescent := by
  simp [isAccepting]

@[simp] theorem pending_start : g.start.pending = g.pending := by
  unfold start
  split <;> rfl

@[simp] theorem accepting_start : g.start.accepting = g.accepting := by
  unfold start
  split <;> rfl

@[simp] theorem pending_drain : g.drain.pending = g.pending := by
  unfold drain
  split <;> rfl

@[simp] theorem accepting_drain : g.drain.accepting = g.accepting := by
  unfold drain
  split <;> rfl

/-- Quiescence is not left by starting. -/
theorem lifecycle_start_eq_quiescent_iff :
    g.start.lifecycle = .quiescent ↔ g.lifecycle = .quiescent := by
  unfold start
  split
  · next h => simp [h]
  · rfl

theorem lifecycle_start_ne_created : g.start.lifecycle ≠ .created := by
  unfold start
  split
  · simp
  · assumption

theorem lifecycle_drain_eq_quiescent_iff :
    g.drain.lifecycle = .quiescent ↔ g.lifecycle = .quiescent := by
  unfold drain
  split
  · rfl
  · next h => simp [h]

theorem lifecycle_drain_ne_created : g.drain.lifecycle ≠ .created := by
  unfold drain
  split
  · next h => simp [h]
  · simp

end Gate

namespace Dispatcher.Shared

variable {J : Type} {s s' : Shared J} {a : Admitted J}

theorem enroll_eq_ok_iff {job : J} {handles : Nat} :
    s.enroll job handles = .ok (a, s') ↔
      s.gate.isAccepting = true ∧ a = ⟨s.nextTicket, job, handles⟩ ∧
        s' = { s with gate := { s.gate with pending := s.gate.pending + 1 },
                      nextTicket := s.nextTicket + 1 } := by
  unfold enroll Gate.enroll
  cases h : s.gate.isAccepting with
  | true => simp [Bind.bind, Except.bind, Pure.pure, Except.pure, eq_comm]
  | false => simp [Bind.bind, Except.bind]

theorem enroll_eq_error {job : J} {handles : Nat} {e : Failure}
    (h : s.enroll job handles = .error e) : s.gate.isAccepting = false := by
  cases hacc : s.gate.isAccepting with
  | false => rfl
  | true =>
      rw [(enroll_eq_ok_iff (a := ⟨s.nextTicket, job, handles⟩)).mpr ⟨hacc, rfl, rfl⟩] at h
      cases h

theorem pop?_eq_some_iff :
    s.pop? = some (a, s') ↔
      ∃ rest, s.queue.items = a :: rest ∧ s' = { s with queue := ⟨rest⟩ } := by
  obtain ⟨gate, gateSleepers, ⟨_ | ⟨b, rest⟩⟩⟩ := s
  · simp [pop?, Queue.pop]
  · simp [pop?, Queue.pop, eq_comm, and_assoc]

theorem pop?_eq_none_iff : s.pop? = none ↔ s.queue.items = [] := by
  obtain ⟨gate, gateSleepers, ⟨_ | ⟨b, rest⟩⟩⟩ := s <;> simp [pop?, Queue.pop]

theorem acquire?_eq_some_iff :
    s.acquire? = some s' ↔
      s.slots.active < s.slots.limit ∧
        s' = { s with slots := ⟨s.slots.limit, s.slots.active + 1,
          max s.slots.peak (s.slots.active + 1)⟩ } := by
  simp only [acquire?, Option.map_eq_some_iff, Slots.acquire?_eq_some_iff]
  constructor
  · rintro ⟨t, ⟨hfree, rfl⟩, rfl⟩
    exact ⟨hfree, rfl⟩
  · rintro ⟨hfree, rfl⟩
    exact ⟨_, ⟨hfree, rfl⟩, rfl⟩

theorem acquire?_eq_none_iff : s.acquire? = none ↔ s.slots.limit ≤ s.slots.active := by
  simp only [acquire?, Option.map_eq_none_iff, Slots.acquire?_eq_none_iff]

/-- Giving a slot back changes the slots and who sleeps for them, and tells at most a complaint. -/
theorem exists_release_eq (s : Shared J) :
    ∃ slots slotSleepers events, s.release = ({ s with slots, slotSleepers }, events) ∧
      (events = [] ∨ events = [.overReleased]) := by
  unfold release
  split
  · exact ⟨_, _, _, rfl, .inl rfl⟩
  · exact ⟨s.slots, s.slotSleepers, _, rfl, .inr rfl⟩

/-- A slot that is held can be given back without complaint. -/
theorem release_of_pos (h : 0 < s.slots.active) :
    s.release =
      ({ s with slots := { s.slots with active := s.slots.active - 1 },
                slotSleepers := if s.slots.active = 1 then [] else s.slotSleepers }, []) := by
  obtain ⟨gate, gateSleepers, queue, ⟨limit, _ | k, peak⟩⟩ := s
  · exact absurd h (Nat.lt_irrefl 0)
  · simp [release, Slots.release?, Slots.isIdle]

/-- A complaint changes nothing. -/
theorem release_of_not_pos (h : ¬0 < s.slots.active) : s.release = (s, [.overReleased]) := by
  obtain ⟨gate, gateSleepers, queue, ⟨limit, _ | k, peak⟩⟩ := s
  · rfl
  · exact absurd (Nat.succ_pos k) h

end Dispatcher.Shared

end Frontier
