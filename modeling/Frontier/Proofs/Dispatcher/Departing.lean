/-
# Departing workers — how many workers there can be

The limit bounds the slots that are held, and a worker gives its slot back
before it returns.  In between it looks at the queue once more, and meanwhile
another thread may take the slot and spawn a worker for it.

| a worker at work | owns a slot |
| :-- | :-- |
| up to `release` | yes |
| at `checkEmpty` or `reacquire` | no: it departs |

So there are at most as many workers as the limit allows *and* those that depart
(`Runs.workers_le`).  Those are not among the former: with one slot two workers
can be at work (`two_workers_at_work`).
-/
import Frontier.Dispatcher.Script
import Frontier.Proofs.Dispatcher.LatestFirst
import Frontier.Proofs.Dispatcher.Ownership
import Frontier.Proofs.Dispatcher.Stranding
import Mathlib

namespace Frontier.Dispatcher

variable {J B ω : Type} {w : Workload J B ω}

/-- The thread is a worker that owns a slot. -/
def Thread.ownsSlot : Thread J B ω → Bool
  | worker _ (some p) => p.ownsSlot
  | _ => false

/-- The thread is a worker that has given its slot back and looks at the queue once more. -/
def Thread.departs : Thread J B ω → Bool
  | worker _ (some .checkEmpty) | worker _ (some .reacquire) => true
  | _ => false

theorem Thread.atWork_eq (th : Thread J B ω) : th.atWork = (th.ownsSlot || th.departs) := by
  rcases th with c | ⟨number, _ | p⟩
  · rfl
  · rfl
  · cases p <;> rfl

theorem Serving.ownsSlot_le (p : Serving J B) :
    p.ownsSlot.toNat ≤ weigh Frame.slots (p.frames : Multiset (Frame J B ω)) := by
  cases p <;> simp [ownsSlot, frames, Frame.slots]

theorem Thread.ownsSlot_le (th : Thread J B ω) :
    th.ownsSlot.toNat ≤ weigh Frame.slots th.frames := by
  rcases th with c | ⟨number, _ | p⟩
  · exact Nat.zero_le _
  · exact Nat.zero_le _
  · exact p.ownsSlot_le

namespace Machine

variable {limit : Nat} {reliable : Bool} {m : Machine J B ω} {history : History J} {world : ω}
  {first : List (Request J ω)} {others : List (List (Request J ω))}

theorem countP_ownsSlot_le (threads : List (Thread J B ω)) :
    threads.countP (·.ownsSlot) ≤ weigh Frame.slots (threads.map Thread.frames).sum := by
  induction threads with
  | nil => exact Nat.zero_le _
  | cons th threads ih =>
      have hth := th.ownsSlot_le
      rw [List.countP_cons, List.map_cons, List.sum_cons, weigh_add]
      cases hslot : th.ownsSlot <;> simp_all <;> omega

theorem countP_atWork_le (threads : List (Thread J B ω)) :
    threads.countP (·.atWork) ≤ threads.countP (·.ownsSlot) + threads.countP (·.departs) := by
  induction threads with
  | nil => exact Nat.zero_le _
  | cons th threads ih =>
      rw [List.countP_cons, List.countP_cons, List.countP_cons, th.atWork_eq]
      cases th.ownsSlot <;> cases th.departs <;> simp <;> omega

/-- No more workers own a slot than the limit allows; the others that are at work depart. -/
theorem Runs.workers_le (run : Runs w reliable (ofClients limit world first others) history m) :
    m.threads.countP (·.ownsSlot) ≤ limit ∧
      m.threads.countP (·.atWork) ≤ limit + m.threads.countP (·.departs) := by
  have hslots := run.slotsOwned
  have howners : m.threads.countP (·.ownsSlot) ≤ limit := by
    refine (countP_ownsSlot_le m.threads).trans ?_
    exact hslots.owned.symm.le.trans (hslots.active_le_peak.trans hslots.peak_le_limit)
  exact ⟨howners, (countP_atWork_le m.threads).trans (Nat.add_le_add_right howners _)⟩

/-- A client lets jobs run and submits two. -/
def crowded : Machine Script.Job Script.Body Script.World :=
  ofClients 1 .empty [.start, .submit [] 0, .submit [] 0] []

/-- The first worker has given the only slot back when the client spawns another one. -/
theorem two_workers_at_work :
    ∃ history m, Runs Script.workload true crowded history m ∧ m.shared.slots.limit = 1 ∧
      m.threads.countP (·.atWork) = 2 := by
  have hrun := (runs_overtake (w := Script.workload) 21 (.refl : Runs _ true crowded [] _)).trans
    (runs_settle Script.workload 11 _)
  exact ⟨_, _, hrun, by decide, by decide⟩

end Machine

end Frontier.Dispatcher
