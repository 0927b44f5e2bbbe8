/-
# Latest first — a schedule that is unlike the usual one

`settle` lets the first thread go on that can.  Here it is the last one, so a
worker overtakes whoever made work for it as soon as there is some.  Where what a
program comes to depends on the scheduler, two such schedules may show it.
-/
import Frontier.Dispatcher.Schedule

namespace Frontier.Dispatcher.Machine

variable {J B ω : Type} {w : Workload J B ω} {m m' m₀ : Machine J B ω} {t u : ThreadId}
  {occurred : List (Occurrence J)}

/-- The last of the threads before `t` that can take a step, and what its step leads to. -/
def lastStep? (w : Workload J B ω) (m : Machine J B ω) :
    ThreadId → Option (ThreadId × Machine J B ω × List (Occurrence J))
  | 0 => none
  | t + 1 =>
      match m.step w t true with
      | some (m', occurred) => some (t, m', occurred)
      | none => lastStep? w m t

/-- Takes that many steps, or as many as can be taken, and puts what happens behind what has
happened before. -/
def overtake (w : Workload J B ω) : Nat → Machine J B ω → History J → Machine J B ω × History J
  | 0, m, past => (m, past)
  | fuel + 1, m, past =>
      match lastStep? w m m.threads.length with
      | some (t, m', occurred) => overtake w fuel m' (past ++ occurred.map (t, ·))
      | none => (m, past)

theorem step_of_lastStep? (h : lastStep? w m t = some (u, m', occurred)) :
    m.step w u true = some (m', occurred) := by
  induction t with
  | zero => cases h
  | succ t ih =>
      unfold lastStep? at h
      split at h
      · next found =>
          cases h
          exact found
      · exact ih h

/-- Whatever this schedule leads to, the machine can reach. -/
theorem runs_overtake (fuel : Nat) {past : History J} (h : Runs w true m₀ past m) :
    Runs w true m₀ (overtake w fuel m past).2 (overtake w fuel m past).1 := by
  induction fuel generalizing m past with
  | zero => exact h
  | succ fuel ih =>
      unfold overtake
      split
      · next found => exact ih (h.step (fun _ => rfl) (step_of_lastStep? found))
      · exact h

end Frontier.Dispatcher.Machine
