import Frontier.Dispatcher.Machine

/-!
# One schedule

A scheduler that always lets the first thread go on that can, until none can.  Every state it reaches
is one that the machine can reach.
-/
namespace Frontier.Dispatcher.Machine

variable {J B ω : Type}

/-- The first of the threads from `t` on that can take a step, and what its step leads to. -/
def firstStep? (w : Workload J B ω) (m : Machine J B ω) (t : ThreadId) :
    List (Thread J B ω) → Option (ThreadId × Machine J B ω × List (Occurrence J))
  | [] => none
  | _ :: later =>
    match m.step w t true with
    | some (m', occurred) => some (t, m', occurred)
    | none => firstStep? w m (t + 1) later

/-- Takes that many steps, or as many as can be taken.  What happens comes in front of what has
happened before, latest first. -/
def advance (w : Workload J B ω) : Nat → Machine J B ω → History J → Machine J B ω × History J
  | 0, m, past => (m, past)
  | fuel + 1, m, past =>
    match firstStep? w m 0 m.threads with
    | some (t, m', occurred) => advance w fuel m' ((occurred.map (t, ·)).reverse ++ past)
    | none => (m, past)

/-- A step that was found is one that the machine can take. -/
theorem step_of_firstStep? {w : Workload J B ω} {m m' : Machine J B ω} {t u : ThreadId}
    {threads : List (Thread J B ω)} {occurred : List (Occurrence J)}
    (h : firstStep? w m t threads = some (u, m', occurred)) :
    m.step w u true = some (m', occurred) := by
  induction threads generalizing t with
  | nil => cases h
  | cons _ later ih =>
    unfold firstStep? at h
    split at h
    · next found => cases h; exact found
    · exact ih h

/-- Whatever a schedule leads to, the machine can reach. -/
theorem runs_advance {w : Workload J B ω} {m₀ : Machine J B ω} (fuel : Nat) {m : Machine J B ω}
    {past : History J} (h : Runs w true m₀ past.reverse m) :
    Runs w true m₀ (advance w fuel m past).2.reverse (advance w fuel m past).1 := by
  induction fuel generalizing m past with
  | zero => exact h
  | succ fuel ih =>
    unfold advance
    split
    · next found =>
      apply ih
      have := h.step (fun _ => rfl) (step_of_firstStep? found)
      simpa using this
    · exact h

/-- Takes that many steps, or as many as can be taken, and tells what happened. -/
def settle (w : Workload J B ω) (fuel : Nat) (m : Machine J B ω) : Machine J B ω × History J :=
  let (m', past) := advance w fuel m []
  (m', past.reverse)

theorem runs_settle (w : Workload J B ω) (fuel : Nat) (m : Machine J B ω) :
    Runs w true m (m.settle w fuel).2 (m.settle w fuel).1 := by
  simpa [settle] using @runs_advance J B ω w m fuel m [] .refl

end Frontier.Dispatcher.Machine
