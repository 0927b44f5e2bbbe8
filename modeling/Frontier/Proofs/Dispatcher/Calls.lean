/-
# Calls — a submission under way has a caller

Cutting threads into frames forgets which frame waits for which.  For
submissions the numbers are enough: there are as many frames that are in the
middle of one as there are frames that wait for one, a body or a client.
-/
import Frontier.Proofs.Dispatcher.Inversion
import Mathlib

namespace Frontier.Dispatcher

variable {J B ω : Type} {w : Workload J B ω} {n : Neighbours} {v v' : ω} {s s' : Shared J}
  {f g : Frame J B ω} {fs gs below above rest : Multiset (Frame J B ω)} {q : Result}
  {r r' : Option Result} {told told' : List (Occurrence J)}

/-- The frame is in the middle of a submission. -/
def Frame.submits : Frame J B ω → Nat
  | enroll .. | discard _ | count _ | push _ | checkOpen | accepted => 1
  | _ => 0

/-- The frame waits for a submission. -/
def Frame.awaits : Frame J B ω → Nat
  | submitting .. | client _ (some .submit) _ => 1
  | _ => 0

/-- The submission has returned. -/
def Result.ofSubmission : Option Result → Nat
  | some (.submitted _) => 1
  | _ => 0

theorem Turn.calls (h : Turn w n v s f v' s' fs r told) :
    f.submits + weigh Frame.awaits fs =
      f.awaits + weigh Frame.submits fs + Result.ofSubmission r := by
  cases h with
  | finish | panic | shed =>
      rw [weigh_ended (x := 0) (fun _ => rfl) rfl, weigh_ended (x := 0) (fun _ => rfl) rfl]
      rfl
  | takeRegistry | join =>
      rw [weigh_joining (x := 0) (fun _ _ => rfl) rfl, weigh_joining (x := 0) (fun _ _ => rfl) rfl]
      rfl
  | _ => simp [Frame.submits, Frame.awaits, Result.ofSubmission]

theorem Receives.calls (h : Receives q g gs r told) :
    Result.ofSubmission (some q) + g.submits + weigh Frame.awaits gs =
      g.awaits + weigh Frame.submits gs + Result.ofSubmission r := by
  cases h with
  | handle =>
      rename_i errand _
      rcases errand with _ | _ | _ <;>
        simp [Frame.submits, Frame.awaits, Result.ofSubmission]
  | _ => simp [Frame.submits, Frame.awaits, Result.ofSubmission]

theorem Passes.calls (h : Passes r below above r' told) :
    Result.ofSubmission r + weigh Frame.submits below + weigh Frame.awaits above =
      weigh Frame.awaits below + weigh Frame.submits above + Result.ofSubmission r' := by
  induction h with
  | refl => simp
  | receive _ hg ih =>
      have hreceives := hg.calls
      rw [weigh_cons, weigh_cons, weigh_add, weigh_add]
      omega

namespace Machine

variable {limit : Nat} {world : ω} {first : List (Request J ω)}
  {others : List (List (Request J ω))} {reliable : Bool} {m : Machine J B ω} {history : History J}

/-- As many frames are in the middle of a submission as wait for one. -/
theorem Runs.calls (run : Runs w reliable (ofClients limit world first others) history m) :
    weigh Frame.submits m.frames = weigh Frame.awaits m.frames := by
  refine run.frames_induction
    (P := fun _ _ fs _ => weigh Frame.submits fs = weigh Frame.awaits fs) ?_ ?_
  · rw [weigh_ofClients fun _ _ => rfl, weigh_ofClients fun _ _ => rfl]
  · intro n v s f v' s' fs below above rest r r' told told' past _ hturn hpasses hserved h
    have hnone : Result.ofSubmission r' = 0 := by
      cases r' with
      | none => rfl
      | some q => rw [hserved q rfl]; rfl
    have hcalls := hturn.calls
    have hpassed := hpasses.calls
    rw [weigh_cons, weigh_cons, weigh_add, weigh_add] at h
    rw [weigh_add, weigh_add, weigh_add, weigh_add]
    omega

/-- A submission under way is that of a body or of a client. -/
theorem Runs.exists_awaits
    (run : Runs w reliable (ofClients limit world first others) history m) {f : Frame J B ω}
    (hf : f ∈ m.frames) (hsubmits : f.submits = 1) :
    ∃ g ∈ m.frames, (∃ k h next, g = .submitting k h next) ∨
      ∃ held script, g = .client held (some .submit) script := by
  have hpos : 0 < weigh Frame.awaits m.frames := by
    obtain ⟨others, hall⟩ := Multiset.exists_cons_of_mem hf
    rw [← run.calls, hall, weigh_cons]
    omega
  obtain ⟨g, hg, hawaits⟩ := exists_of_weigh_pos hpos
  refine ⟨g, hg, ?_⟩
  unfold Frame.awaits at hawaits
  split at hawaits
  · exact .inl ⟨_, _, _, rfl⟩
  · exact .inr ⟨_, _, rfl⟩
  · cases hawaits

end Machine

end Frontier.Dispatcher
