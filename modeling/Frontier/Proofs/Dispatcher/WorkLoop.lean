/-
# The work loop — take the head of the line, run it, append the jobs that it submits

What a loop without threads does with a line of jobs, when what a job submits is
given by a function `offspring`.

    job | line   ⟶   line | offspring job        a round: take, append .., done

A job `Breeds` its offspring if its body submits these jobs, one after another,
in whatever world it runs and whatever it is answered.  Jobs that follow a
script do, unless they close the dispatcher (`Script.breeds`).
-/
import Frontier.Dispatcher.Script
import Frontier.Proofs.Dispatcher.FirstInFirstOut
import Mathlib

namespace Frontier.Dispatcher

variable {J B ω : Type} {w : Workload J B ω}

/-! ## The loop -/

/-- What happens to a line of jobs. -/
inductive Deed (J : Type) where
  /-- The head of the line is taken, and its body begins. -/
  | take (job : J)
  | append (job : J)
  /-- The body that was running has come to its end, or has broken off. -/
  | done
  deriving DecidableEq, Repr

def Event.deed? : Event J → Option (Deed J)
  | popped a => some (.take a.job)
  | pushed a => some (.append a.job)
  | ended .. => some .done
  | _ => none

/-- What happened to the queue, in this order. -/
def Machine.deeds (history : Machine.History J) : List (Deed J) :=
  (events history).filterMap Event.deed?

/-- One round: the head is taken and run, and the jobs that it submits are appended.  What was done
comes first, then the line. -/
def serveHead (offspring : J → List J) : List (Deed J) × List J → List (Deed J) × List J
  | (done, []) => (done, [])
  | (done, job :: line) =>
    (done ++ .take job :: (offspring job).map .append ++ [.done], line ++ offspring job)

/-- What so many rounds of the loop have done with a line of jobs, and the line they leave. -/
def loop (offspring : J → List J) (jobs : List J) : Nat → List (Deed J) × List J
  | 0 => ([], jobs)
  | rounds + 1 => serveHead offspring (loop offspring jobs rounds)

section Loop

variable {offspring : J → List J} {jobs : List J}

theorem loop_succ {rounds : Nat} {done : List (Deed J)} {job : J} {line : List J}
    (h : loop offspring jobs rounds = (done, job :: line)) :
    loop offspring jobs (rounds + 1) =
      (done ++ .take job :: (offspring job).map .append ++ [.done], line ++ offspring job) := by
  rw [loop, h, serveHead]

/-- What holds of the first jobs, and of all that they submit, holds of whoever gets into line. -/
theorem forall_mem_loop {p : J → Prop} (hjobs : ∀ job ∈ jobs, p job)
    (hoffspring : ∀ job, p job → ∀ child ∈ offspring job, p child) (rounds : Nat) :
    ∀ job ∈ (loop offspring jobs rounds).2, p job := by
  induction rounds with
  | zero => exact hjobs
  | succ rounds ih =>
      rcases hloop : loop offspring jobs rounds with ⟨done, line⟩
      rw [hloop] at ih
      cases line with
      | nil =>
          rw [loop, hloop]
          exact nofun
      | cons job line =>
          rw [loop_succ hloop]
          intro child hchild
          rcases List.mem_append.mp hchild with hchild | hchild
          · exact ih child (List.mem_cons_of_mem _ hchild)
          · exact hoffspring job (ih job List.mem_cons_self) child hchild

end Loop

/-! ## What a job submits -/

/-- A move of a body that is neither its end nor a submission, and that does not close. -/
inductive Proceeds (w : Workload J B ω) : B → B → Prop
  | act {b : B} {effect : ω → ω × B} (v : ω) : w.move b = .act effect →
      Proceeds w b (effect v).2
  | wait {b next : B} {ready : ω → Bool} : w.move b = .wait ready next → Proceeds w b next
  | start {b next : B} : w.move b = .start next → Proceeds w b next
  | ask {b : B} {question : Question} {next : Answer → B} (s : Shared J) (number? : Option Nat) :
      w.move b = .ask question next → Proceeds w b (next (s.answer number? question))
  | clone {b next : B} : w.move b = .clone next → Proceeds w b next
  | drop {b next : B} : w.move b = .drop next → Proceeds w b next

/-- The body of the job can come to be `b` after the job has submitted these jobs, in whatever world
it runs and whatever it is answered. -/
inductive Along (w : Workload J B ω) (job : J) : B → List J → Prop
  | enter : Along w job (w.enter job) []
  | proceed {b b' : B} {submitted : List J} : Along w job b submitted → Proceeds w b b' →
      Along w job b' submitted
  | submit {b : B} {submitted : List J} {child : J} {given : Nat} {next : Bool → B} :
      Along w job b submitted → w.move b = .submit child given next →
      Along w job (next true) (submitted ++ [child])

/-- The next move is the last. -/
def Ends (w : Workload J B ω) (b : B) : Prop :=
  w.move b = .finish ∨ ∃ message, w.move b = .panic message

/-- What the job submits is given by `offspring`, and it does not close the dispatcher. -/
structure Breeds (w : Workload J B ω) (offspring : J → List J) (job : J) : Prop where
  submits : ∀ b submitted, Along w job b submitted → submitted <+: offspring job
  ends : ∀ b submitted, Along w job b submitted → Ends w b → submitted = offspring job
  keeps_open : ∀ b submitted next, Along w job b submitted → w.move b ≠ .close next

/-! ## Jobs that follow a script -/

namespace Script

variable {b b' : Body} {job : Job} {rest : List Action}

/-- The jobs that a script submits. -/
def offspring : Job → List Job
  | [] => []
  | .submit _ job :: rest => job :: offspring rest
  | .tree _ 0 :: rest => offspring rest
  | .tree fanout (depth + 1) :: rest =>
    List.replicate fanout [.tree fanout depth] ++ offspring rest
  | .panic _ :: _ => []
  | .log _ :: rest | .wait _ :: rest | .close :: rest | .start :: rest | .ask _ :: rest =>
    offspring rest

theorem offspring_replicate (count : Nat) (child : Job) (rest : List Action) :
    offspring (List.replicate count (.submit false child) ++ rest) =
      List.replicate count child ++ offspring rest := by
  induction count with
  | zero => rfl
  | succ count ih =>
      rw [List.replicate_succ, List.replicate_succ, List.cons_append, List.cons_append, offspring,
        ih]

/-- The jobs that a body has still to submit. -/
def Body.ahead : Body → List Job
  | next actions => offspring actions
  | handing _ job rest => job :: offspring rest
  | writing _ rest => offspring rest

/-- The actions that follow. -/
def Body.actions : Body → List Action
  | next actions => actions
  | handing _ _ rest | writing _ rest => rest

/-- The body `b'` has still to submit what `b` has, and does not close if `b` does not. -/
structure Keeps (b b' : Body) : Prop where
  ahead : b'.ahead = b.ahead
  open_ : .close ∉ b.actions → .close ∉ b'.actions

/-- What the next move of a body is to the jobs that it has still to submit. -/
def Body.Spends (b : Body) : Move Job Body World → Prop
  | .finish | .panic _ => b.ahead = []
  | .act effect => ∀ world, Keeps b (effect world).2
  | .wait _ b' | .start b' | .clone b' | .drop b' => Keeps b b'
  | .ask _ after => ∀ answer, Keeps b (after answer)
  | .submit job _ after => b.ahead = job :: (after true).ahead ∧
      (.close ∉ b.actions → .close ∉ (after true).actions)
  | .close _ => .close ∈ b.actions

theorem ahead_afterSubmit (reported : Bool) (rest : List Action) :
    (afterSubmit reported rest true).ahead = offspring rest := by
  cases reported <;> rfl

theorem actions_afterSubmit (reported : Bool) (rest : List Action) :
    (afterSubmit reported rest true).actions = rest := by
  cases reported <;> rfl

theorem Body.spends (b : Body) : b.Spends (move b) := by
  have htail {action : Action} {rest : List Action} (hopen : .close ∉ action :: rest) :
      .close ∉ rest := List.not_mem_of_not_mem_cons hopen
  unfold move
  split
  · rfl
  · exact fun _ => ⟨rfl, htail⟩
  · exact ⟨rfl, htail⟩
  · next reported job rest =>
      split
      · refine ⟨?_, ?_⟩
        · rw [ahead_afterSubmit]
          rfl
        · rw [actions_afterSubmit]
          exact htail
      · exact ⟨rfl, htail⟩
  · exact List.mem_cons_self
  · exact ⟨rfl, htail⟩
  · exact fun _ => ⟨rfl, htail⟩
  · exact fun _ => ⟨rfl, htail⟩
  · next fanout depth rest =>
      intro _
      refine ⟨offspring_replicate .., ?_⟩
      intro hopen hclose
      rcases List.mem_append.mp hclose with hclose | hclose
      · nomatch List.eq_of_mem_replicate hclose
      · exact htail hopen hclose
  · rfl
  · next reported job rest =>
      refine ⟨?_, ?_⟩
      · rw [ahead_afterSubmit]
        rfl
      · rw [actions_afterSubmit]
        exact id
  · exact fun _ => ⟨rfl, id⟩

/-- What a body does next says what becomes of the jobs that it has still to submit. -/
theorem spends_of_move {next : Move Job Body World} (h : workload.move b = next) :
    b.Spends next := h ▸ b.spends

theorem keeps_of_proceeds (h : Proceeds workload b b') : Keeps b b' := by
  cases h with
  | act v hmove => exact spends_of_move hmove v
  | wait hmove => exact spends_of_move hmove
  | start hmove => exact spends_of_move hmove
  | ask s number? hmove => exact spends_of_move hmove _
  | clone hmove => exact spends_of_move hmove
  | drop hmove => exact spends_of_move hmove

/-- What a body has submitted and what it has still to submit is what its script says. -/
theorem submitted_append_ahead {submitted : List Job} (h : Along workload job b submitted)
    (hopen : .close ∉ job) : submitted ++ b.ahead = offspring job ∧ .close ∉ b.actions := by
  induction h with
  | enter => exact ⟨rfl, hopen⟩
  | proceed _ hproceeds ih =>
      have hkeeps := keeps_of_proceeds hproceeds
      rw [hkeeps.ahead]
      exact ⟨ih.1, hkeeps.open_ ih.2⟩
  | submit _ hmove ih =>
      obtain ⟨hahead, hactions⟩ := spends_of_move hmove
      rw [List.append_assoc, List.singleton_append, ← hahead]
      exact ⟨ih.1, hactions ih.2⟩

/-- A job that follows a script submits what the script says. -/
theorem breeds (hopen : .close ∉ job) : Breeds workload offspring job where
  submits b submitted halong := ⟨b.ahead, (submitted_append_ahead halong hopen).1⟩
  ends b submitted halong hends := by
    have hahead : b.ahead = [] := by
      rcases hends with hmove | ⟨message, hmove⟩
      · exact spends_of_move hmove
      · exact spends_of_move hmove
    rw [← (submitted_append_ahead halong hopen).1, hahead, List.append_nil]
  keeps_open b submitted next halong hmove :=
    (submitted_append_ahead halong hopen).2 (spends_of_move hmove)

end Script

end Frontier.Dispatcher
