/-
# No job is stranded

A thread that pushes a job and finds every slot taken walks away.  It may: a
slot that is taken belongs to a thread that will look at the queue before it
leaves, and looks once more after it has given its slot back.

The invariant is that a queue that is not empty has an *attendant*, some frame
that looks at the queue before its call ends, unless jobs may not run yet.
It is carried by three facts.

    every slot that is held is owned by an attendant, or quiescence is declared
    who leaves the queue alone has seen it empty, shut, or every slot held
    a job is pushed, and jobs are let run, by an attendant

The first needs that spawning succeeds: a worker that cannot be spawned attends
to nothing.
-/
import Frontier.Proofs.Dispatcher.Ownership
import Frontier.Proofs.Dispatcher.Pending
import Mathlib

namespace Frontier.Dispatcher

variable {J B ω : Type} {w : Workload J B ω} {n : Neighbours} {v v' : ω} {s s' : Shared J}
  {f g : Frame J B ω} {fs gs below above rest : Multiset (Frame J B ω)} {q : Result}
  {r r' : Option Result} {told told' : List (Occurrence J)}

/-- The thread serves the queue: it looks at the queue before it returns. -/
def Frame.isServing : Frame J B ω → Bool
  | pop | run .. | submitting .. | starting .. | shed .. | countExecuted _ | countPanicked _
  | complete | release | checkEmpty | reacquire => true
  | _ => false

/-- The thread has pushed a job or let jobs run, and has not filled the slots yet. -/
def Frame.isFilling : Frame J B ω → Bool
  | checkOpen | filling _ => true
  | _ => false

/-- The frame looks at the queue before its call ends. -/
def Frame.attends : Frame J B ω → Nat
  | filling .handBack | filling .giveUp => 0
  | f => (f.isServing || f.isFilling).toNat

theorem Frame.isServing_of_attends (h : 0 < f.attends) (hf : f.isFilling = false) :
    f.isServing = true := by
  have hle : f.attends ≤ (f.isServing || f.isFilling).toNat := by
    unfold attends
    split
    · exact Nat.zero_le _
    · exact Nat.zero_le _
    · exact Nat.le_refl _
  rw [hf, Bool.or_false] at hle
  cases hserving : f.isServing with
  | true => rfl
  | false =>
      rw [hserving] at hle
      exact absurd (Nat.lt_of_lt_of_le h hle) (Nat.lt_irrefl 0)

/-- Only a thread that could not spawn a worker gets there. -/
def Frame.isAlone : Frame J B ω → Prop
  | filling .giveUp | acquireSelf | serve => True
  | _ => False

/-- A thread gets there only when jobs may run. -/
def Frame.opened : Frame J B ω → Prop
  | filling _ | acquireSelf | serve | declare => True
  | _ => False

/-- A slot is owned by a frame that looks at the queue, by one that has seen quiescence, or by one
that could spawn no worker. -/
theorem Frame.attends_of_slots (h : 0 < f.slots) : 0 < f.attends ∨ f.settled ∨ f.isAlone := by
  cases f with
  | filling p => cases p <;> simp_all [slots, attends, settled, isAlone, isServing, isFilling,
      Filling.ownsSlot]
  | _ => simp_all [slots, attends, isServing]

/-! ## A reliable system -/

/-- Where threads can be spawned, no thread is left alone with the queue. -/
theorem Turn.not_isAlone (h : Turn w n v s f v' s' fs r told) (hspawn : n.canSpawn = true)
    (hf : ¬f.isAlone) : (∀ g ∈ fs, ¬g.isAlone) ∧ ∀ x ∈ r, x ≠ .filled false := by
  cases h with
  | failToSpawn hfail => rw [hspawn] at hfail; cases hfail
  | giveUp | acquireSelf | leaveToOthers => exact absurd trivial hf
  | finish | panic | shed => exact ⟨forall_mem_ended (fun _ => nofun) nofun, nofun⟩
  | takeRegistry | join => exact ⟨forall_mem_joining (fun _ _ => nofun) nofun, nofun⟩
  | _ => simp [Frame.isAlone]

theorem Receives.not_isAlone (h : Receives q g gs r told) (hq : q ≠ .filled false) :
    (∀ f ∈ gs, ¬f.isAlone) ∧ ∀ x ∈ r, x ≠ .filled false := by
  cases h with
  | openedAlone => exact absurd rfl hq
  | _ => simp [Frame.isAlone]

/-! ## Jobs may run -/

/-- Jobs may run for ever once they may. -/
theorem Turn.not_created (h : Turn w n v s f v' s' fs r told)
    (hopen : s.gate.lifecycle ≠ .created) : s'.gate.lifecycle ≠ .created := by
  cases h with
  | takeSlot ha | reacquire ha | acquireSelf ha =>
      obtain ⟨-, rfl⟩ := Shared.acquire?_eq_some_iff.mp ha
      exact hopen
  | handBack | giveUp | release =>
      obtain ⟨_, _, _, hrelease, -⟩ := s.exists_release_eq
      rw [hrelease]
      exact hopen
  | accept he =>
      obtain ⟨-, -, rfl⟩ := Shared.enroll_eq_ok_iff.mp he
      exact hopen
  | pop hp =>
      obtain ⟨_, -, rfl⟩ := Shared.pop?_eq_some_iff.mp hp
      exact hopen
  | declare | wake => exact fun h => nomatch h
  | park => exact Gate.lifecycle_drain_ne_created
  | start => exact Gate.lifecycle_start_ne_created
  | _ => exact hopen

/-- A thread goes on to where jobs may run from there, or from having seen that they may. -/
theorem Turn.opened (h : Turn w n v s f v' s' fs r told) (hf : ¬f.opened)
    (hshut : s'.gate.lifecycle = .created) :
    (∀ g ∈ fs, ¬g.opened) ∧ ∀ x ∈ r, ∀ all, x ≠ .filled all := by
  cases h with
  | start => exact absurd hshut Gate.lifecycle_start_ne_created
  | goOnToFill hopen => exact absurd hshut (Gate.isOpen_iff.mp hopen)
  | seeOpen | seeShut | seeJobs | seeNoJobs | takeSlot | findNoSlot | seeQuiescent | seeLive
  | handBack | takeNumber | spawn | spawnLast | failToSpawn | giveUp | acquireSelf
  | leaveToOthers => exact absurd trivial hf
  | finish | panic | shed => exact ⟨forall_mem_ended (fun _ => nofun) nofun, nofun⟩
  | takeRegistry | join => exact ⟨forall_mem_joining (fun _ _ => nofun) nofun, nofun⟩
  | _ => simp [Frame.opened]

theorem Receives.not_opened (h : Receives q g gs r told) (hq : ∀ all, q ≠ .filled all)
    (hg : ¬g.opened) : (∀ f ∈ gs, ¬f.opened) ∧ ∀ x ∈ r, ∀ all, x ≠ .filled all := by
  cases h with
  | accepted | startClient | startBody | opened | openedAlone => exact absurd rfl (hq _)
  | served => exact absurd trivial hg
  | _ => simp [Frame.opened]

/-! ## Attendance -/

theorem Receives.attends_eq (h : Receives q g gs r told) : g.attends = weigh Frame.attends gs := by
  cases h <;> rfl

/-- A queue that is not empty is looked at, unless jobs may not run yet. -/
def Attended (s : Shared J) (fs : Multiset (Frame J B ω)) : Prop :=
  s.queue.items = [] ∨ s.gate.lifecycle = .created ∨ 0 < weigh Frame.attends fs

/-- What a turn is to a queue that is not empty. -/
inductive Care (s s' : Shared J) (f : Frame J B ω) (fs : Multiset (Frame J B ω)) : Prop
  /-- A frame looks at it next. -/
  | taken : 0 < weigh Frame.attends fs → Care s s' f fs
  /-- The turn had nothing to do with it. -/
  | none : f.attends = 0 → s'.queue = s.queue →
      (s.gate.lifecycle = .created → s'.gate.lifecycle = .created) → Care s s' f fs
  /-- It is empty after all. -/
  | empty : s'.queue.items = [] → Care s s' f fs
  /-- Jobs may not run yet. -/
  | shut : s'.gate.lifecycle = .created → Care s s' f fs
  /-- There is no job left. -/
  | quiescent : s'.gate.lifecycle = .quiescent → Care s s' f fs
  /-- Every slot is held by other threads. -/
  | full : s' = s → s.slots.limit ≤ s.slots.active → Care s s' f fs

theorem Turn.care (h : Turn w n v s f v' s' fs r told) (hspawn : n.canSpawn = true)
    (halone : ¬f.isAlone) (hopened : f.opened → s.gate.lifecycle ≠ .created) :
    Care s s' f fs := by
  cases h with
  | seeShut hshut | leaveBuffered hshut =>
      refine .shut ?_
      by_contra hopen
      rw [Gate.isOpen_iff.mpr hopen] at hshut
      cases hshut
  | seeNoJobs hempty => exact .empty (List.length_eq_zero_iff.mp hempty)
  | leaveEmpty hempty => exact .empty (List.isEmpty_iff.mp hempty)
  | findNoSlot hfull | leaveFull hfull =>
      exact .full rfl (Shared.acquire?_eq_none_iff.mp hfull)
  | seeQuiescent hq | findDrained hq => exact .quiescent hq
  | declare | wake => exact .quiescent rfl
  | park => exact .none rfl rfl fun hshut => absurd hshut (hopened trivial)
  | failToSpawn hfail => rw [hspawn] at hfail; cases hfail
  | giveUp | acquireSelf | leaveToOthers => exact absurd trivial halone
  | handBack =>
      obtain ⟨_, _, _, hrelease, -⟩ := s.exists_release_eq
      rw [hrelease]
      exact .none rfl rfl id
  | accept he =>
      obtain ⟨-, -, rfl⟩ := Shared.enroll_eq_ok_iff.mp he
      exact .none rfl rfl id
  | seeOpen | seeJobs | takeSlot | seeLive | takeNumber | spawn | spawnLast | push | goOnToFill
  | start | pop | popNothing | act | wait | submit | startInside | closeInside | ask | cloneInside
  | dropInside | countFinished | countBroken | countPanicked | complete | release | lookAgain
  | reacquire =>
      refine .taken ?_
      simp [Frame.attends, Frame.isServing, Frame.isFilling]
  | finish | panic | shed =>
      refine .taken ?_
      rw [weigh_ended (x := 1) (fun _ => rfl) rfl]
      exact Nat.one_pos
  | _ => exact .none rfl rfl id

/-! ## The invariant -/

/-- No queue is left alone on a system where threads can be spawned. -/
structure Tended (limit : Nat) (s : Shared J) (fs : Multiset (Frame J B ω)) : Prop where
  slots : SlotsOwned limit s fs
  jobs : Accounted s fs
  alone : ∀ f ∈ fs, ¬f.isAlone
  opened : ∀ f ∈ fs, f.opened → s.gate.lifecycle ≠ .created
  attended : Attended s fs

/-- Where every slot is held, the queue is looked at or empty. -/
theorem attended_of_full {limit : Nat} (hlimit : 0 < limit) (hslots : SlotsOwned limit s fs)
    (hjobs : Accounted s fs) (halone : ∀ f ∈ fs, ¬f.isAlone)
    (hfull : s.slots.limit ≤ s.slots.active) : Attended s fs := by
  have hheld : 0 < weigh Frame.slots fs := by
    have := hslots.owned
    have := hslots.limit_eq
    omega
  obtain ⟨f, hf, hslot⟩ := exists_of_weigh_pos hheld
  rcases Frame.attends_of_slots hslot with hattends | hsettled | hnone
  · refine .inr (.inr ?_)
    obtain ⟨rest, rfl⟩ := Multiset.exists_cons_of_mem hf
    rw [weigh_cons]
    omega
  · exact .inl (hjobs.queue_of_quiescent (hjobs.quiescent_of_settled f hf hsettled))
  · exact absurd hnone (halone f hf)

theorem Tended.turn {limit : Nat} (h : Tended limit s (f ::ₘ (below + rest))) (hlimit : 0 < limit)
    (hspawn : n.canSpawn = true) (hturn : Turn w n v s f v' s' fs r told)
    (hpasses : Passes r below above r' told') : Tended limit s' (fs + (above + rest)) := by
  have hslots := (h.slots.turn_spec hturn hpasses).1
  have hjobs := h.jobs.turn hturn hpasses
  have hf : f ∈ f ::ₘ (below + rest) := Multiset.mem_cons_self ..
  have halone : ∀ g ∈ fs + (above + rest), ¬g.isAlone := by
    obtain ⟨hfs, hr⟩ := hturn.not_isAlone hspawn (h.alone f hf)
    exact hpasses.forall_mem_after (fun hg hq _ => hg.not_isAlone hq) hfs hr h.alone
  refine ⟨hslots, hjobs, halone, ?_, ?_⟩
  · intro g hg hopened hshut
    -- jobs could not run before either, so no frame was where they may
    have hnone : ∀ x ∈ f ::ₘ (below + rest), ¬x.opened := by
      intro x hx hxo
      exact hturn.not_created (h.opened x hx hxo) hshut
    obtain ⟨hfs, hr⟩ := hturn.opened (hnone f hf) hshut
    exact hpasses.forall_mem_after (fun hg hq hno => hg.not_opened hq hno) hfs hr hnone g hg
      hopened
  · have hpassed := hpasses.weigh_eq Receives.attends_eq
    cases hturn.care hspawn (h.alone f hf) (h.opened f hf) with
    | taken hpos =>
        refine .inr (.inr ?_)
        rw [weigh_add]
        omega
    | none hattends hqueue hcreated =>
        rcases h.attended with hempty | hshut | hpos
        · exact .inl (by rw [hqueue, hempty])
        · exact .inr (.inl (hcreated hshut))
        · refine .inr (.inr ?_)
          rw [weigh_cons, weigh_add, hattends] at hpos
          rw [weigh_add, weigh_add]
          omega
    | empty hempty => exact .inl hempty
    | shut hshut => exact .inr (.inl hshut)
    | quiescent hq => exact .inl (hjobs.queue_of_quiescent hq)
    | full hs hfull =>
        subst hs
        exact attended_of_full hlimit hslots hjobs halone hfull

/-! ## Threads that serve the queue -/

theorem Submitting.not_isServing (p : Submitting J) :
    ∀ f ∈ (p.frames : Multiset (Frame J B ω)), f.isServing = false := by
  cases p <;> simp [frames, Frame.isServing]

theorem Starting.not_isServing (p : Starting) :
    ∀ f ∈ (p.frames : Multiset (Frame J B ω)), f.isServing = false := by
  cases p <;> simp [frames, Frame.isServing]

/-- A thread that drains serves the queue only when it is left alone with it. -/
theorem Draining.serve_mem_frames (p : Draining J B) (hf : f ∈ p.frames)
    (hserving : f.isServing = true) : .serve ∈ (p.frames : Multiset (Frame J B ω)) := by
  cases p with
  | serve point => simp [frames]
  | opening call =>
      rw [frames, Multiset.mem_add, Multiset.mem_singleton] at hf
      rcases hf with hf | rfl
      · rw [call.not_isServing f hf] at hserving
        cases hserving
      · cases hserving
  | _ =>
      rw [frames, Multiset.mem_singleton] at hf
      subst hf
      cases hserving

theorem Dropping.serve_mem_frames (p : Dropping J B) (hf : f ∈ p.frames)
    (hserving : f.isServing = true) : .serve ∈ (p.frames : Multiset (Frame J B ω)) := by
  cases p with
  | drain point =>
      rw [frames, Multiset.mem_add, Multiset.mem_singleton] at hf ⊢
      rcases hf with hf | rfl
      · exact .inl (point.serve_mem_frames hf hserving)
      · cases hserving
  | _ =>
      rw [frames, Multiset.mem_singleton] at hf
      subst hf
      cases hserving

theorem Call.serve_mem_frames (c : Call J B) (hf : f ∈ c.frames)
    (hserving : f.isServing = true) : .serve ∈ (c.frames : Multiset (Frame J B ω)) := by
  cases c with
  | submitting p =>
      rw [p.not_isServing f hf] at hserving
      cases hserving
  | starting p =>
      rw [p.not_isServing f hf] at hserving
      cases hserving
  | draining p => exact p.serve_mem_frames hf hserving
  | reading p =>
      rw [Multiset.mem_singleton.mp hf] at hserving
      cases hserving
  | dropping p => exact p.serve_mem_frames hf hserving

/-- The thread is a worker that has not returned. -/
def Thread.atWork : Thread J B ω → Bool
  | worker _ (some _) => true
  | _ => false

/-- The queue is served by workers, and by clients that are left alone with it. -/
theorem Thread.serve_mem_frames {th : Thread J B ω} (hf : f ∈ th.frames)
    (hserving : f.isServing = true) (hwork : th.atWork = false) :
    .serve ∈ th.frames := by
  obtain ⟨held, call, script⟩ | ⟨number, _ | p⟩ := th
  · rw [frames_client, Multiset.mem_add, Multiset.mem_singleton] at hf ⊢
    rcases hf with hf | rfl
    · cases call with
      | none => exact absurd hf (Multiset.notMem_zero f)
      | some call => exact .inl (call.serve_mem_frames hf hserving)
    · cases hserving
  · exact absurd hf (Multiset.notMem_zero f)
  · cases hwork

namespace Machine

variable {limit : Nat} {world : ω} {first : List (Request J ω)}
  {others : List (List (Request J ω))} {m : Machine J B ω} {history : History J}

theorem tended_ofClients :
    Tended limit (ofClients limit world first others : Machine J B ω).shared
      (ofClients limit world first others : Machine J B ω).frames where
  slots := slotsOwned_ofClients limit world first others
  jobs := accounted_ofClients
  alone f hf := by
    obtain ⟨_, _, rfl⟩ := exists_client_of_mem_ofClients hf
    exact id
  opened f hf hopened := by
    obtain ⟨_, _, rfl⟩ := exists_client_of_mem_ofClients hf
    exact absurd hopened id
  attended := .inl rfl

theorem Runs.tended (run : Runs w true (ofClients limit world first others) history m)
    (hlimit : 0 < limit) : Tended limit m.shared m.frames :=
  run.frames_induction (P := fun _ s fs _ => Tended limit s fs) tended_ofClients
    fun hspawn hturn hpasses _ h => h.turn hlimit (hspawn rfl) hturn hpasses

/-- No job is stranded: once jobs may run, the queue is empty whenever no thread is about to fill
the slots and every worker has returned. -/
theorem Runs.no_job_stranded (run : Runs w true (ofClients limit world first others) history m)
    (hlimit : 0 < limit) (hopen : m.shared.gate.lifecycle ≠ .created)
    (hfilling : ∀ f ∈ m.frames, f.isFilling = false)
    (hworkers : ∀ th ∈ m.threads, th.atWork = false) :
    m.shared.queue.items = [] := by
  have h := run.tended hlimit
  rcases h.attended with hempty | hshut | hpos
  · exact hempty
  · exact absurd hshut hopen
  · obtain ⟨f, hf, hattends⟩ := exists_of_weigh_pos hpos
    have hserving := Frame.isServing_of_attends hattends (hfilling f hf)
    obtain ⟨th, hth, hfth⟩ := mem_frames.mp hf
    have hserve := Thread.serve_mem_frames hfth hserving (hworkers th hth)
    exact absurd trivial (h.alone .serve (mem_frames.mpr ⟨th, hth, hserve⟩))

/-- Two jobs for one slot: the worker that runs the first finds the second. -/
def chained : Machine Script.Job Script.Body Script.World :=
  ofClients 1 .empty [.submit [.log "first"] 0, .start, .submit [.log "second"] 0] []

theorem no_job_stranded_chained :
    ∃ history m, Runs Script.workload true chained history m ∧
      m.shared.gate.lifecycle = .admitting ∧ m.world.log = ["first", "second"] ∧
      m.shared.queue.items = [] := by
  have hrun := runs_settle Script.workload 60 chained
  have hstage : (chained.settle Script.workload 60).1.shared.gate.lifecycle = .admitting := by
    decide
  refine ⟨_, _, hrun, hstage, by decide, Runs.no_job_stranded hrun (by decide) ?_ ?_ ?_⟩
  · rw [hstage]
    decide
  · decide
  · decide

end Machine

end Frontier.Dispatcher
