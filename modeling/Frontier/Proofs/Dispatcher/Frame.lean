/-
# Frames — a machine as the multiset of what its threads are in the middle of

A call nests in a call: a draining thread serves the queue, the job that it
serves submits another one, and that submission fills slots.  A thread is
therefore cut into *frames*, one for each call that has not returned, and the
machine into the multiset `Machine.frames` of all of them.

| thread | its frames |
| :-- | :-- |
| a client without a call | `client` |
| a client in a call | those of the call, and `client` |
| a worker at work | those of `Serving` |
| a worker that has returned | none |

Filling is the last thing that a submission or a start does, so a start keeps
no frame of its own while it fills; a submission keeps `accepted`, because what
it returns is not what filling returns.
-/
import Frontier.Dispatcher.Machine
import Mathlib

namespace Frontier.Dispatcher

/-- What a client calls the dispatcher for. -/
inductive Errand where
  | submit
  | start
  | drain
  | stats
  | drop
  deriving DecidableEq, Repr

/-- What a thread is in the middle of, apart from the calls that it has made from there. -/
inductive Frame (J B ω : Type) where
  | client (held : Nat) (errand : Option Errand) (script : List (Request J ω))
  | filling (point : Filling)
  | enroll (job : J) (handles : Nat)
  | discard (left : Nat)
  | count (job : Admitted J)
  | push (job : Admitted J)
  | checkOpen
  /-- The job of a submission was accepted and slots are being filled. -/
  | accepted
  | start
  | pop
  | run (ticket handles : Nat) (body : B)
  | submitting (ticket handles : Nat) (next : Bool → B)
  | starting (ticket handles : Nat) (next : B)
  | shed (left : Nat) (ending : Ending)
  | countExecuted (ending : Ending)
  | countPanicked (message : String)
  | complete
  | release
  | checkEmpty
  | reacquire
  | opening
  | acquireSelf
  | serve
  | declare
  | parked
  | checkIdle
  | dozing
  | takeRegistry
  | join (worker : ThreadId) (others : List ThreadId)
  /-- A drain reads the counters. -/
  | concluding (point : Reading)
  | reading (point : Reading)
  | decrement (unwinding : Bool)
  | checkLifecycle
  | reclaim
  | drain
  | forget

variable {J B ω : Type}

/-! ## The frames of a call -/

def Submitting.frames : Submitting J → Multiset (Frame J B ω)
  | enroll job handles => {.enroll job handles}
  | discard left => {.discard left}
  | count a => {.count a}
  | push a => {.push a}
  | checkOpen => {.checkOpen}
  | fill f => {.filling f} + {.accepted}

def Starting.frames : Starting → Multiset (Frame J B ω)
  | start => {.start}
  | fill f => {.filling f}

def Serving.frames : Serving J B → Multiset (Frame J B ω)
  | pop => {.pop}
  | run ticket handles body => {.run ticket handles body}
  | submitting ticket handles call next => call.frames + {.submitting ticket handles next}
  | starting ticket handles call next => call.frames + {.starting ticket handles next}
  | shed left ending => {.shed left ending}
  | countExecuted ending => {.countExecuted ending}
  | countPanicked message => {.countPanicked message}
  | complete => {.complete}
  | release => {.release}
  | checkEmpty => {.checkEmpty}
  | reacquire => {.reacquire}

def Draining.frames : Draining J B → Multiset (Frame J B ω)
  | opening call => call.frames + {.opening}
  | acquireSelf => {.acquireSelf}
  | serve point => point.frames + {.serve}
  | declare => {.declare}
  | parked => {.parked}
  | checkIdle => {.checkIdle}
  | dozing => {.dozing}
  | takeRegistry => {.takeRegistry}
  | join t rest => {.join t rest}
  | reading point => {.concluding point}

def Dropping.frames : Dropping J B → Multiset (Frame J B ω)
  | decrement unwinding => {.decrement unwinding}
  | checkLifecycle => {.checkLifecycle}
  | reclaim => {.reclaim}
  | drain point => point.frames + {.drain}
  | forget => {.forget}

def Call.frames : Call J B → Multiset (Frame J B ω)
  | submitting p => p.frames
  | starting p => p.frames
  | draining p => p.frames
  | reading p => {.reading p}
  | dropping p => p.frames

/-- What the call was made for. -/
def Call.errand : Call J B → Errand
  | submitting _ => .submit
  | starting _ => .start
  | draining _ => .drain
  | reading _ => .stats
  | dropping _ => .drop

/-! ## The frames of a machine -/

def Thread.frames : Thread J B ω → Multiset (Frame J B ω)
  | client ⟨held, none, script⟩ => {.client held none script}
  | client ⟨held, some call, script⟩ =>
      call.frames + {.client held (some call.errand) script}
  | worker _ (some p) => p.frames
  | worker _ none => 0

theorem Thread.frames_client (held : Nat) (call : Option (Call J B))
    (script : List (Request J ω)) :
    (client ⟨held, call, script⟩ : Thread J B ω).frames =
      call.elim 0 Call.frames + {.client held (call.map Call.errand) script} := by
  cases call with
  | none => exact (zero_add _).symm
  | some call => rfl

/-- The frames of the worker that was spawned, if one was. -/
def newcomers (spawned : Option Nat) : Multiset (Frame J B ω) :=
  (spawned.toList.map fun _ => {.pop}).sum

@[simp] theorem newcomers_none : (newcomers none : Multiset (Frame J B ω)) = 0 := rfl

@[simp] theorem newcomers_some (number : Nat) :
    (newcomers (some number) : Multiset (Frame J B ω)) = {.pop} := rfl

namespace Machine

/-- What the threads of a machine are in the middle of. -/
def frames (m : Machine J B ω) : Multiset (Frame J B ω) :=
  (m.threads.map Thread.frames).sum

/-- The machine in which a thread has ended. -/
def without (m : Machine J B ω) (t : ThreadId) : Machine J B ω :=
  { m with threads := m.threads.set t (.worker 0 none) }

theorem frames_of_getElem? {m : Machine J B ω} {t : ThreadId} {th : Thread J B ω}
    (h : m.threads[t]? = some th) : m.frames = th.frames + (m.without t).frames := by
  obtain ⟨hlt, hget⟩ := List.getElem?_eq_some_iff.mp h
  have hsplit : m.threads = m.threads.take t ++ th :: m.threads.drop (t + 1) := by
    rw [← hget, List.getElem_cons_drop hlt, List.take_append_drop]
  have hset := List.set_eq_take_cons_drop (Thread.worker 0 none : Thread J B ω) hlt
  simp only [frames, without]
  rw [hset]
  conv_lhs => rw [hsplit]
  simp only [List.map_append, List.sum_append, List.map_cons, List.sum_cons, Thread.frames]
  rw [add_left_comm, zero_add]

/-- The frames of a machine in which a thread was replaced. -/
theorem frames_set {m m' : Machine J B ω} {t : ThreadId} {th next : Thread J B ω}
    (h : m.threads[t]? = some th) (hset : m'.threads = m.threads.set t next) :
    m'.frames = next.frames + (m.without t).frames := by
  obtain ⟨hlt, -⟩ := List.getElem?_eq_some_iff.mp h
  have hnext : m'.threads[t]? = some next := by
    rw [hset, List.getElem?_set_self hlt]
  rw [frames_of_getElem? hnext]
  simp only [without, frames, hset, List.set_set]

theorem frames_commit {σ : Type} {m : Machine J B ω} {t : ThreadId} {th : Thread J B ω}
    (h : m.threads[t]? = some th) (world : ω) (r : Stepped J σ) (next : σ → Thread J B ω) :
    (m.commit t world r next).frames =
      (next r.next).frames + newcomers r.spawned + (m.without t).frames := by
  have hold : ({ m with threads := m.threads.set t (next r.next) } : Machine J B ω).frames =
      (next r.next).frames + (m.without t).frames := frames_set h rfl
  have hnew : ((r.spawned.toList.map fun k => (Thread.worker k (some .pop) : Thread J B ω)).map
      Thread.frames).sum = newcomers r.spawned := by
    cases r.spawned <;> rfl
  simp only [frames, commit, List.map_append, List.sum_append] at hold ⊢
  rw [hold, hnew, add_right_comm]

theorem frames_withClient {m : Machine J B ω} {t : ThreadId} {th : Thread J B ω}
    (h : m.threads[t]? = some th) (c : Client J B ω) :
    (m.withClient t c).frames = (Thread.client c).frames + (m.without t).frames :=
  frames_set h rfl

theorem getElem?_without {m : Machine J B ω} {t u : ThreadId} (h : u ≠ t) :
    (m.without t).threads[u]? = m.threads[u]? :=
  List.getElem?_set_ne h.symm

/-- A frame of a machine is a frame of one of its threads. -/
theorem mem_frames {m : Machine J B ω} {f : Frame J B ω} :
    f ∈ m.frames ↔ ∃ th ∈ m.threads, f ∈ th.frames := by
  rw [frames]
  induction m.threads with
  | nil => simp
  | cons th rest ih => simp [ih]

end Machine

/-! ## Weights -/

section Weight

variable {M : Type} [AddCommMonoid M]

/-- What frames come to, each weighed by `a`. -/
def weigh (a : Frame J B ω → M) (fs : Multiset (Frame J B ω)) : M := (fs.map a).sum

@[simp] theorem weigh_zero (a : Frame J B ω → M) : weigh a 0 = 0 := rfl

@[simp] theorem weigh_singleton (a : Frame J B ω → M) (f : Frame J B ω) : weigh a {f} = a f := by
  simp [weigh]

@[simp] theorem weigh_cons (a : Frame J B ω → M) (f : Frame J B ω)
    (fs : Multiset (Frame J B ω)) : weigh a (f ::ₘ fs) = a f + weigh a fs := by
  simp [weigh]

@[simp] theorem weigh_add (a : Frame J B ω → M) (fs gs : Multiset (Frame J B ω)) :
    weigh a (fs + gs) = weigh a fs + weigh a gs := by
  simp [weigh]

/-- Frames of no weight each come to nothing. -/
theorem weigh_eq_zero {a : Frame J B ω → M} {fs : Multiset (Frame J B ω)}
    (h : ∀ f ∈ fs, a f = 0) : weigh a fs = 0 := by
  refine Multiset.sum_eq_zero ?_
  intro x hx
  obtain ⟨f, hf, rfl⟩ := Multiset.mem_map.mp hx
  exact h f hf

/-- Frames that come to nothing are of no weight each. -/
theorem eq_zero_of_weigh {a : Frame J B ω → Nat} {fs : Multiset (Frame J B ω)}
    (h : weigh a fs = 0) {f : Frame J B ω} (hf : f ∈ fs) : a f = 0 := by
  obtain ⟨rest, rfl⟩ := Multiset.exists_cons_of_mem hf
  rw [weigh_cons] at h
  omega

/-- Of frames that come to something one has a weight. -/
theorem exists_of_weigh_pos {a : Frame J B ω → Nat} {fs : Multiset (Frame J B ω)}
    (h : 0 < weigh a fs) : ∃ f ∈ fs, 0 < a f := by
  by_contra hnone
  have hall : ∀ f ∈ fs, a f = 0 := by
    intro f hf
    exact Nat.eq_zero_of_not_pos fun hpos => hnone ⟨f, hf, hpos⟩
  rw [weigh_eq_zero hall] at h
  exact Nat.lt_irrefl 0 h

theorem weigh_le_weigh {a b : Frame J B ω → Nat} (h : ∀ f, a f ≤ b f)
    (fs : Multiset (Frame J B ω)) : weigh a fs ≤ weigh b fs :=
  Multiset.sum_map_le_sum_map a b fun f _ => h f

end Weight

/-! ## At first -/

namespace Machine

variable {limit : Nat} {world : ω} {first : List (Request J ω)}
  {others : List (List (Request J ω))}

theorem frames_ofClients :
    (ofClients limit world first others : Machine J B ω).frames =
      .client 1 none first ::ₘ (others.map (.client 0 none) : List (Frame J B ω)) := by
  simp only [frames, ofClients, List.map_cons, List.sum_cons, Thread.frames, List.map_map,
    Multiset.singleton_add]
  congr 1
  induction others with
  | nil => rfl
  | cons script rest ih =>
      rw [List.map_cons, List.sum_cons, ih, List.map_cons, ← Multiset.cons_coe]
      rfl

theorem exists_client_of_mem_ofClients {f : Frame J B ω}
    (h : f ∈ (ofClients limit world first others : Machine J B ω).frames) :
    ∃ held script, f = .client held none script := by
  rw [frames_ofClients, Multiset.mem_cons, Multiset.mem_coe, List.mem_map] at h
  obtain rfl | ⟨script, -, rfl⟩ := h
  · exact ⟨1, first, rfl⟩
  · exact ⟨0, script, rfl⟩

/-- Weights that clients without a call do not have are not there at first. -/
theorem weigh_ofClients {M : Type} [AddCommMonoid M] {a : Frame J B ω → M}
    (h : ∀ held script, a (.client held none script) = 0) :
    weigh a (ofClients limit world first others : Machine J B ω).frames = 0 := by
  rw [frames_ofClients, weigh_cons, h, zero_add, weigh, Multiset.map_coe, Multiset.sum_coe,
    List.map_map]
  exact List.sum_eq_zero (by simp [h])

end Machine

end Frontier.Dispatcher
