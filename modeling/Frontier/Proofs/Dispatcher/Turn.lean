/-
# Turns — all that a step of the dispatcher can do, said once

In a step one frame takes a turn.  `Turn` lists what that can be: the frame,
the frames that come in its place, the shared state and the world before and
after, and what is reported.  A turn may end the call it belongs to; then the
result goes to the frame that waits for it (`Receives`), which may end its own
call in turn (`Passes`).

    `Machine.step_rewrites`            a step of a thread is a turn of one frame, and
                                       its result is passed on
    `Machine.Runs.frames_induction`    what turns and passing on keep holds of all runs

Every invariant of the frames is proved from these two and does not unfold a
step function again.
-/
import Frontier.Proofs.Dispatcher.Frame

namespace Frontier.Dispatcher

variable {J B ω : Type}

/-- What a call returns to the frame that waits for it. -/
inductive Result where
  /-- Slots were filled: whether every thread that was wanted could be spawned. -/
  | filled (all : Bool)
  | submitted (accepted : Bool)
  | served
  | drained (stats : Stats)
  | read (stats : Stats)
  | dropped
  /-- A handle that one client gives to another. -/
  | handle

/-- The worker of index `newcomer` is registered; those that have ended are forgotten. -/
def Shared.register (s : Shared J) (n : Neighbours) : Shared J :=
  { s with registry := s.registry.filter (!n.finished ·) ++ [n.newcomer] }

/-- The thread sleeps until no job is unfinished. -/
def Shared.parked (s : Shared J) (self : ThreadId) : Shared J :=
  { s with gateSleepers := self :: s.gateSleepers }

/-- The thread sleeps until no slot is held. -/
def Shared.dozing (s : Shared J) (self : ThreadId) : Shared J :=
  { s with slotSleepers := self :: s.slotSleepers }

/-- The frame of a drain that has so many workers to join. -/
def Frame.joining : List ThreadId → Frame J B ω
  | [] => .concluding .submitted
  | t :: rest => .join t rest

/-- The frame of a job whose body has ended and that owns so many handles. -/
def Frame.ended : Nat → Ending → Frame J B ω
  | 0, e => .countExecuted e
  | n + 1, e => .shed n e

section Outcome

variable {h : Nat} {e : Ending} {ts : List ThreadId}

theorem weigh_ended {M : Type} [AddCommMonoid M] {a : Frame J B ω → M} {x : M}
    (hshed : ∀ left, a (.shed left e) = x) (hcount : a (.countExecuted e) = x) :
    weigh a {.ended h e} = x := by
  rw [weigh_singleton]
  cases h with
  | zero => exact hcount
  | succ left => exact hshed left

theorem weigh_joining {M : Type} [AddCommMonoid M] {a : Frame J B ω → M} {x : M}
    (hjoin : ∀ t rest, a (.join t rest) = x) (hread : a (.concluding .submitted) = x) :
    weigh a {.joining ts} = x := by
  rw [weigh_singleton]
  cases ts with
  | nil => exact hread
  | cons t rest => exact hjoin t rest

theorem forall_mem_ended {p : Frame J B ω → Prop} (hshed : ∀ left, p (.shed left e))
    (hcount : p (.countExecuted e)) : ∀ g ∈ ({.ended h e} : Multiset (Frame J B ω)), p g := by
  intro g hg
  rw [Multiset.mem_singleton.mp hg]
  cases h with
  | zero => exact hcount
  | succ left => exact hshed left

theorem forall_mem_joining {p : Frame J B ω → Prop} (hjoin : ∀ t rest, p (.join t rest))
    (hread : p (.concluding .submitted)) :
    ∀ g ∈ ({.joining ts} : Multiset (Frame J B ω)), p g := by
  intro g hg
  rw [Multiset.mem_singleton.mp hg]
  cases ts with
  | nil => exact hread
  | cons t rest => exact hjoin t rest

end Outcome

/-- One turn of one frame. -/
inductive Turn (w : Workload J B ω) (n : Neighbours) :
    ω → Shared J → Frame J B ω → ω → Shared J → Multiset (Frame J B ω) → Option Result →
      List (Occurrence J) → Prop
  -- filling slots
  | seeOpen {v : ω} {s : Shared J} : s.gate.isOpen = true →
      Turn w n v s (.filling .checkOpen) v s {.filling .readLength} none []
  | seeShut {v : ω} {s : Shared J} : s.gate.isOpen = false →
      Turn w n v s (.filling .checkOpen) v s 0 (some (.filled true)) []
  | seeJobs {v : ω} {s : Shared J} {k : Nat} : s.queue.length = k + 1 →
      Turn w n v s (.filling .readLength) v s {.filling (.acquire k)} none []
  | seeNoJobs {v : ω} {s : Shared J} : s.queue.length = 0 →
      Turn w n v s (.filling .readLength) v s 0 (some (.filled true)) []
  | takeSlot {v : ω} {s s' : Shared J} {k : Nat} : s.acquire? = some s' →
      Turn w n v s (.filling (.acquire k)) v s' {.filling (.checkQuiescent k)} none []
  | findNoSlot {v : ω} {s : Shared J} {k : Nat} : s.acquire? = none →
      Turn w n v s (.filling (.acquire k)) v s 0 (some (.filled true)) []
  | seeQuiescent {v : ω} {s : Shared J} {k : Nat} : s.gate.lifecycle = .quiescent →
      Turn w n v s (.filling (.checkQuiescent k)) v s {.filling .handBack} none []
  | seeLive {v : ω} {s : Shared J} {k : Nat} : s.gate.lifecycle ≠ .quiescent →
      Turn w n v s (.filling (.checkQuiescent k)) v s {.filling (.takeNumber k)} none []
  | handBack {v : ω} {s : Shared J} :
      Turn w n v s (.filling .handBack) v s.release.1 0 (some (.filled true))
        (s.release.2.map .event)
  | takeNumber {v : ω} {s : Shared J} {k : Nat} :
      Turn w n v s (.filling (.takeNumber k)) v s.takeNumber.2
        {.filling (.spawn k s.takeNumber.1)} none []
  | spawn {v : ω} {s : Shared J} {k number : Nat} : n.canSpawn = true →
      Turn w n v s (.filling (.spawn (k + 1) number)) v (s.register n)
        {.filling (.acquire k), .pop} none [.event (.spawned number)]
  | spawnLast {v : ω} {s : Shared J} {number : Nat} : n.canSpawn = true →
      Turn w n v s (.filling (.spawn 0 number)) v (s.register n)
        {.pop} (some (.filled true)) [.event (.spawned number)]
  | failToSpawn {v : ω} {s : Shared J} {k number : Nat} : n.canSpawn = false →
      Turn w n v s (.filling (.spawn k number)) v s {.filling .giveUp} none []
  | giveUp {v : ω} {s : Shared J} :
      Turn w n v s (.filling .giveUp) v s.release.1 0 (some (.filled false))
        (s.release.2.map .event)
  -- submitting and starting
  | accept {v : ω} {s s' : Shared J} {job : J} {handles : Nat} {a : Admitted J} :
      s.enroll job handles = .ok (a, s') →
      Turn w n v s (.enroll job handles) v s' {.count a} none [.event (.accepted a)]
  | refuse {v : ω} {s : Shared J} {job : J} {handles : Nat} {e : Failure} :
      s.enroll job (handles + 1) = .error e →
      Turn w n v s (.enroll job (handles + 1)) v s {.discard handles} none
        [.event (.refused job)]
  | refuseBare {v : ω} {s : Shared J} {job : J} {e : Failure} : s.enroll job 0 = .error e →
      Turn w n v s (.enroll job 0) v s 0 (some (.submitted false)) [.event (.refused job)]
  | discard {v : ω} {s : Shared J} {left : Nat} :
      Turn w n v s (.discard (left + 1)) v s.dropHandle {.discard left} none []
  | discardLast {v : ω} {s : Shared J} :
      Turn w n v s (.discard 0) v s.dropHandle 0 (some (.submitted false)) []
  | count {v : ω} {s : Shared J} {a : Admitted J} :
      Turn w n v s (.count a) v s.countSubmitted {.push a} none []
  | push {v : ω} {s : Shared J} {a : Admitted J} :
      Turn w n v s (.push a) v (s.push a) {.checkOpen} none [.event (.pushed a)]
  | goOnToFill {v : ω} {s : Shared J} : s.gate.isOpen = true →
      Turn w n v s .checkOpen v s {.filling .checkOpen, .accepted} none []
  | leaveBuffered {v : ω} {s : Shared J} : s.gate.isOpen = false →
      Turn w n v s .checkOpen v s 0 (some (.submitted true)) []
  | start {v : ω} {s : Shared J} :
      Turn w n v s .start v s.start {.filling .checkOpen} none []
  -- serving the queue
  | pop {v : ω} {s s' : Shared J} {a : Admitted J} : s.pop? = some (a, s') →
      Turn w n v s .pop v s' {.run a.ticket a.handles (w.enter a.job)} none
        [.event (.popped a)]
  | popNothing {v : ω} {s : Shared J} : s.pop? = none →
      Turn w n v s .pop v s {.release} none [.event .nothingPopped]
  | finish {v : ω} {s : Shared J} {k h : Nat} {b : B} : w.move b = .finish →
      Turn w n v s (.run k h b) v s {.ended h .finished} none [.event (.ended k .finished)]
  | panic {v : ω} {s : Shared J} {k h : Nat} {b : B} {message : String} :
      w.move b = .panic message →
      Turn w n v s (.run k h b) v s {.ended h (.panicked message)} none
        [.event (.ended k (.panicked message))]
  | act {v : ω} {s : Shared J} {k h : Nat} {b : B} {effect : ω → ω × B} :
      w.move b = .act effect →
      Turn w n v s (.run k h b) (effect v).1 s {.run k h (effect v).2} none []
  | wait {v : ω} {s : Shared J} {k h : Nat} {b next : B} {ready : ω → Bool} :
      w.move b = .wait ready next → ready v = true →
      Turn w n v s (.run k h b) v s {.run k h next} none []
  | submit {v : ω} {s : Shared J} {k h given : Nat} {b : B} {job : J} {next : Bool → B} :
      w.move b = .submit job given next → given < h →
      Turn w n v s (.run k h b) v s {.enroll job given, .submitting k (h - given) next} none []
  | startInside {v : ω} {s : Shared J} {k h : Nat} {b next : B} :
      w.move b = .start next → 0 < h →
      Turn w n v s (.run k h b) v s {.start, .starting k h next} none []
  | closeInside {v : ω} {s : Shared J} {k h : Nat} {b next : B} :
      w.move b = .close next → 0 < h →
      Turn w n v s (.run k h b) v s.close {.run k h next} none []
  | ask {v : ω} {s : Shared J} {k h : Nat} {b : B} {number? : Option Nat} {question : Question}
      {next : Answer → B} : w.move b = .ask question next →
      (Serving.needsHandle question = true → 0 < h) →
      Turn w n v s (.run k h b) v s {.run k h (next (s.answer number? question))} none []
  | cloneInside {v : ω} {s : Shared J} {k h : Nat} {b next : B} :
      w.move b = .clone next → 0 < h →
      Turn w n v s (.run k h b) v s.addHandle {.run k (h + 1) next} none []
  | dropInside {v : ω} {s : Shared J} {k h : Nat} {b next : B} :
      w.move b = .drop next → 0 < h →
      Turn w n v s (.run k h b) v s.dropHandle {.run k (h - 1) next} none []
  | shed {v : ω} {s : Shared J} {left : Nat} {e : Ending} :
      Turn w n v s (.shed left e) v s.dropHandle {.ended left e} none []
  | countFinished {v : ω} {s : Shared J} :
      Turn w n v s (.countExecuted .finished) v s.countExecuted {.complete} none []
  | countBroken {v : ω} {s : Shared J} {message : String} :
      Turn w n v s (.countExecuted (.panicked message)) v s.countExecuted
        {.countPanicked message} none []
  | countPanicked {v : ω} {s : Shared J} {message : String} :
      Turn w n v s (.countPanicked message) v s.countPanicked {.complete} none
        [.event (.complained message)]
  | complete {v : ω} {s : Shared J} : Turn w n v s .complete v s.complete {.pop} none []
  | release {v : ω} {s : Shared J} :
      Turn w n v s .release v s.release.1 {.checkEmpty} none (s.release.2.map .event)
  | leaveEmpty {v : ω} {s : Shared J} : s.queue.isEmpty = true →
      Turn w n v s .checkEmpty v s 0 (some .served) []
  | lookAgain {v : ω} {s : Shared J} : s.queue.isEmpty = false →
      Turn w n v s .checkEmpty v s {.reacquire} none []
  | reacquire {v : ω} {s s' : Shared J} : s.acquire? = some s' →
      Turn w n v s .reacquire v s' {.pop} none []
  | leaveFull {v : ω} {s : Shared J} : s.acquire? = none →
      Turn w n v s .reacquire v s 0 (some .served) []
  -- draining
  | acquireSelf {v : ω} {s s' : Shared J} : s.acquire? = some s' →
      Turn w n v s .acquireSelf v s' {.pop, .serve} none []
  | leaveToOthers {v : ω} {s : Shared J} : s.acquire? = none →
      Turn w n v s .acquireSelf v s {.declare} none []
  | declare {v : ω} {s : Shared J} : s.gate.pending = 0 →
      Turn w n v s .declare v { s with gate := s.gate.drain.settle } {.checkIdle} none []
  | park {v : ω} {s : Shared J} : s.gate.pending ≠ 0 →
      Turn w n v s .declare v ({ s with gate := s.gate.drain }.parked n.self) {.parked} none []
  | wake {v : ω} {s : Shared J} : n.self ∉ s.gateSleepers → s.gate.pending = 0 →
      Turn w n v s .parked v { s with gate := s.gate.settle } {.checkIdle} none []
  | parkAgain {v : ω} {s : Shared J} : n.self ∉ s.gateSleepers → s.gate.pending ≠ 0 →
      Turn w n v s .parked v (s.parked n.self) {.parked} none []
  | seeIdle {v : ω} {s : Shared J} : s.slots.isIdle = true →
      Turn w n v s .checkIdle v s {.takeRegistry} none []
  | doze {v : ω} {s : Shared J} : s.slots.isIdle = false →
      Turn w n v s .checkIdle v (s.dozing n.self) {.dozing} none []
  | rouse {v : ω} {s : Shared J} : n.self ∉ s.slotSleepers → s.slots.isIdle = true →
      Turn w n v s .dozing v s {.takeRegistry} none []
  | dozeAgain {v : ω} {s : Shared J} : n.self ∉ s.slotSleepers → s.slots.isIdle = false →
      Turn w n v s .dozing v (s.dozing n.self) {.dozing} none []
  | takeRegistry {v : ω} {s : Shared J} :
      Turn w n v s .takeRegistry v { s with registry := [] } {.joining s.registry} none []
  | join {v : ω} {s : Shared J} {t : ThreadId} {rest : List ThreadId} : n.finished t = true →
      Turn w n v s (.join t rest) v s {.joining rest} none []
  | conclude {v : ω} {s : Shared J} {p q : Reading} : (p.step s).next = .more q →
      Turn w n v s (.concluding p) v s {.concluding q} none []
  | concluded {v : ω} {s : Shared J} {p : Reading} {stats : Stats} :
      (p.step s).next = .done stats →
      Turn w n v s (.concluding p) v s 0 (some (.drained stats)) []
  -- reading the counters and dropping a handle
  | read {v : ω} {s : Shared J} {p q : Reading} : (p.step s).next = .more q →
      Turn w n v s (.reading p) v s {.reading q} none []
  | readLast {v : ω} {s : Shared J} {p : Reading} {stats : Stats} :
      (p.step s).next = .done stats →
      Turn w n v s (.reading p) v s 0 (some (.read stats)) []
  | dropLast {v : ω} {s : Shared J} : s.handles = 1 →
      Turn w n v s (.decrement false) v s.dropHandle {.checkLifecycle} none []
  | dropOther {v : ω} {s : Shared J} {unwinding : Bool} : ¬(s.handles = 1 ∧ unwinding = false) →
      Turn w n v s (.decrement unwinding) v s.dropHandle 0 (some .dropped) []
  | findDrained {v : ω} {s : Shared J} : s.gate.lifecycle = .quiescent →
      Turn w n v s .checkLifecycle v s 0 (some .dropped) []
  | findUndrained {v : ω} {s : Shared J} : s.gate.lifecycle ≠ .quiescent →
      Turn w n v s .checkLifecycle v s {.reclaim} none []
  | reclaim {v : ω} {s : Shared J} :
      Turn w n v s .reclaim v s.addHandle {.start, .opening, .drain} none []
  | forget {v : ω} {s : Shared J} :
      Turn w n v s .forget v s.dropHandle 0 (some .dropped) []
  -- the requests of a client
  | askSubmit {v : ω} {s : Shared J} {held given : Nat} {job : J} {rest : List (Request J ω)} :
      given < held →
      Turn w n v s (.client held none (.submit job given :: rest)) v s
        {.enroll job given, .client (held - given) (some .submit) rest} none []
  | askStart {v : ω} {s : Shared J} {held : Nat} {rest : List (Request J ω)} : 0 < held →
      Turn w n v s (.client held none (.start :: rest)) v s
        {.start, .client held (some .start) rest} none []
  | askClose {v : ω} {s : Shared J} {held : Nat} {rest : List (Request J ω)} : 0 < held →
      Turn w n v s (.client held none (.close :: rest)) v s.close
        {.client held none rest} none [.returned .closed]
  | askDrain {v : ω} {s : Shared J} {held : Nat} {rest : List (Request J ω)} : 0 < held →
      Turn w n v s (.client held none (.drain :: rest)) v s
        {.start, .opening, .client held (some .drain) rest} none []
  | askStats {v : ω} {s : Shared J} {held : Nat} {rest : List (Request J ω)} : 0 < held →
      Turn w n v s (.client held none (.stats :: rest)) v s
        {.reading .submitted, .client held (some .stats) rest} none []
  | askClone {v : ω} {s : Shared J} {held : Nat} {rest : List (Request J ω)} : 0 < held →
      Turn w n v s (.client held none (.clone :: rest)) v s.addHandle
        {.client (held + 1) none rest} none []
  | askDrop {v : ω} {s : Shared J} {held : Nat} {unwinding : Bool} {rest : List (Request J ω)} :
      0 < held →
      Turn w n v s (.client held none (.drop unwinding :: rest)) v s
        {.decrement unwinding, .client (held - 1) (some .drop) rest} none []
  | give {v : ω} {s : Shared J} {held : Nat} {receiver : ThreadId} {rest : List (Request J ω)} :
      0 < held →
      Turn w n v s (.client held none (.give receiver :: rest)) v s
        {.client (held - 1) none rest} (some .handle) []
  | touch {v : ω} {s : Shared J} {held : Nat} {effect : ω → ω} {rest : List (Request J ω)} :
      Turn w n v s (.client held none (.touch effect :: rest)) (effect v) s
        {.client held none rest} none []

/-- What a frame becomes that waited for a result, and what it returns itself. -/
inductive Receives : Result → Frame J B ω → Multiset (Frame J B ω) → Option Result →
    List (Occurrence J) → Prop
  | accepted {all : Bool} : Receives (.filled all) .accepted 0 (some (.submitted true)) []
  | startClient {all : Bool} {held : Nat} {script : List (Request J ω)} :
      Receives (.filled all) (.client held (some .start) script) {.client held none script} none
        [.returned .started]
  | startBody {all : Bool} {k h : Nat} {next : B} :
      Receives (.filled all) (.starting k h next) {.run k h next} none []
  | opened : Receives (.filled true) .opening {.declare} none []
  | openedAlone : Receives (.filled false) .opening {.acquireSelf} none []
  | submitClient {ok : Bool} {held : Nat} {script : List (Request J ω)} :
      Receives (.submitted ok) (.client held (some .submit) script) {.client held none script}
        none [.returned (.submitted ok)]
  | submitBody {ok : Bool} {k h : Nat} {next : Bool → B} :
      Receives (.submitted ok) (.submitting k h next) {.run k h (next ok)} none []
  | served : Receives .served .serve {.declare} none []
  | drainClient {stats : Stats} {held : Nat} {script : List (Request J ω)} :
      Receives (.drained stats) (.client held (some .drain) script) {.client held none script}
        none [.returned (.drained stats)]
  | drainDrop {stats : Stats} : Receives (.drained stats) .drain {.forget} none []
  | readClient {stats : Stats} {held : Nat} {script : List (Request J ω)} :
      Receives (.read stats) (.client held (some .stats) script) {.client held none script}
        none [.returned (.stats stats)]
  | dropClient {held : Nat} {script : List (Request J ω)} :
      Receives .dropped (.client held (some .drop) script) {.client held none script}
        none [.returned .dropped]
  | handle {held : Nat} {errand : Option Errand} {script : List (Request J ω)} :
      Receives .handle (.client held errand script) {.client (held + 1) errand script} none []

/-- A result is passed from frame to frame, as far as calls end. -/
inductive Passes : Option Result → Multiset (Frame J B ω) → Multiset (Frame J B ω) →
    Option Result → List (Occurrence J) → Prop
  | refl (r : Option Result) : Passes r 0 0 r []
  | receive {r r'' : Option Result} {r' : Result} {below above gs : Multiset (Frame J B ω)}
      {g : Frame J B ω} {told told' : List (Occurrence J)} :
      Passes r below above (some r') told → Receives r' g gs r'' told' →
      Passes r (g ::ₘ below) (gs + above) r'' (told ++ told')

section Passes

variable {r r' : Option Result} {below above : Multiset (Frame J B ω)}
  {told : List (Occurrence J)}

/-- A weight that no frame changes by receiving a result is not changed by passing it on. -/
theorem Passes.weigh_eq {M : Type} [AddCommMonoid M] {a : Frame J B ω → M}
    (ha : ∀ {q g gs q' told}, Receives q g gs q' told → a g = weigh a gs)
    (h : Passes r below above r' told) : weigh a below = weigh a above := by
  induction h with
  | refl => rfl
  | receive _ hg ih => rw [weigh_cons, weigh_add, ha hg, ih]

/-- A property of frames that outlives the receipt of fitting results outlives passing them on. -/
theorem Passes.forall_mem {p : Frame J B ω → Prop} {fits : Result → Prop}
    (hp : ∀ {q g gs q' told}, Receives q g gs q' told → fits q → p g →
      (∀ f ∈ gs, p f) ∧ ∀ x ∈ q', fits x)
    (h : Passes r below above r' told) (hr : ∀ x ∈ r, fits x) (hbelow : ∀ f ∈ below, p f) :
    (∀ f ∈ above, p f) ∧ ∀ x ∈ r', fits x := by
  induction h with
  | refl => exact ⟨fun f hf => absurd hf (Multiset.notMem_zero f), hr⟩
  | receive _ hg ih =>
      obtain ⟨habove, hfits⟩ := ih fun f hf => hbelow f (Multiset.mem_cons_of_mem hf)
      obtain ⟨hgs, hfits'⟩ := hp hg (hfits _ rfl) (hbelow _ (Multiset.mem_cons_self _ _))
      refine ⟨?_, hfits'⟩
      intro f hf
      rcases Multiset.mem_add.mp hf with hf | hf
      · exact hgs f hf
      · exact habove f hf

/-- What a turn keeps, and the receipt of fitting results, holds of all frames afterwards. -/
theorem Passes.forall_mem_after {p : Frame J B ω → Prop} {fits : Result → Prop}
    {f : Frame J B ω} {fs rest : Multiset (Frame J B ω)} (h : Passes r below above r' told)
    (hp : ∀ {q g gs q' told}, Receives q g gs q' told → fits q → p g →
      (∀ f ∈ gs, p f) ∧ ∀ x ∈ q', fits x)
    (hfs : ∀ g ∈ fs, p g) (hr : ∀ x ∈ r, fits x) (hall : ∀ g ∈ f ::ₘ (below + rest), p g) :
    ∀ g ∈ fs + (above + rest), p g := by
  have habove := (h.forall_mem hp hr fun g hg => hall g (by simp [hg])).1
  intro g hg
  rw [Multiset.mem_add, Multiset.mem_add] at hg
  rcases hg with hg | hg | hg
  · exact hfs g hg
  · exact habove g hg
  · exact hall g (by simp [hg])

/-- The same for a weight that only certain frames keep when they receive fitting results. -/
theorem Passes.weigh_eq_of_forall {M : Type} [AddCommMonoid M] {a : Frame J B ω → M}
    {p : Frame J B ω → Prop} {fits : Result → Prop}
    (hp : ∀ {q g gs q' told}, Receives q g gs q' told → fits q → p g →
      (∀ f ∈ gs, p f) ∧ ∀ x ∈ q', fits x)
    (ha : ∀ {q g gs q' told}, Receives q g gs q' told → fits q → p g → a g = weigh a gs)
    (h : Passes r below above r' told) (hr : ∀ x ∈ r, fits x) (hbelow : ∀ f ∈ below, p f) :
    weigh a below = weigh a above := by
  induction h with
  | refl => rfl
  | @receive _ _ below _ _ _ _ _ hpasses hg ih =>
      have hbelow' : ∀ f ∈ below, p f := by
        intro f hf
        exact hbelow f (Multiset.mem_cons_of_mem hf)
      have hfits := (hpasses.forall_mem hp hr hbelow').2
      rw [weigh_cons, weigh_add, ih hbelow',
        ha hg (hfits _ rfl) (hbelow _ (Multiset.mem_cons_self ..))]

/-- Every new frame comes of one that received a result. -/
theorem Passes.exists_receives (h : Passes r below above r' told) {f : Frame J B ω}
    (hf : f ∈ above) :
    ∃ q g gs q' told', g ∈ below ∧ f ∈ gs ∧ Receives q g gs q' told' := by
  induction h with
  | refl => exact absurd hf (Multiset.notMem_zero f)
  | receive _ hg ih =>
      rcases Multiset.mem_add.mp hf with hf | hf
      · exact ⟨_, _, _, _, _, Multiset.mem_cons_self _ _, hf, hg⟩
      · obtain ⟨q, g, gs, q', told', hmem, hfgs, hrec⟩ := ih hf
        exact ⟨q, g, gs, q', told', Multiset.mem_cons_of_mem hmem, hfgs, hrec⟩

/-- What is kept by those who receive a result is kept by all others. -/
theorem Passes.forall_others {p : Frame J B ω → Prop} {rest : Multiset (Frame J B ω)}
    (h : Passes r below above r' told)
    (hp : ∀ {q g gs q' told}, Receives q g gs q' told → g ∈ below → p g → ∀ f ∈ gs, p f)
    (hothers : ∀ g ∈ below + rest, p g) : ∀ g ∈ above + rest, p g := by
  intro g hg
  rcases Multiset.mem_add.mp hg with hg | hg
  · obtain ⟨_, g', _, _, _, hbelow, hmem, hreceives⟩ := h.exists_receives hg
    exact hp hreceives hbelow (hothers g' (Multiset.mem_add.mpr (.inl hbelow))) g hmem
  · exact hothers g (Multiset.mem_add.mpr (.inr hg))

/-- The same for all frames after a turn. -/
theorem Passes.forall_after {p : Frame J B ω → Prop} {fs rest : Multiset (Frame J B ω)}
    (h : Passes r below above r' told)
    (hp : ∀ {q g gs q' told}, Receives q g gs q' told → g ∈ below → p g → ∀ f ∈ gs, p f)
    (hfs : ∀ g ∈ fs, p g) (hothers : ∀ g ∈ below + rest, p g) :
    ∀ g ∈ fs + (above + rest), p g := by
  intro g hg
  exact (Multiset.mem_add.mp hg).elim (hfs g) (h.forall_others hp hothers g)

/-- Where no result is returned, none is passed on. -/
theorem Passes.of_none (h : Passes none below above r' told) :
    below = 0 ∧ above = 0 ∧ r' = none ∧ told = [] := by
  induction h with
  | refl => exact ⟨rfl, rfl, rfl, rfl⟩
  | receive _ _ ih => cases ih.2.2.1

end Passes

end Frontier.Dispatcher
