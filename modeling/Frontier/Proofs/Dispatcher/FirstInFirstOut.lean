/-
# First in, first out — jobs are taken up in the order in which they were pushed

Seen from its queue the dispatcher is a *work-list*: jobs wait in a line, and so
many of them run at a time as there are slots.

| event | what the work-list does |
| :-- | :-- |
| `pushed a` | `a` waits behind all others |
| `popped a` | `a` was the first in line and runs; less than `limit` jobs were running |
| `ended k e` | the job of ticket `k` was running and runs no more |
| any other | nothing |

Every run of the dispatcher is one of the work-list (`Machine.Runs.serves`).  So
what was popped and what waits are together what was pushed, in this order, and
with one slot jobs run one after another (`Serves.ended_between`).
-/
import Frontier.Dispatcher.Schedule
import Frontier.Dispatcher.Script
import Frontier.Proofs.Dispatcher.Completion
import Frontier.Proofs.Dispatcher.Ownership
import Mathlib

namespace Frontier.Dispatcher

variable {J B ω : Type} {w : Workload J B ω} {n : Neighbours} {v v' : ω} {s s' : Shared J}
  {f g : Frame J B ω} {fs gs below above rest : Multiset (Frame J B ω)} {q : Result}
  {r r' : Option Result} {told told' : List (Occurrence J)} {limit : Nat}

/-! ## What happened -/

/-- The job that was put into the queue. -/
def Event.pushed? : Event J → Option (Admitted J)
  | pushed a => some a
  | _ => none

/-- The job that was taken out of the queue. -/
def Event.popped? : Event J → Option (Admitted J)
  | popped a => some a
  | _ => none

/-- A job is put into the queue, is taken out of it, or comes to its end. -/
def Event.moves : Event J → Bool
  | pushed _ | popped _ | ended .. => true
  | _ => false

/-- The events of the dispatcher, in this order. -/
def Machine.events (history : Machine.History J) : List (Event J) :=
  history.filterMap fun o => o.2.event?

/-- The jobs that were pushed, in this order. -/
def Machine.pushed (history : Machine.History J) : List (Admitted J) :=
  (events history).filterMap Event.pushed?

/-- The jobs that were popped, in this order. -/
def Machine.popped (history : Machine.History J) : List (Admitted J) :=
  (events history).filterMap Event.popped?

open Machine (events pushed popped)

theorem Machine.events_append_map (past : Machine.History J) (t : ThreadId)
    (told : List (Occurrence J)) :
    events (past ++ told.map (t, ·)) = events past ++ told.filterMap Occurrence.event? := by
  rw [events, List.filterMap_append, List.filterMap_map]
  rfl

theorem Machine.popped_append_map (past : Machine.History J) (t : ThreadId)
    (told : List (Occurrence J)) :
    popped (past ++ told.map (t, ·)) =
      popped past ++ (told.filterMap Occurrence.event?).filterMap Event.popped? := by
  rw [popped, events_append_map, List.filterMap_append]
  rfl

theorem Machine.pushed_append_map (past : Machine.History J) (t : ThreadId)
    (told : List (Occurrence J)) :
    pushed (past ++ told.map (t, ·)) =
      pushed past ++ (told.filterMap Occurrence.event?).filterMap Event.pushed? := by
  rw [pushed, events_append_map, List.filterMap_append]
  rfl

theorem Event.pushed?_of_not_moves {e : Event J} (h : e.moves = false) : e.pushed? = none := by
  cases e with
  | pushed => cases h
  | _ => rfl

theorem Event.popped?_of_not_moves {e : Event J} (h : e.moves = false) : e.popped? = none := by
  cases e with
  | popped => cases h
  | _ => rfl

/-! ## The work-list -/

/-- Jobs that wait, the first in line first, and the tickets of those that run. -/
structure Worklist (J : Type) where
  waiting : List (Admitted J)
  running : Multiset Nat

namespace Worklist

variable {es es' : List (Event J)} {a b : Admitted J} {e : Event J} {x y z : Worklist J}

/-- What an event is to a work-list of which no more than `limit` jobs run at a time. -/
inductive Step (limit : Nat) : Worklist J → Event J → Worklist J → Prop
  | push {waiting : List (Admitted J)} {running : Multiset Nat} {a : Admitted J} :
      Step limit ⟨waiting, running⟩ (.pushed a) ⟨waiting ++ [a], running⟩
  | take {waiting : List (Admitted J)} {running : Multiset Nat} {a : Admitted J} :
      running.card < limit →
      Step limit ⟨a :: waiting, running⟩ (.popped a) ⟨waiting, a.ticket ::ₘ running⟩
  | finish {waiting : List (Admitted J)} {running : Multiset Nat} {ticket : Nat}
      {ending : Ending} :
      Step limit ⟨waiting, ticket ::ₘ running⟩ (.ended ticket ending) ⟨waiting, running⟩
  | other {x : Worklist J} {e : Event J} : e.moves = false → Step limit x e x

/-- The work-list goes through these events. -/
inductive Serves (limit : Nat) (x : Worklist J) : List (Event J) → Worklist J → Prop
  | refl : Serves limit x [] x
  | step {es : List (Event J)} {e : Event J} {y z : Worklist J} :
      Serves limit x es y → Step limit y e z → Serves limit x (es ++ [e]) z

theorem Serves.append_others (h : Serves limit x es y) (hes : ∀ e ∈ es', e.moves = false) :
    Serves limit x (es ++ es') y := by
  induction es' generalizing es with
  | nil => rwa [List.append_nil]
  | cons e es' ih =>
      have hstep := h.step (.other (hes e List.mem_cons_self))
      rw [List.append_cons]
      exact ih hstep fun e' he' => hes e' (List.mem_cons_of_mem _ he')

/-- Nobody overtakes: who waits was pushed and not popped, in this order. -/
theorem Serves.first_in_first_out (h : Serves limit x es y) :
    x.waiting ++ es.filterMap Event.pushed? = es.filterMap Event.popped? ++ y.waiting := by
  induction h with
  | refl => simp
  | step _ hstep ih =>
      rw [List.filterMap_append, List.filterMap_append, ← List.append_assoc, ih]
      cases hstep with
      | push | take | finish => simp [List.filterMap_cons, Event.pushed?, Event.popped?]
      | other hother =>
          simp [Event.pushed?_of_not_moves hother, Event.popped?_of_not_moves hother]

theorem Serves.exists_last (h : Serves limit x (es ++ [e]) z) :
    ∃ y, Serves limit x es y ∧ Step limit y e z := by
  generalize hall : es ++ [e] = all at h
  cases h with
  | refl => simp at hall
  | step hserves hstep =>
      obtain ⟨rfl, he⟩ := List.append_inj' hall rfl
      cases he
      exact ⟨_, hserves, hstep⟩

/-- A run is cut in two where its events are. -/
theorem Serves.exists_of_append (h : Serves limit x (es ++ es') z) :
    ∃ y, Serves limit x es y ∧ Serves limit y es' z := by
  induction es' using List.reverseRecOn generalizing z with
  | nil =>
      rw [List.append_nil] at h
      exact ⟨z, h, .refl⟩
  | append_singleton es' e ih =>
      rw [← List.append_assoc] at h
      obtain ⟨y, h, hstep⟩ := h.exists_last
      obtain ⟨y', hfirst, hsecond⟩ := ih h
      exact ⟨y', hfirst, hsecond.step hstep⟩

/-- A job that runs goes on running until it ends. -/
theorem Serves.mem_running {k : Nat} (h : Serves limit x es y) (hk : k ∈ x.running)
    (hends : ∀ ending, .ended k ending ∉ es) : k ∈ y.running := by
  induction h with
  | refl => exact hk
  | step _ hstep ih =>
      have hmem := ih fun ending he => hends ending (List.mem_append_left _ he)
      cases hstep with
      | push => exact hmem
      | take => exact Multiset.mem_cons_of_mem hmem
      | other => exact hmem
      | finish =>
          rcases Multiset.mem_cons.mp hmem with rfl | hmem
          · exact absurd (List.mem_append_right _ (List.mem_singleton_self _)) (hends _)
          · exact hmem

/-- Where one job runs at a time, it has ended when the next one is popped. -/
theorem Serves.ended_between {before between after : List (Event J)}
    (h : Serves 1 x (before ++ .popped a :: (between ++ .popped b :: after)) y) :
    ∃ ending, .ended a.ticket ending ∈ between := by
  by_contra hnone
  rw [List.append_cons, ← List.append_assoc, List.append_cons] at h
  obtain ⟨y₃, h, -⟩ := h.exists_of_append
  obtain ⟨y₂, h, hpop⟩ := h.exists_last
  obtain ⟨y₁, h, hbetween⟩ := h.exists_of_append
  obtain ⟨y₀, -, htake⟩ := h.exists_last
  -- the first of the two runs when it is popped, and has not ended since
  have hruns : a.ticket ∈ y₁.running := by
    cases htake with
    | take => exact Multiset.mem_cons_self _ _
    | other hother => cases hother
  have hruns' : a.ticket ∈ y₂.running :=
    hbetween.mem_running hruns fun ending he => hnone ⟨ending, he⟩
  cases hpop with
  | take hfree =>
      have hnone := Multiset.card_eq_zero.mp (Nat.lt_one_iff.mp hfree)
      rw [hnone] at hruns'
      exact Multiset.notMem_zero _ hruns'
  | other hother => cases hother

end Worklist

/-! ## One turn -/

/-- The ticket of the job whose body is between its first move and its last in a frame. -/
def Frame.tickets : Frame J B ω → Multiset Nat
  | run ticket .. | submitting ticket .. | starting ticket .. => {ticket}
  | _ => 0

theorem Frame.card_tickets (f : Frame J B ω) : f.tickets.card = f.bodies := by
  cases f <;> rfl

theorem card_weigh_tickets (fs : Multiset (Frame J B ω)) :
    (weigh Frame.tickets fs).card = weigh Frame.bodies fs := by
  induction fs using Multiset.induction with
  | empty => rfl
  | cons f fs ih => rw [weigh_cons, weigh_cons, Multiset.card_add, ih, f.card_tickets]

/-- What a turn is to the jobs that wait and those that run. -/
inductive DispatchChange (s s' : Shared J) (f : Frame J B ω) (fs : Multiset (Frame J B ω))
    (told : List (Occurrence J)) : Prop
  | none : s'.queue = s.queue → weigh Frame.tickets fs = f.tickets →
      (∀ e ∈ told.filterMap Occurrence.event?, e.moves = false) → DispatchChange s s' f fs told
  | pushed (a : Admitted J) : f.tickets = 0 → s'.queue.items = s.queue.items ++ [a] →
      weigh Frame.tickets fs = 0 → told = [.event (.pushed a)] → DispatchChange s s' f fs told
  | popped (a : Admitted J) : f = .pop → s.queue.items = a :: s'.queue.items →
      weigh Frame.tickets fs = {a.ticket} → told = [.event (.popped a)] →
      DispatchChange s s' f fs told
  | ended (ticket : Nat) (e : Ending) : f.tickets = {ticket} → s'.queue = s.queue →
      weigh Frame.tickets fs = 0 → told = [.event (.ended ticket e)] →
      DispatchChange s s' f fs told

theorem Turn.dispatchChange (h : Turn w n v s f v' s' fs r told) :
    DispatchChange s s' f fs told := by
  cases h with
  | takeSlot ha | reacquire ha | acquireSelf ha =>
      obtain ⟨-, rfl⟩ := Shared.acquire?_eq_some_iff.mp ha
      exact .none rfl rfl nofun
  | handBack | giveUp | release =>
      obtain ⟨_, _, events, hrelease, htold⟩ := s.exists_release_eq
      rw [hrelease]
      refine .none rfl rfl ?_
      rcases htold with rfl | rfl <;> simp [Occurrence.event?, Event.moves]
  | accept he =>
      obtain ⟨-, rfl, rfl⟩ := Shared.enroll_eq_ok_iff.mp he
      exact .none rfl rfl (by simp [Occurrence.event?, Event.moves])
  | push => exact .pushed _ rfl (Queue.items_push ..) rfl rfl
  | pop hp =>
      obtain ⟨_, hitems, rfl⟩ := Shared.pop?_eq_some_iff.mp hp
      exact .popped _ rfl hitems (weigh_singleton ..) rfl
  | finish | panic => exact .ended _ _ rfl rfl (weigh_ended (fun _ => rfl) rfl) rfl
  | shed => exact .none rfl (weigh_ended (fun _ => rfl) rfl) nofun
  | takeRegistry | join => exact .none rfl (weigh_joining (fun _ _ => rfl) rfl) nofun
  | _ => exact .none rfl (by simp [Frame.tickets]) (by simp [Occurrence.event?, Event.moves])

theorem Receives.tickets_eq (h : Receives q g gs r told) : g.tickets = weigh Frame.tickets gs := by
  cases h <;> rfl

theorem DispatchChange.serves {others : Multiset Nat} {es : List (Event J)} {x : Worklist J}
    (h : DispatchChange s s' f fs told) (hfree : f = .pop → others.card < limit)
    (hserves : x.Serves limit es ⟨s.queue.items, f.tickets + others⟩) :
    x.Serves limit (es ++ told.filterMap Occurrence.event?)
      ⟨s'.queue.items, weigh Frame.tickets fs + others⟩ := by
  cases h with
  | none hqueue hafter htold =>
      rw [hqueue, hafter]
      exact hserves.append_others htold
  | pushed a hbefore hitems hafter htold =>
      rw [hbefore] at hserves
      rw [hitems, hafter, htold]
      exact hserves.step .push
  | popped a hf hitems hafter htold =>
      have hlt := hfree hf
      subst hf
      rw [hitems, show (Frame.pop : Frame J B ω).tickets = 0 from rfl, zero_add] at hserves
      rw [hafter, htold, Multiset.singleton_add]
      exact hserves.step (.take hlt)
  | ended ticket e hbefore hqueue hafter htold =>
      rw [hbefore, Multiset.singleton_add] at hserves
      rw [hqueue, hafter, htold, zero_add]
      exact hserves.step .finish

/-- From an empty queue no job is popped. -/
theorem DispatchChange.popped_eq_nil (h : DispatchChange s s' f fs told)
    (hempty : s.queue.items = []) :
    (told.filterMap Occurrence.event?).filterMap Event.popped? = [] := by
  cases h with
  | none _ _ htold =>
      rw [List.filterMap_eq_nil_iff]
      intro e he
      exact Event.popped?_of_not_moves (htold e he)
  | popped a _ hitems _ _ =>
      rw [hempty] at hitems
      cases hitems
  | pushed a _ _ _ htold => rw [htold]; rfl
  | ended ticket e _ _ _ htold => rw [htold]; rfl

/-- A job is popped by a frame that owns a slot, so there are less bodies beside it than slots. -/
theorem SlotsOwned.card_tickets_lt (h : SlotsOwned limit s (.pop ::ₘ rest)) :
    (weigh Frame.tickets rest).card < limit := by
  have howned := h.owned
  have hbodies : weigh Frame.bodies rest ≤ weigh Frame.slots rest :=
    weigh_le_weigh Frame.bodies_le_slots rest
  rw [weigh_cons, Frame.slots] at howned
  rw [card_weigh_tickets]
  have := h.active_le_peak
  have := h.peak_le_limit
  omega

namespace Machine

variable {reliable : Bool} {m m' : Machine J B ω} {history : History J} {world : ω}
  {first : List (Request J ω)} {others : List (List (Request J ω))}

/-- The tickets of the jobs whose bodies are running. -/
def running (m : Machine J B ω) : Multiset Nat := weigh Frame.tickets m.frames

/-- Every run of the dispatcher is one of the work-list. -/
theorem Runs.serves (run : Runs w reliable (ofClients limit world first others) history m) :
    (⟨[], 0⟩ : Worklist J).Serves limit (events history) ⟨m.shared.queue.items, m.running⟩ := by
  refine run.turn_induction
    (P := fun m past => (⟨[], 0⟩ : Worklist J).Serves limit (events past)
      ⟨m.shared.queue.items, m.running⟩) ?_ ?_
  · rw [running, weigh_ofClients fun _ _ => rfl]
    exact .refl
  · intro n f fs below above rest r r' told told' past m₁ m₂ run₁ _ hbefore hafter _ hturn
      hpasses _ h
    have hslots := run₁.slotsOwned
    have hpassed := hpasses.weigh_eq Receives.tickets_eq
    rw [hbefore] at hslots
    rw [running, hbefore, weigh_cons, weigh_add, hpassed, ← weigh_add] at h
    rw [running, hafter, weigh_add, events_append_map, List.filterMap_append, hpasses.no_event,
      List.append_nil]
    refine hturn.dispatchChange.serves ?_ h
    rintro rfl
    rw [weigh_add, ← hpassed, ← weigh_add]
    exact hslots.card_tickets_lt

end Machine

end Frontier.Dispatcher
