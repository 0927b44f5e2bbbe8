/-
# Lives — what happens to a job, in order

An admitted job has one life: it is accepted, pushed, popped, and its body ends.
At any time it is in one place, which its life so far tells: with the thread
that submits it, in the queue, with the thread that runs it, or nowhere.

| its life so far | its token |
| :-- | :-- |
| nothing: the ticket was not given out | none |
| accepted | `entering` |
| accepted, pushed | `queued` |
| accepted, pushed, popped | `running` |
| accepted, pushed, popped, ended | none |

`Stage` is this table.  Every turn moves the token of one job by one line, or
none; so a job whose token is gone and whose ticket was given out has lived to
its end, once.
-/
import Frontier.Proofs.Dispatcher.Pending
import Mathlib

namespace Frontier.Dispatcher

variable {J B ω : Type} {w : Workload J B ω} {n : Neighbours} {v v' : ω} {s s' : Shared J}
  {f g : Frame J B ω} {fs gs below above rest : Multiset (Frame J B ω)} {q : Result}
  {r r' : Option Result} {told told' : List (Occurrence J)}

/-! ## The life of a job -/

/-- The ticket of the job that the event happens to. -/
def Event.ticket? : Event J → Option Nat
  | accepted a | pushed a | popped a => some a.ticket
  | ended ticket _ => some ticket
  | _ => none

/-- The event, if it happens to the job of that ticket. -/
def Occurrence.moment? (k : Nat) : Occurrence J → Option (Event J)
  | event e => if e.ticket? = some k then some e else none
  | returned _ => none

/-- What happened to the job of that ticket. -/
def Machine.lifeOf (k : Nat) (history : Machine.History J) : List (Event J) :=
  history.filterMap fun o => o.2.moment? k

open Machine (lifeOf)

theorem Machine.lifeOf_append (k : Nat) (past later : Machine.History J) :
    lifeOf k (past ++ later) = lifeOf k past ++ lifeOf k later :=
  List.filterMap_append

theorem Machine.lifeOf_map (k : Nat) (t : ThreadId) (told : List (Occurrence J)) :
    lifeOf k (told.map (t, ·)) = told.filterMap (Occurrence.moment? k) := by
  rw [lifeOf, List.filterMap_map]
  rfl

/-! ## Where a job is -/

/-- Where a job is that has been admitted and has not ended. -/
inductive Token (J : Type) where
  | entering (job : Admitted J)
  | queued (job : Admitted J)
  | running

/-- The tokens of the job of ticket `k` that a frame holds. -/
def Frame.tokens (k : Nat) : Frame J B ω → Multiset (Token J)
  | count a | push a => if a.ticket = k then {.entering a} else 0
  | run ticket .. | submitting ticket .. | starting ticket .. =>
      if ticket = k then {.running} else 0
  | _ => 0

/-- The tokens of the job of ticket `k` in the queue. -/
def queueTokens (k : Nat) (items : List (Admitted J)) : Multiset (Token J) :=
  (items.map fun a => if a.ticket = k then {.queued a} else 0).sum

@[simp] theorem queueTokens_nil (k : Nat) : queueTokens k ([] : List (Admitted J)) = 0 := rfl

@[simp] theorem queueTokens_cons (k : Nat) (a : Admitted J) (items : List (Admitted J)) :
    queueTokens k (a :: items) =
      (if a.ticket = k then {.queued a} else 0) + queueTokens k items :=
  List.sum_cons

@[simp] theorem queueTokens_append (k : Nat) (items items' : List (Admitted J)) :
    queueTokens k (items ++ items') = queueTokens k items + queueTokens k items' := by
  simp [queueTokens]

/-- The life of the job of ticket `k` so far, and its tokens, when `next` is the next ticket. -/
inductive Stage (k next : Nat) : List (Event J) → Multiset (Token J) → Prop
  | unborn : next ≤ k → Stage k next [] 0
  | entering {a : Admitted J} : a.ticket = k → k < next → Stage k next [.accepted a] {.entering a}
  | queued {a : Admitted J} : a.ticket = k → k < next →
      Stage k next [.accepted a, .pushed a] {.queued a}
  | running {a : Admitted J} : a.ticket = k → k < next →
      Stage k next [.accepted a, .pushed a, .popped a] {.running}
  | ended {a : Admitted J} {e : Ending} : a.ticket = k → k < next →
      Stage k next [.accepted a, .pushed a, .popped a, .ended k e] 0

namespace Stage

variable {k next : Nat} {life : List (Event J)} {tokens : Multiset (Token J)} {a : Admitted J}

theorem accept (h : Stage next next life tokens) (ha : a.ticket = next) :
    Stage next (next + 1) (life ++ [.accepted a]) ({.entering a} + tokens) := by
  cases h with
  | unborn => exact .entering ha (Nat.lt_succ_self next)
  | entering _ hlt | queued _ hlt | running _ hlt | ended _ hlt =>
      exact absurd hlt (Nat.lt_irrefl next)

theorem accept_other (h : Stage k next life tokens) (hne : k ≠ next) :
    Stage k (next + 1) life tokens := by
  cases h with
  | unborn hle => exact .unborn (Nat.lt_of_le_of_ne hle hne.symm)
  | entering ha hlt => exact .entering ha (Nat.lt_succ_of_lt hlt)
  | queued ha hlt => exact .queued ha (Nat.lt_succ_of_lt hlt)
  | running ha hlt => exact .running ha (Nat.lt_succ_of_lt hlt)
  | ended ha hlt => exact .ended ha (Nat.lt_succ_of_lt hlt)

/-- A job has one token. -/
theorem eq_of_singleton_add {α : Type} {x y : α} {rest : Multiset α}
    (h : {x} + rest = ({y} : Multiset α)) : x = y ∧ rest = 0 := by
  rw [Multiset.singleton_add, eq_comm, Multiset.singleton_eq_cons_iff] at h
  exact ⟨h.1.symm, h.2⟩

theorem push (h : Stage k next life ({.entering a} + tokens)) :
    Stage k next (life ++ [.pushed a]) ({.queued a} + tokens) := by
  generalize hall : {.entering a} + tokens = all at h
  cases h with
  | unborn => simp at hall
  | ended => simp at hall
  | entering ha hlt =>
      obtain ⟨heq, rfl⟩ := eq_of_singleton_add hall
      cases heq
      exact .queued ha hlt
  | queued => nomatch (eq_of_singleton_add hall).1
  | running => nomatch (eq_of_singleton_add hall).1

theorem pop (h : Stage k next life ({.queued a} + tokens)) :
    Stage k next (life ++ [.popped a]) ({.running} + tokens) := by
  generalize hall : {.queued a} + tokens = all at h
  cases h with
  | unborn => simp at hall
  | ended => simp at hall
  | entering => nomatch (eq_of_singleton_add hall).1
  | queued ha hlt =>
      obtain ⟨heq, rfl⟩ := eq_of_singleton_add hall
      cases heq
      exact .running ha hlt
  | running => nomatch (eq_of_singleton_add hall).1

theorem finish (h : Stage k next life ({.running} + tokens)) (e : Ending) :
    Stage k next (life ++ [.ended k e]) tokens := by
  generalize hall : {.running} + tokens = all at h
  cases h with
  | unborn => simp at hall
  | ended => simp at hall
  | entering => nomatch (eq_of_singleton_add hall).1
  | queued => nomatch (eq_of_singleton_add hall).1
  | running ha hlt =>
      obtain ⟨-, rfl⟩ := eq_of_singleton_add hall
      exact .ended ha hlt

end Stage

/-! ## One turn -/

/-- What a turn is in the lives of jobs. -/
inductive LifeChange (k : Nat) (s s' : Shared J) (before after : Multiset (Token J))
    (told : List (Occurrence J)) : Prop
  | none : s'.nextTicket = s.nextTicket → s'.queue = s.queue → after = before →
      told.filterMap (Occurrence.moment? k) = [] → LifeChange k s s' before after told
  | admitted (a : Admitted J) : a.ticket = s.nextTicket → s'.nextTicket = s.nextTicket + 1 →
      s'.queue = s.queue → before = 0 → after = (if a.ticket = k then {.entering a} else 0) →
      told = [.event (.accepted a)] → LifeChange k s s' before after told
  | pushed (a : Admitted J) : s'.nextTicket = s.nextTicket →
      s'.queue.items = s.queue.items ++ [a] →
      before = (if a.ticket = k then {.entering a} else 0) → after = 0 →
      told = [.event (.pushed a)] → LifeChange k s s' before after told
  | popped (a : Admitted J) : s'.nextTicket = s.nextTicket →
      s.queue.items = a :: s'.queue.items → before = 0 →
      after = (if a.ticket = k then {.running} else 0) →
      told = [.event (.popped a)] → LifeChange k s s' before after told
  | ended (ticket : Nat) (e : Ending) : s'.nextTicket = s.nextTicket → s'.queue = s.queue →
      before = (if ticket = k then {.running} else 0) → after = 0 →
      told = [.event (.ended ticket e)] → LifeChange k s s' before after told

theorem Turn.lifeChange (k : Nat) (h : Turn w n v s f v' s' fs r told) :
    LifeChange k s s' (f.tokens k) (weigh (Frame.tokens k) fs) told := by
  cases h with
  | takeSlot ha | reacquire ha | acquireSelf ha =>
      obtain ⟨-, rfl⟩ := Shared.acquire?_eq_some_iff.mp ha
      exact .none rfl rfl rfl rfl
  | handBack | giveUp | release =>
      obtain ⟨_, _, events, hrelease, htold⟩ := s.exists_release_eq
      rw [hrelease]
      rcases htold with rfl | rfl <;> exact .none rfl rfl rfl rfl
  | accept he =>
      obtain ⟨-, rfl, rfl⟩ := Shared.enroll_eq_ok_iff.mp he
      exact .admitted _ rfl rfl rfl rfl (weigh_singleton ..) rfl
  | push => exact .pushed _ rfl (Queue.items_push ..) rfl rfl rfl
  | pop hp =>
      obtain ⟨_, hitems, rfl⟩ := Shared.pop?_eq_some_iff.mp hp
      exact .popped _ rfl hitems rfl (weigh_singleton ..) rfl
  | finish | panic => exact .ended _ _ rfl rfl rfl (weigh_ended (fun _ => rfl) rfl) rfl
  | shed => exact .none rfl rfl (weigh_ended (fun _ => rfl) rfl) rfl
  | takeRegistry | join => exact .none rfl rfl (weigh_joining (fun _ _ => rfl) rfl) rfl
  | _ => exact .none rfl rfl (by simp [Frame.tokens]) rfl

theorem Receives.tokens_eq (k : Nat) (h : Receives q g gs r told) :
    g.tokens k = weigh (Frame.tokens k) gs := by
  cases h <;> simp [Frame.tokens]

/-- A result that is passed on is no moment in the life of a job. -/
theorem Passes.no_moment (k : Nat) (h : Passes r below above r' told) :
    told.filterMap (Occurrence.moment? k) = [] := by
  induction h with
  | refl => rfl
  | receive _ hg ih =>
      rw [List.filterMap_append, ih]
      cases hg <;> rfl

theorem LifeChange.stage {k : Nat} {before after others : Multiset (Token J)}
    {life : List (Event J)} (h : LifeChange k s s' before after told)
    (hstage : Stage k s.nextTicket life (before + (others + queueTokens k s.queue.items))) :
    Stage k s'.nextTicket (life ++ told.filterMap (Occurrence.moment? k))
      (after + (others + queueTokens k s'.queue.items)) := by
  cases h with
  | none hnext hqueue hafter htold =>
      rw [hnext, hqueue, hafter, htold, List.append_nil]
      exact hstage
  | admitted a ha hnext hqueue hbefore hafter htold =>
      rw [hbefore, zero_add] at hstage
      rw [hnext, hqueue, hafter, htold, ← ha]
      rw [← ha] at hstage
      by_cases hk : a.ticket = k
      · subst hk
        simp only [if_true, List.filterMap_cons, Occurrence.moment?, Event.ticket?]
        exact hstage.accept rfl
      · simp only [if_neg hk, List.filterMap_cons, Occurrence.moment?, Event.ticket?,
          Option.some.injEq, List.filterMap_nil, List.append_nil, zero_add]
        exact hstage.accept_other (Ne.symm hk)
  | pushed a hnext hitems hbefore hafter htold =>
      rw [hnext, hitems, hafter, htold, queueTokens_append, queueTokens_cons, queueTokens_nil,
        add_zero, zero_add]
      rw [hbefore] at hstage
      by_cases hk : a.ticket = k
      · subst hk
        simp only [if_true, List.filterMap_cons, Occurrence.moment?, Event.ticket?,
          List.filterMap_nil] at hstage ⊢
        rw [← add_assoc, add_comm]
        exact hstage.push
      · simp only [if_neg hk, List.filterMap_cons, Occurrence.moment?, Event.ticket?,
          Option.some.injEq, List.filterMap_nil, List.append_nil, add_zero, zero_add] at hstage ⊢
        exact hstage
  | popped a hnext hitems hbefore hafter htold =>
      rw [hnext, hafter, htold]
      rw [hbefore, hitems, queueTokens_cons, zero_add] at hstage
      by_cases hk : a.ticket = k
      · subst hk
        simp only [if_true, List.filterMap_cons, Occurrence.moment?, Event.ticket?,
          List.filterMap_nil] at hstage ⊢
        rw [add_left_comm] at hstage
        exact hstage.pop
      · simp only [if_neg hk, List.filterMap_cons, Occurrence.moment?, Event.ticket?,
          Option.some.injEq, List.filterMap_nil, List.append_nil, zero_add] at hstage ⊢
        exact hstage
  | ended ticket e hnext hqueue hbefore hafter htold =>
      rw [hnext, hqueue, hafter, htold, zero_add]
      rw [hbefore] at hstage
      by_cases hk : ticket = k
      · subst hk
        simp only [if_true, List.filterMap_cons, Occurrence.moment?, Event.ticket?,
          List.filterMap_nil] at hstage ⊢
        exact hstage.finish e
      · simp only [if_neg hk, List.filterMap_cons, Occurrence.moment?, Event.ticket?,
          Option.some.injEq, List.filterMap_nil, List.append_nil, zero_add] at hstage ⊢
        exact hstage

/-! ## The invariant -/

/-- Every job is where its life so far says. -/
def Living (s : Shared J) (fs : Multiset (Frame J B ω)) (past : Machine.History J) : Prop :=
  ∀ k, Stage k s.nextTicket (lifeOf k past)
    (weigh (Frame.tokens k) fs + queueTokens k s.queue.items)

theorem Living.turn {past : Machine.History J} (h : Living s (f ::ₘ (below + rest)) past)
    (hturn : Turn w n v s f v' s' fs r told) (hpasses : Passes r below above r' told') :
    Living s' (fs + (above + rest)) (past ++ (told ++ told').map (n.self, ·)) := by
  intro k
  have hpassed := hpasses.weigh_eq (Receives.tokens_eq k)
  have hstage := h k
  rw [weigh_cons, weigh_add, hpassed, add_assoc] at hstage
  rw [Machine.lifeOf_append, Machine.lifeOf_map, List.filterMap_append, hpasses.no_moment k,
    List.append_nil, weigh_add, weigh_add, add_assoc]
  exact (hturn.lifeChange k).stage hstage

namespace Machine

variable {limit : Nat} {world : ω} {first : List (Request J ω)}
  {others : List (List (Request J ω))} {reliable : Bool} {m : Machine J B ω} {history : History J}

theorem Runs.living (run : Runs w reliable (ofClients limit world first others) history m) :
    Living m.shared m.frames history := by
  refine run.frames_induction (P := fun _ s fs past => Living s fs past) ?_
    fun _ hturn hpasses _ h => h.turn hturn hpasses
  intro k
  rw [weigh_ofClients fun _ _ => rfl]
  exact .unborn (Nat.zero_le k)

end Machine

end Frontier.Dispatcher
