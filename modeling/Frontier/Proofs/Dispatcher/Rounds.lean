/-
# Rounds — a thread that serves the queue does not spin

Who serves the queue goes round in a loop.  In each round it takes a job and
runs it, or it misses: it finds the queue empty, gives its slot back, and goes
round again only if it then sees a job in the queue and gets a slot.  That job
may be gone when the thread comes to take it, and so time after time.

    missed ..... missed      between two misses of a thread a job was pushed

For a thread that has missed leaves, unless the queue holds a job again
(`Thread.leaves`).  So every miss but one is paid for by a push (`Charged`).
What the thread takes was pushed as well, and therefore

    misses ≤ pushes + 1            rounds ≤ 2 * pushes + 1
-/
import Frontier.Dispatcher.Script
import Frontier.Proofs.Dispatcher.LastHandle
import Frontier.Proofs.Dispatcher.LatestFirst
import Frontier.Proofs.Dispatcher.Lifecycle
import Mathlib

namespace Frontier.Dispatcher

variable {J B ω : Type} {w : Workload J B ω} {n : Neighbours} {v v' : ω} {s s' : Shared J}
  {fs before after : Multiset (Frame J B ω)} {f : Frame J B ω} {r : Option Result}
  {told : List (Occurrence J)}

/-! ## What happened -/

/-- A thread that serves the queue found it empty. -/
def Event.isMiss : Event J → Bool
  | nothingPopped => true
  | _ => false

/-- A round of the loop began: a job was taken, or there was none. -/
def Event.isRound : Event J → Bool
  | popped _ | nothingPopped => true
  | _ => false

open Machine (History events pushed popped)

/-- What happened in the steps of the thread. -/
def Machine.eventsOf (t : ThreadId) (history : History J) : List (Event J) :=
  events (history.filter (·.1 == t))

/-- How often the thread found the queue empty. -/
def Machine.misses (t : ThreadId) (history : History J) : Nat :=
  (eventsOf t history).countP Event.isMiss

/-- How many rounds the thread began. -/
def Machine.rounds (t : ThreadId) (history : History J) : Nat :=
  (eventsOf t history).countP Event.isRound

section Counts

open Machine (eventsOf misses rounds)

variable {t u : ThreadId} {past later : History J}

theorem Machine.misses_append : misses t (past ++ later) = misses t past + misses t later := by
  simp only [misses, eventsOf, events, List.filter_append, List.filterMap_append,
    List.countP_append]

theorem Machine.pushed_append : pushed (past ++ later) = pushed past ++ pushed later := by
  simp only [pushed, events, List.filterMap_append]

theorem Machine.pushed_map :
    pushed (told.map (t, ·)) = (told.filterMap Occurrence.event?).filterMap Event.pushed? := by
  rw [pushed, events, List.filterMap_map]
  rfl

theorem Machine.popped_append : popped (past ++ later) = popped past ++ popped later := by
  simp only [popped, events, List.filterMap_append]

/-- The steps of others are no misses. -/
theorem Machine.misses_of_ne (hne : u ≠ t) : misses t (told.map (u, ·)) = 0 := by
  have hnone : (told.map (u, ·)).filter (·.1 == t) = [] := by
    rw [List.filter_eq_nil_iff]
    intro o ho
    obtain ⟨_, -, rfl⟩ := List.mem_map.mp ho
    simpa using hne
  rw [misses, eventsOf, hnone]
  rfl

theorem Machine.misses_self :
    misses t (told.map (t, ·)) = (told.filterMap Occurrence.event?).countP Event.isMiss := by
  have hall : (told.map (t, ·)).filter (·.1 == t) = told.map (t, ·) := by
    rw [List.filter_eq_self]
    intro o ho
    obtain ⟨_, -, rfl⟩ := List.mem_map.mp ho
    exact beq_self_eq_true t
  rw [misses, eventsOf, hall, events, List.filterMap_map]
  rfl

theorem countP_isRound (es : List (Event J)) :
    es.countP Event.isRound =
      es.countP Event.isMiss + (es.filterMap Event.popped?).length := by
  induction es with
  | nil => rfl
  | cons e es ih =>
      rw [List.countP_cons, List.countP_cons, List.filterMap_cons, ih]
      cases e <;> simp [Event.isRound, Event.isMiss, Event.popped?] <;> omega

/-- In a round the thread misses or takes a job. -/
theorem Machine.rounds_le : rounds t past ≤ misses t past + (popped past).length := by
  rw [rounds, countP_isRound]
  refine Nat.add_le_add_left (List.Sublist.length_le ?_) _
  exact (List.filter_sublist.filterMap _).filterMap _

end Counts

/-! ## Who leaves -/

/-- The thread has found the queue empty and has not looked again. -/
def Serving.leaves : Serving J B → Bool
  | release | checkEmpty => true
  | _ => false

/-- The drain has served the queue, or need not. -/
def Draining.leaves : Draining J B → Bool
  | opening _ | acquireSelf => false
  | serve p => p.leaves
  | _ => true

def Dropping.leaves : Dropping J B → Bool
  | drain p => p.leaves
  | forget => true
  | _ => false

def Call.leaves : Call J B → Bool
  | draining p => p.leaves
  | dropping p => p.leaves
  | _ => false

/-- The thread looks for no more jobs, unless it sees one, until its call returns. -/
def Thread.leaves : Thread J B ω → Bool
  | client ⟨_, none, _⟩ => false
  | client ⟨_, some call, _⟩ => call.leaves
  | worker _ none => true
  | worker _ (some p) => p.leaves

/-- A call leaves if it has returned. -/
def Progress.leaves {σ ρ : Type} (leaves : σ → Bool) : Progress σ ρ → Bool
  | more p => leaves p
  | done _ => true

/-! ## One step -/

/-- What a step is to the rounds of its thread: it misses and then leaves, or it does not miss, and
who leaves goes on leaving if the queue is empty. -/
inductive Look {σ : Type} (s : Shared J) (leaving : Bool) (leaves : σ → Bool) (r : Stepped J σ) :
    Prop
  | miss : leaving = false → s.queue.items = [] → r.events = [.nothingPopped] →
      leaves r.next = true → Look s leaving leaves r
  | other : .nothingPopped ∉ r.events →
      (leaving = true → s.queue.items = [] → leaves r.next = true) → Look s leaving leaves r

/-- A step inside a call, seen by its caller. -/
theorem Look.nest {σ τ ρ : Type} {leaving : Bool} {leaves : σ → Bool} {leaves' : τ → Bool}
    {r : Stepped J (Progress σ ρ)} {φ : Progress σ ρ → τ}
    (h : Look s leaving (Progress.leaves leaves) r) (more : ∀ q, leaves' (φ (.more q)) = leaves q)
    (done : ∀ x, r.next = .done x → leaves' (φ (.done x)) = true) :
    Look s leaving leaves' (r.map φ) := by
  have hφ : Progress.leaves leaves r.next = true → leaves' (φ r.next) = true := by
    intro hnext
    cases hr : r.next with
    | more q =>
        rw [hr] at hnext
        exact (more q).trans hnext
    | done x => exact done x hr
  cases h with
  | miss hleaving hempty hevents hnext => exact .miss hleaving hempty hevents (hφ hnext)
  | other hevents hnext =>
      exact .other hevents fun hleaving hempty => hφ (hnext hleaving hempty)

/-- A step in which nothing happens. -/
theorem Look.silent {σ : Type} {leaving : Bool} {leaves : σ → Bool} {next : σ}
    (h : leaving = true → leaves next = true) : Look s leaving leaves (.silent s' next) :=
  .other (by simp [Stepped.silent]) fun hleaving _ => h hleaving

theorem Turn.eq_pop_of_miss (h : Turn w n v s f v' s' fs r told)
    (hmiss : .event .nothingPopped ∈ told) : f = .pop := by
  cases h with
  | popNothing => rfl
  | handBack | giveUp | release =>
      obtain ⟨_, _, events, hrelease, htold⟩ := s.exists_release_eq
      rw [hrelease] at hmiss
      rcases htold with rfl | rfl <;> simp at hmiss
  | _ => simp at hmiss

/-- Who misses is about to take a job. -/
theorem Rewrites.pop_mem (h : Rewrites w n v s before v' s' after r told)
    (hmiss : .event .nothingPopped ∈ told) : .pop ∈ before := by
  obtain ⟨f, _, _, _, _, _, told₀, told₁, hturn, hpasses, rfl, -, rfl⟩ := h
  have hevent : .nothingPopped ∈ (told₀ ++ told₁).filterMap Occurrence.event? :=
    List.mem_filterMap.mpr ⟨_, hmiss, rfl⟩
  rw [List.filterMap_append, hpasses.no_event, List.append_nil, List.mem_filterMap] at hevent
  obtain ⟨o, ho, heq⟩ := hevent
  cases o with
  | returned x => cases heq
  | event e =>
      cases heq
      rw [hturn.eq_pop_of_miss ho]
      exact Multiset.mem_cons_self ..

/-- A call that does not serve the queue does not miss. -/
theorem Turns.not_miss {σ ρ : Type} {φ : σ → Multiset (Frame J B ω)} {ι : ρ → Result}
    {r : Stepped J (Progress σ ρ)} (h : Turns w n v s φ ι before v' r)
    (hbefore : ∀ f ∈ before, f.isServing = false) : .nothingPopped ∉ r.events := by
  intro hmiss
  have hserving := hbefore _ (Rewrites.pop_mem h (List.mem_map_of_mem hmiss))
  cases hserving

theorem Serving.eq_pop_of_mem {p : Serving J B}
    (h : .pop ∈ (p.frames : Multiset (Frame J B ω))) : p = .pop := by
  cases p with
  | pop => rfl
  | submitting k held call next =>
      rcases Multiset.mem_add.mp h with h | h
      · cases call.not_isServing _ h
      · cases Multiset.mem_singleton.mp h
  | starting k held call next =>
      rcases Multiset.mem_add.mp h with h | h
      · cases call.not_isServing _ h
      · cases Multiset.mem_singleton.mp h
  | _ => cases Multiset.mem_singleton.mp h

theorem Serving.look {number? : Option Nat} {p : Serving J B}
    {r : Stepped J (Progress (Serving J B) Unit)}
    (h : p.step w number? n v s = some (v', r)) :
    Look s p.leaves (Progress.leaves leaves) r := by
  by_cases hmiss : .nothingPopped ∈ r.events
  · obtain rfl := eq_pop_of_mem (Rewrites.pop_mem (Serving.turns h) (List.mem_map_of_mem hmiss))
    simp only [step] at h
    split at h <;> cases h
    · simp [Stepped.noted] at hmiss
    · next hnone => exact .miss rfl (Shared.pop?_eq_none_iff.mp hnone) rfl rfl
  · refine .other hmiss ?_
    intro hleaving hempty
    cases p with
    | release => cases h; rfl
    | checkEmpty =>
        cases h
        simp [Stepped.silent, Queue.isEmpty, hempty, Progress.leaves]
    | _ => cases hleaving

theorem Draining.look {p : Draining J B} {r : Stepped J (Progress (Draining J B) Stats)}
    (h : p.step w n v s = some (v', r)) : Look s p.leaves (Progress.leaves leaves) r := by
  cases p with
  | opening call =>
      cases h
      have hturns : Turns w n v s Starting.frames .filled call.frames v (call.step n s) :=
        call.turns
      exact .other (hturns.not_miss call.not_isServing) (by rintro ⟨⟩)
  | acquireSelf =>
      simp only [step] at h
      split at h <;> cases h <;> exact .silent (by rintro ⟨⟩)
  | serve p =>
      obtain ⟨⟨v₁, r₁⟩, hp, hr⟩ := Option.map_eq_some_iff.mp h
      cases hr
      exact (Serving.look hp).nest (fun _ => rfl) fun _ _ => rfl
  | declare | checkIdle =>
      cases h
      refine .silent fun _ => ?_
      simp only [afterSettle, afterIdle, Progress.leaves]
      split <;> rfl
  | parked | dozing =>
      simp only [step] at h
      split at h <;> cases h
      refine .silent fun _ => ?_
      simp only [afterSettle, afterIdle, Progress.leaves]
      split <;> rfl
  | takeRegistry =>
      cases h
      refine .silent fun _ => ?_
      cases s.registry <;> rfl
  | join t rest =>
      simp only [step] at h
      split at h <;> cases h
      refine .silent fun _ => ?_
      cases rest <;> rfl
  | reading p =>
      cases h
      cases p <;> exact .silent fun _ => rfl

theorem Dropping.look {p : Dropping J B} {r : Stepped J (Progress (Dropping J B) Unit)}
    (h : p.step w n v s = some (v', r)) : Look s p.leaves (Progress.leaves leaves) r := by
  cases p with
  | drain p =>
      obtain ⟨⟨v₁, r₁⟩, hp, hr⟩ := Option.map_eq_some_iff.mp h
      cases hr
      exact (Draining.look hp).nest (fun _ => rfl) fun _ _ => rfl
  | forget => cases h; exact .silent fun _ => rfl
  | _ => cases h; exact .silent (by rintro ⟨⟩)

theorem Call.look {call : Call J B} {r : Stepped J (CallProgress J B)}
    (h : call.step w n v s = some (v', r)) : Look s call.leaves (Progress.leaves leaves) r := by
  cases call with
  | submitting p =>
      cases h
      have hturns : Turns w n v s Submitting.frames .submitted p.frames v (p.step n s) := p.turns
      exact .other (hturns.not_miss p.not_isServing) (by rintro ⟨⟩)
  | starting p =>
      cases h
      have hturns : Turns w n v s Starting.frames .filled p.frames v (p.step n s) := p.turns
      exact .other (hturns.not_miss p.not_isServing) (by rintro ⟨⟩)
  | draining p =>
      obtain ⟨⟨v₁, r₁⟩, hp, hr⟩ := Option.map_eq_some_iff.mp h
      cases hr
      exact (Draining.look hp).nest (fun _ => rfl) fun _ _ => rfl
  | reading p =>
      cases h
      cases p <;> exact .silent (by rintro ⟨⟩)
  | dropping p =>
      obtain ⟨⟨v₁, r₁⟩, hp, hr⟩ := Option.map_eq_some_iff.mp h
      cases hr
      exact (Dropping.look hp).nest (fun _ => rfl) fun _ _ => rfl

/-! ## Threads that look -/

namespace Machine

variable {limit : Nat} {world : ω} {first : List (Request J ω)}
  {others : List (List (Request J ω))} {reliable : Bool} {m m' : Machine J B ω}
  {history past during : History J} {t u : ThreadId} {canSpawn : Bool}
  {occurred : List (Occurrence J)}

/-- The thread is no worker. -/
def IsClient (m : Machine J B ω) (t : ThreadId) : Prop := ∃ c, m.threads[t]? = some (.client c)

/-- The thread looks for no more jobs, unless it sees one. -/
def Leaves (m : Machine J B ω) (t : ThreadId) : Prop :=
  ∃ th, m.threads[t]? = some th ∧ th.leaves = true

theorem enter_asked {held left : Nat} {call : Call J B} {rest : List (Request J ω)}
    {c : Client J B ω} (hth : m.threads[t]? = some (.client c))
    (h : m.enter t held left call rest = some (m', occurred)) :
    occurred.filterMap Occurrence.event? = [] ∧ m'.IsClient t := by
  obtain ⟨hlt, -⟩ := List.getElem?_eq_some_iff.mp hth
  unfold enter at h
  split at h
  · cases h
    exact ⟨rfl, _, List.getElem?_set_self hlt⟩
  · cases h

/-- What a client asks for is no event, and it stays a client. -/
theorem request_asked {held : Nat} {request : Request J ω} {rest : List (Request J ω)}
    {c : Client J B ω} (hth : m.threads[t]? = some (.client c))
    (h : m.request t held rest request = some (m', occurred)) :
    occurred.filterMap Occurrence.event? = [] ∧ m'.IsClient t := by
  obtain ⟨hlt, -⟩ := List.getElem?_eq_some_iff.mp hth
  cases request with
  | submit job given =>
      simp only [Machine.request] at h
      split at h
      · exact enter_asked hth h
      · cases h
  | start | drain | stats | drop unwinding => exact enter_asked hth h
  | close | clone =>
      simp only [Machine.request] at h
      split at h
      · cases h
        exact ⟨rfl, _, List.getElem?_set_self hlt⟩
      · cases h
  | give receiver =>
      simp only [Machine.request] at h
      split at h
      · split at h
        · next hok =>
            cases h
            refine ⟨rfl, ⟨held - 1, none, rest⟩, ?_⟩
            exact (List.getElem?_set_ne hok.2).trans (List.getElem?_set_self hlt)
        · cases h
      · cases h
  | touch effect =>
      cases h
      exact ⟨rfl, _, List.getElem?_set_self hlt⟩

/-- The step of a thread, unless its call returns in it. -/
theorem look_of_step (h : m.step w t canSpawn = some (m', occurred))
    (hcall : ∀ x, .returned x ∉ occurred) :
    ∃ th r, m.threads[t]? = some th ∧ m'.threads[t]? = some r.next ∧
      Look m.shared th.leaves Thread.leaves r ∧
      occurred.filterMap Occurrence.event? = r.events := by
  cases stepping_of_step h with
  | @serves number _ _ r₁ hth hp =>
      refine ⟨_, r₁.map fun p => p.embed (fun q => .worker number (some q))
        fun _ => .worker number none, hth, getElem?_commit_self hth, ?_, filterMap_event?_map _⟩
      exact (Serving.look hp).nest (fun _ => rfl) fun _ _ => rfl
  | @calls held _ script _ r₁ hth hp =>
      have hgoes : ∀ x, r₁.next ≠ .done x := by
        intro x hx
        simp [hx, Progress.embed] at hcall
      refine ⟨_, r₁.map fun p => p.embed (fun q => .client ⟨held, some q, script⟩)
        fun _ => .client ⟨held, none, script⟩, hth, getElem?_commit_self hth, ?_, ?_⟩
      · exact (Call.look hp).nest (fun _ => rfl) fun x hx => absurd hx (hgoes x)
      · cases hnext : r₁.next with
        | more q =>
            simp only [Progress.embed, List.append_nil]
            exact filterMap_event?_map _
        | done x => exact absurd hnext (hgoes x)
  | asks hth hrequest =>
      obtain ⟨hevents, c, hc⟩ := request_asked hth hrequest
      exact ⟨_, .silent m'.shared (.client c), hth, hc, .silent (by rintro ⟨⟩), hevents⟩

/-- The steps of others bring back no thread that leaves. -/
theorem Leaves.of_step (h : m.step w u canSpawn = some (m', occurred)) (hne : t ≠ u)
    (hleaves : m.Leaves t) : m'.Leaves t := by
  obtain ⟨th, hth, hleaves⟩ := hleaves
  cases stepping_of_step h with
  | serves | calls => exact ⟨th, getElem?_commit_ne hne hth, hleaves⟩
  | asks hclient hrequest =>
      cases th with
      | client c =>
          obtain ⟨held, call, script⟩ := c
          obtain ⟨held', hc⟩ := (request_requested hrequest).others t held call script hne hth
          refine ⟨_, hc, ?_⟩
          cases call with
          | none => exact hleaves
          | some call => exact hleaves
      | worker number serving =>
          obtain ⟨number', serving', hth'⟩ :=
            (request_keeps hclient hrequest).workers t ⟨number, serving, hth⟩
          refine ⟨_, hth', ?_⟩
          cases serving' with
          | none => rfl
          | some p =>
              rw [request_atWork hrequest hth' rfl] at hth
              cases hth
              exact hleaves

/-- An empty queue stays empty until a job is pushed. -/
theorem queue_of_step (h : m.step w u canSpawn = some (m', occurred))
    (hempty : m.shared.queue.items = [])
    (hpushed : pushed (occurred.map (u, ·)) = []) : m'.shared.queue.items = [] := by
  obtain ⟨_, -, f, fs, _, _, _, _, told, told', hturn, hpasses, -, -, rfl⟩ := step_rewrites h
  have htold : (told.filterMap Occurrence.event?).filterMap Event.pushed? = [] := by
    rwa [pushed_map, List.filterMap_append, hpasses.no_event, List.append_nil] at hpushed
  cases hturn.dispatchChange with
  | none hqueue _ _ => rw [hqueue, hempty]
  | pushed a _ _ _ heq =>
      rw [heq] at htold
      cases htold
  | popped a _ hitems _ _ =>
      rw [hempty] at hitems
      cases hitems
  | ended _ _ _ hqueue _ _ => rw [hqueue, hempty]

/-- Every miss but one is paid for by a push, and after that one the thread leaves. -/
def Charged (m : Machine J B ω) (t : ThreadId) (past : History J) : Prop :=
  misses t past ≤ (pushed past).length ∨
    misses t past = (pushed past).length + 1 ∧ m.shared.queue.items = [] ∧ m.Leaves t

/-- What a step is to the misses of a thread, be it its own step or not. -/
theorem misses_of_step (h : m.step w u canSpawn = some (m', occurred))
    (hcall : ∀ x, (t, .returned x) ∉ occurred.map (u, ·)) :
    (misses t (occurred.map (u, ·)) = 1 ∧ pushed (occurred.map (u, ·)) = [] ∧
        ¬m.Leaves t ∧ m.shared.queue.items = [] ∧ m'.Leaves t) ∨
      (misses t (occurred.map (u, ·)) = 0 ∧
        (m.Leaves t → m.shared.queue.items = [] → m'.Leaves t)) := by
  by_cases hne : t = u
  · subst hne
    obtain ⟨th, r, hth, hth', hlook, hevents⟩ :=
      look_of_step h fun x hx => hcall x (List.mem_map_of_mem hx)
    rw [misses_self, hevents]
    cases hlook with
    | miss hleaving hempty hmiss hnext =>
        refine .inl ⟨by rw [hmiss]; rfl, by rw [pushed_map, hevents, hmiss]; rfl, ?_, hempty,
          ⟨_, hth', hnext⟩⟩
        rintro ⟨th₀, hth₀, hleaves⟩
        rw [hth] at hth₀
        cases hth₀
        rw [hleaving] at hleaves
        cases hleaves
    | other hmiss hnext =>
        refine .inr ⟨?_, ?_⟩
        · rw [List.countP_eq_zero]
          intro e he hmisses
          cases e with
          | nothingPopped => exact hmiss he
          | _ => cases hmisses
        · rintro ⟨th₀, hth₀, hleaves⟩ hempty
          rw [hth] at hth₀
          cases hth₀
          exact ⟨_, hth', hnext hleaves hempty⟩
  · exact .inr ⟨misses_of_ne (Ne.symm hne), fun hleaves _ => hleaves.of_step h hne⟩

theorem Charged.step (hcharged : m.Charged t past)
    (h : m.step w u canSpawn = some (m', occurred))
    (hcall : ∀ x, (t, .returned x) ∉ occurred.map (u, ·)) :
    m'.Charged t (past ++ occurred.map (u, ·)) := by
  rw [Charged, misses_append, pushed_append, List.length_append]
  rcases misses_of_step h hcall with ⟨hone, hnone, hstays, hempty, hleaves⟩ | ⟨hzero, hstill⟩
  · rw [hone, hnone]
    rcases hcharged with hpaid | ⟨-, -, hleaves₀⟩
    · rcases Nat.lt_or_ge (misses t past) (pushed past).length with hlt | hge
      · exact .inl hlt
      · exact .inr ⟨by rw [Nat.le_antisymm hpaid hge]; rfl, queue_of_step h hempty hnone, hleaves⟩
    · exact absurd hleaves₀ hstays
  · rw [hzero]
    rcases hcharged with hpaid | ⟨hlast, hempty, hleaves⟩
    · exact .inl (hpaid.trans (Nat.le_add_right ..))
    · cases hpushes : pushed (occurred.map (u, ·)) with
      | nil => exact .inr ⟨hlast, queue_of_step h hempty hpushes, hstill hleaves hempty⟩
      | cons a later =>
          -- the job that is pushed pays for the last miss
          refine .inl (hlast.le.trans ?_)
          exact Nat.add_le_add_left (Nat.succ_le_succ (Nat.zero_le _)) _

/-- From any state, as long as the thread returns from no call. -/
theorem Runs.charged (run : Runs w reliable m during m')
    (hcall : ∀ x, (t, .returned x) ∉ during) : m'.Charged t during := by
  induction run with
  | refl => exact .inl le_rfl
  | step _ _ last ih =>
      refine (ih fun x hx => hcall x (List.mem_append_left _ hx)).step last ?_
      exact fun x hx => hcall x (List.mem_append_right _ hx)

/-! ## Workers and clients -/

theorem IsClient.not_isWorker (h : m.IsClient t) : ¬m.IsWorker t := by
  rintro ⟨number, serving, hworker⟩
  obtain ⟨c, hclient⟩ := h
  rw [hclient] at hworker
  cases hworker

/-- Only a client makes calls that return, and it is one afterwards. -/
theorem isClient_of_own_step (h : m.step w t canSpawn = some (m', occurred)) :
    m'.IsClient t ∨ m.IsWorker t ∧ ∀ x, .returned x ∉ occurred := by
  cases stepping_of_step h with
  | serves hth => exact .inr ⟨⟨_, _, hth⟩, fun _ => returned_notMem_map⟩
  | @calls _ _ _ _ r hth =>
      refine .inl ?_
      rw [IsClient, getElem?_commit_self hth]
      cases r.next <;> exact ⟨_, rfl⟩
  | asks hth hrequest => exact .inl (request_asked hth hrequest).2

theorem IsClient.step (hclient : m.IsClient t) (h : m.step w u canSpawn = some (m', occurred)) :
    m'.IsClient t := by
  by_cases hne : t = u
  · subst hne
    exact (isClient_of_own_step h).resolve_right fun hworker => hclient.not_isWorker hworker.1
  · obtain ⟨⟨held, call, script⟩, hth⟩ := hclient
    obtain ⟨held', hth'⟩ := client_of_step h hne hth
    exact ⟨_, hth'⟩

theorem Runs.isClient_of_returned (run : Runs w reliable m history m') {x : Returned}
    (hreturned : (t, .returned x) ∈ history) : m'.IsClient t := by
  induction run with
  | refl => cases hreturned
  | step _ _ last ih =>
      rcases List.mem_append.mp hreturned with hpast | hnow
      · exact (ih hpast).step last
      · obtain ⟨o, ho, heq⟩ := List.mem_map.mp hnow
        cases heq
        exact (isClient_of_own_step last).resolve_right fun hworker => hworker.2 x ho

/-! ## The rounds of a thread -/

/-- Where no more than `N` jobs are pushed and popped, from any state. -/
theorem Charged.bounded {N : Nat} (h : m.Charged t during)
    (hpushed : (pushed during).length ≤ N) (hpopped : (popped during).length ≤ N) :
    misses t during ≤ N + 1 ∧ rounds t during ≤ 2 * N + 1 := by
  have hmisses : misses t during ≤ N + 1 := by
    rcases h with hpaid | ⟨hlast, -, -⟩ <;> omega
  have hrounds : rounds t during ≤ misses t during + (popped during).length := rounds_le
  exact ⟨hmisses, by omega⟩

theorem Runs.length_popped_le
    (run : Runs w reliable (ofClients limit world first others) history m) :
    (popped history).length ≤ (pushed history).length := by
  rw [← run.first_in_first_out, List.length_append]
  exact Nat.le_add_right ..

/-- If no more than `N` jobs are pushed, then a worker misses no more than `N + 1` times and goes
round no more than `2 * N + 1` times, whatever the limit and the scheduler.  The same holds of a
client that drains, as long as its call has not returned. -/
theorem Runs.rounds_bounded {N : Nat}
    (run : Runs w reliable (ofClients limit world first others) history m)
    (hpushed : (pushed history).length ≤ N) :
    (∀ t, m.IsWorker t → misses t history ≤ N + 1 ∧ rounds t history ≤ 2 * N + 1) ∧
      ∀ t before during m₁, history = before ++ during →
        Runs w reliable m₁ during m → (∀ x, (t, .returned x) ∉ during) →
        misses t during ≤ N + 1 ∧ rounds t during ≤ 2 * N + 1 := by
  have hpopped := run.length_popped_le.trans hpushed
  constructor
  · intro t hworker
    refine (run.charged fun x hx => ?_).bounded hpushed hpopped
    exact (run.isClient_of_returned hx).not_isWorker hworker
  · rintro t before during m₁ rfl hduring hcall
    rw [pushed_append, List.length_append] at hpushed
    rw [popped_append, List.length_append] at hpopped
    exact (hduring.charged hcall).bounded (by omega) (by omega)

/-- A client submits two jobs to one worker. -/
def twice : Machine Script.Job Script.Body Script.World :=
  ofClients 1 .empty [.start, .submit [] 0, .submit [] 0] []

/-- The worker has run the first job and missed when the second one is pushed.  It gives its slot
back, sees that job, runs it, misses again, and returns. -/
def missedTwice : Machine Script.Job Script.Body Script.World × History Script.Job :=
  let (m, past) := twice.settle Script.workload 15
  let (m, past) := overtake Script.workload 5 m past
  let (m, later) := m.settle Script.workload 8
  overtake Script.workload 10 m (past ++ later)

/-- Two jobs are pushed, and the worker goes round four times. -/
theorem rounds_bounded_twice :
    ∃ history m, Runs Script.workload true twice history m ∧ (pushed history).length = 2 ∧
      m.threads[1]?.any Thread.isFinishedWorker = true ∧ misses 1 history = 2 ∧
      misses 1 history ≤ 3 ∧ rounds 1 history = 4 ∧ rounds 1 history ≤ 5 := by
  have hfirst := runs_overtake 5 (runs_settle Script.workload 15 twice)
  have hrun : Runs Script.workload true twice missedTwice.2 missedTwice.1 :=
    runs_overtake 10 (hfirst.trans (runs_settle Script.workload 8 _))
  have hpushed : (pushed missedTwice.2).length = 2 := by decide
  have hworker : missedTwice.1.threads[1]? = some (.worker 0 none) := by rfl
  obtain ⟨hworkers, -⟩ := Runs.rounds_bounded hrun hpushed.le
  obtain ⟨hmisses, hrounds⟩ := hworkers 1 ⟨0, none, hworker⟩
  exact ⟨_, _, hrun, hpushed, by rw [hworker]; rfl, by decide, hmisses, by decide, hrounds⟩

end Machine

end Frontier.Dispatcher
