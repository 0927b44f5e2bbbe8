/-
# The last handle — its drop drains, and no other one does

A handle is dropped in one step, by whoever owns it: a client, a call that a
submission was refused in, or a job.  Only the drop of a client can go on after
that step.  It does if it dropped the last handle and no panic unwinds its
thread; the thread then stays in its drop (`Machine.Parts`) until quiescence was
declared, by itself or by others.

| the step drops | and then |
| :-- | :-- |
| a handle that is not the last | nothing has changed but the counter |
| the last handle, on a worker or during a panic | nothing has changed but the counter |
| the last handle, on a client | the same, and the client goes on (`Drops.parts_iff`) |

That a refused submission and a job that a draining client runs itself never
drop the last one is not looked up anywhere: their callers own another
(`Frame.provided`).
-/
import Frontier.Dispatcher.Schedule
import Frontier.Dispatcher.Script
import Frontier.Proofs.Dispatcher.Completion
import Frontier.Proofs.Dispatcher.Handles
import Frontier.Proofs.Dispatcher.Joining
import Mathlib

namespace Frontier.Dispatcher

variable {J B ω : Type} {w : Workload J B ω} {n : Neighbours} {v v' : ω} {s s' : Shared J}
  {f g : Frame J B ω} {fs gs below above rest : Multiset (Frame J B ω)} {q : Result}
  {r r' : Option Result} {told told' : List (Occurrence J)}

/-! ## Quiescence before the end of a drop -/

theorem Turn.forget_notMem (h : Turn w n v s f v' s' fs r told) : .forget ∉ fs := by
  cases h with
  | finish | panic | shed =>
      exact fun hmem => forall_mem_ended (p := (.forget ≠ ·)) (fun _ => nofun) nofun _ hmem rfl
  | takeRegistry | join =>
      exact fun hmem => forall_mem_joining (p := (.forget ≠ ·)) (fun _ _ => nofun) nofun _ hmem rfl
  | _ => simp

/-- A drop gives up the handle that it drained with when a drain has returned. -/
theorem Receives.forget (h : Receives q g gs r told) (hmem : .forget ∈ gs) :
    ∃ stats, q = .drained stats := by
  cases h with
  | drainDrop => exact ⟨_, rfl⟩
  | _ => simp at hmem

theorem Receives.not_drained (h : Receives q g gs r told) : ∀ stats, .drained stats ∉ r := by
  cases h <;> simp

/-- Whoever gives up the handle that it drained with has drained. -/
theorem Machine.Runs.quiescent_of_forget {limit : Nat} {world : ω} {first : List (Request J ω)}
    {others : List (List (Request J ω))} {reliable : Bool} {m : Machine J B ω}
    {history : Machine.History J}
    (run : Machine.Runs w reliable (.ofClients limit world first others) history m)
    (hforget : .forget ∈ m.frames) : m.shared.gate.lifecycle = .quiescent := by
  have hall : ∀ f ∈ m.frames, f = .forget → m.shared.gate.lifecycle = .quiescent := by
    refine run.turn_induction
      (P := fun m _ => ∀ f ∈ m.frames, f = .forget → m.shared.gate.lifecycle = .quiescent) ?_ ?_
    · intro f hf heq
      obtain ⟨_, _, rfl⟩ := Machine.exists_client_of_mem_ofClients hf
      cases heq
    · intro n f fs below above rest r r' told told' past m₁ m₂ run₁ _ hbefore hafter _ hturn
        hpasses _ h
      rw [hbefore] at h
      rw [hafter]
      have hreceipt {q : Result} {g : Frame J B ω} {gs : Multiset (Frame J B ω)}
          {q' : Option Result} {told : List (Occurrence J)} (hreceives : Receives q g gs q' told)
          (hfits : ∀ stats, q = .drained stats → m₂.shared.gate.lifecycle = .quiescent)
          (_ : g = .forget → m₂.shared.gate.lifecycle = .quiescent) :
          (∀ f ∈ gs, f = .forget → m₂.shared.gate.lifecycle = .quiescent) ∧
            ∀ x ∈ q', ∀ stats, x = .drained stats → m₂.shared.gate.lifecycle = .quiescent := by
        constructor
        · rintro f hf rfl
          obtain ⟨stats, rfl⟩ := hreceives.forget hf
          exact hfits stats rfl
        · rintro x hx stats rfl
          exact absurd hx (hreceives.not_drained stats)
      refine hpasses.forall_mem_after hreceipt ?_ ?_ ?_ (f := f)
      · rintro g hg rfl
        exact absurd hg hturn.forget_notMem
      · rintro x hx stats rfl
        obtain rfl := Option.mem_def.mp hx
        obtain ⟨p, rfl⟩ := hturn.exists_of_drained
        have hq := run₁.accounted.quiescent_of_settled (.concluding p)
          (by rw [hbefore]; exact Multiset.mem_cons_self ..) trivial
        exact (hturn.quiescent hq).1
      · intro g hg heq
        exact (hturn.quiescent (h g hg heq)).1
  exact hall _ hforget rfl

/-! ## Threads that drop -/

/-- A call that goes on is for what it was made for. -/
theorem Call.errand_of_step {call next : Call J B} {r : Stepped J (CallProgress J B)}
    (h : call.step w n v s = some (v', r)) (hnext : r.next = .more next) :
    next.errand = call.errand := by
  have hembed {σ ρ : Type} {p : Progress σ ρ} (wrap : σ → Call J B) (k : ρ → Returned) {e : Errand}
      (he : ∀ q, (wrap q).errand = e)
      (hp : p.embed (fun q => Progress.more (wrap q)) (fun x => .done (k x)) =
        (.more next : CallProgress J B)) : next.errand = e := by
    cases p with
    | more q =>
        cases hp
        exact he q
    | done x => cases hp
  cases call with
  | submitting p =>
      cases h
      exact hembed submitting .submitted (fun _ => rfl) hnext
  | starting p =>
      cases h
      exact hembed starting (fun _ => .started) (fun _ => rfl) hnext
  | draining p =>
      obtain ⟨⟨v₁, r₁⟩, -, hr⟩ := Option.map_eq_some_iff.mp h
      cases hr
      exact hembed draining .drained (fun _ => rfl) hnext
  | reading p =>
      cases h
      exact hembed reading .stats (fun _ => rfl) hnext
  | dropping p =>
      obtain ⟨⟨v₁, r₁⟩, -, hr⟩ := Option.map_eq_some_iff.mp h
      cases hr
      exact hembed dropping (fun _ => .dropped) (fun _ => rfl) hnext

/-- Clients that drop a handle themselves are at the beginning of a drop. -/
theorem Thread.eq_of_decrement_mem {held : Nat} {call : Option (Call J B)}
    {script : List (Request J ω)} {unwinding : Bool}
    (hf : .decrement unwinding ∈ (Thread.client ⟨held, call, script⟩ : Thread J B ω).frames) :
    call = some (.dropping (.decrement unwinding)) := by
  have hsubmitting (p : Submitting J) : (.decrement unwinding : Frame J B ω) ∉ p.frames := by
    cases p <;> simp [Submitting.frames]
  have hstarting (p : Starting) : (.decrement unwinding : Frame J B ω) ∉ p.frames := by
    cases p <;> simp [Starting.frames]
  have hserving (p : Serving J B) : (.decrement unwinding : Frame J B ω) ∉ p.frames := by
    cases p <;> simp [Serving.frames, hsubmitting, hstarting]
  have hdraining (p : Draining J B) : (.decrement unwinding : Frame J B ω) ∉ p.frames := by
    cases p <;> simp [Draining.frames, hstarting, hserving]
  cases call with
  | none => simp [Thread.frames] at hf
  | some call =>
      cases call with
      | submitting p => simp [Thread.frames, Call.frames, hsubmitting] at hf
      | starting p => simp [Thread.frames, Call.frames, hstarting] at hf
      | draining p => simp [Thread.frames, Call.frames, hdraining] at hf
      | reading p => simp [Thread.frames, Call.frames] at hf
      | dropping p =>
          cases p with
          | decrement u =>
              obtain rfl : unwinding = u := by
                simpa [Thread.frames, Call.frames, Dropping.frames] using hf
              rfl
          | _ => simp [Thread.frames, Call.frames, Dropping.frames, hdraining] at hf

/-- A client runs a job only while it drains. -/
theorem Call.drains_of_serving {call : Call J B} (hf : f ∈ call.frames)
    (hserving : f.isServing = true) : call.errand = .drain ∨ ∃ p, call = .dropping (.drain p) := by
  cases call with
  | submitting p => simp [p.not_isServing f hf] at hserving
  | starting p => simp [p.not_isServing f hf] at hserving
  | draining p => exact .inl rfl
  | reading p =>
      rw [Multiset.mem_singleton.mp hf] at hserving
      cases hserving
  | dropping p =>
      cases p with
      | drain p => exact .inr ⟨p, rfl⟩
      | _ =>
          rw [Multiset.mem_singleton.mp hf] at hserving
          cases hserving

theorem add_le_weigh {a : Frame J B ω → Nat} (hf : f ∈ fs) (hg : g ∈ fs) (hne : f ≠ g) :
    a f + a g ≤ weigh a fs := by
  obtain ⟨others, rfl⟩ := Multiset.exists_cons_of_mem hf
  obtain ⟨others', rfl⟩ :=
    Multiset.exists_cons_of_mem ((Multiset.mem_cons.mp hg).resolve_left hne.symm)
  rw [weigh_cons, weigh_cons, ← add_assoc]
  exact Nat.le_add_right _ _

/-- The drop is that of the last handle, which is gone. -/
def Dropping.isParting : Dropping J B → Prop
  | decrement _ => False
  | checkLifecycle | reclaim | drain _ | forget => True

namespace Machine

variable {limit : Nat} {world : ω} {first : List (Request J ω)}
  {others : List (List (Request J ω))} {reliable : Bool} {m m' : Machine J B ω}
  {history : History J} {t u : ThreadId} {canSpawn : Bool} {occurred : List (Occurrence J)}
  {th : Thread J B ω}

/-- The thread is in the middle of a drop at that point. -/
def DropsAt (m : Machine J B ω) (t : ThreadId) (p : Dropping J B) : Prop :=
  ∃ held script, m.threads[t]? = some (.client ⟨held, some (.dropping p), script⟩)

/-- The thread has dropped the last handle and is still in its drop. -/
def Parts (m : Machine J B ω) (t : ThreadId) : Prop := ∃ p, m.DropsAt t p ∧ p.isParting

/-- The thread is no worker, and no panic unwinds it. -/
def IsOutside (m : Machine J B ω) (t : ThreadId) : Prop :=
  ∃ c, m.threads[t]? = some (.client c) ∧ c.call ≠ some (.dropping (.decrement true))

theorem DropsAt.frames_subset {p : Dropping J B} (h : m.DropsAt t p) :
    ∀ f ∈ p.frames, f ∈ m.frames := by
  obtain ⟨held, script, hth⟩ := h
  intro f hf
  refine mem_frames.mpr ⟨_, List.mem_of_getElem? hth, ?_⟩
  exact Multiset.mem_add.mpr (.inl hf)

/-- No handle is alive while the drop of the last one goes on. -/
theorem Runs.liveHandles_of_parts
    (run : Runs w reliable (ofClients limit world first others) history m) (h : m.Parts t) :
    m.liveHandles = 0 := by
  obtain ⟨p, hdrops, hparting⟩ := h
  refine run.handled.gone ?_
  have hmem : ∃ f ∈ (p.frames : Multiset (Frame J B ω)), 0 < f.parting := by
    cases p with
    | decrement unwinding => exact absurd hparting id
    | drain q => exact ⟨.drain, by simp [Dropping.frames], Nat.one_pos⟩
    | _ => exact ⟨_, Multiset.mem_singleton_self _, Nat.one_pos⟩
  obtain ⟨f, hf, hpos⟩ := hmem
  obtain ⟨others, hothers⟩ := Multiset.exists_cons_of_mem (hdrops.frames_subset f hf)
  rw [hothers, weigh_cons]
  exact Nat.add_pos_left hpos _

/-! ## One step -/

theorem getElem?_set_eq {threads : List (Thread J B ω)} {next : Thread J B ω}
    (h : (threads.set t next)[t]? = some th) : th = next := by
  rw [List.getElem?_set] at h
  simp only [if_true] at h
  split at h
  · exact (Option.some.inj h).symm
  · cases h

/-- What the request of a client leaves of the threads and of the counter. -/
structure Requested (m m' : Machine J B ω) (t : ThreadId) : Prop where
  handles : m.shared.handles ≤ m'.shared.handles
  /-- The client is in no call, or at the beginning of one. -/
  begins : ¬m'.Parts t
  /-- Another client is where it was.  It may own one more handle. -/
  others : ∀ u held call script, u ≠ t →
    m.threads[u]? = some (.client ⟨held, call, script⟩) →
    ∃ held', m'.threads[u]? = some (.client ⟨held', call, script⟩)

theorem requested_of_set {c : Client J B ω} (hset : m'.threads = m.threads.set t (.client c))
    (hhandles : m.shared.handles ≤ m'.shared.handles)
    (hcall : ∀ p, c.call = some (.dropping p) → ¬p.isParting) : Requested m m' t := by
  refine ⟨hhandles, ?_, ?_⟩
  · rintro ⟨p, ⟨held, script, hth⟩, hparting⟩
    rw [hset] at hth
    cases getElem?_set_eq hth
    exact hcall p rfl hparting
  · intro u held call script hne hu
    refine ⟨held, ?_⟩
    rw [hset, List.getElem?_set_ne hne.symm, hu]

theorem enter_requested {held left : Nat} {call : Call J B} {script : List (Request J ω)}
    (h : m.enter t held left call script = some (m', occurred))
    (hcall : ∀ p, call = .dropping p → ¬p.isParting) : Requested m m' t := by
  unfold enter at h
  split at h
  · cases h
    refine requested_of_set rfl le_rfl ?_
    rintro p ⟨⟩
    exact hcall p rfl
  · cases h

theorem request_requested {held : Nat} {request : Request J ω} {script : List (Request J ω)}
    (h : m.request t held script request = some (m', occurred)) : Requested m m' t := by
  cases request with
  | submit job given =>
      simp only [Machine.request] at h
      split at h
      · exact enter_requested h (by rintro p ⟨⟩)
      · cases h
  | start | drain | stats => exact enter_requested h (by rintro p ⟨⟩)
  | drop unwinding =>
      refine enter_requested h ?_
      rintro p ⟨⟩
      exact id
  | close =>
      simp only [Machine.request] at h
      split at h
      · cases h
        exact requested_of_set rfl le_rfl (by rintro p ⟨⟩)
      · cases h
  | clone =>
      simp only [Machine.request] at h
      split at h
      · cases h
        exact requested_of_set rfl (Nat.le_succ _) (by rintro p ⟨⟩)
      · cases h
  | give receiver =>
      simp only [Machine.request] at h
      split at h
      · next other hother =>
          split at h
          · next hok =>
              cases h
              have hfirst : Requested m (m.withClient t ⟨held - 1, none, script⟩) t :=
                requested_of_set rfl le_rfl (by rintro p ⟨⟩)
              refine ⟨le_rfl, ?_, ?_⟩
              · rintro ⟨p, ⟨held', script', hth⟩, hparting⟩
                refine hfirst.begins ⟨p, ⟨held', script', ?_⟩, hparting⟩
                rw [← hth]
                exact (List.getElem?_set_ne hok.2).symm
              · intro u held' call script' hne hu
                by_cases hreceiver : u = receiver
                · subst hreceiver
                  rw [hother] at hu
                  cases hu
                  obtain ⟨hlt, -⟩ := List.getElem?_eq_some_iff.mp hother
                  exact ⟨_, List.getElem?_set_self (by simpa [withClient] using hlt)⟩
                · obtain ⟨held'', hu'⟩ := hfirst.others u held' call script' hne hu
                  refine ⟨held'', ?_⟩
                  rw [← hu']
                  exact List.getElem?_set_ne (Ne.symm hreceiver)
          · cases h
      · cases h
  | touch effect =>
      cases h
      exact requested_of_set rfl le_rfl (by rintro p ⟨⟩)

theorem getElem?_commit_ne {σ : Type} {world : ω} {r : Stepped J σ} {next : σ → Thread J B ω}
    (hne : u ≠ t) (hu : m.threads[u]? = some th) :
    (m.commit t world r next).threads[u]? = some th := by
  obtain ⟨hlt, -⟩ := List.getElem?_eq_some_iff.mp hu
  rw [commit, List.getElem?_append_left (by simpa using hlt), List.getElem?_set_ne hne.symm, hu]

/-- A client is where it was when another thread has taken a step. -/
theorem client_of_step (h : m.step w t canSpawn = some (m', occurred)) (hne : u ≠ t) {held : Nat}
    {call : Option (Call J B)} {script : List (Request J ω)}
    (hu : m.threads[u]? = some (.client ⟨held, call, script⟩)) :
    ∃ held', m'.threads[u]? = some (.client ⟨held', call, script⟩) := by
  cases stepping_of_step h with
  | serves | calls => exact ⟨held, getElem?_commit_ne hne hu⟩
  | asks _ hrequest => exact (request_requested hrequest).others u held call script hne hu

theorem DropsAt.of_step {p : Dropping J B} (h : m.step w t canSpawn = some (m', occurred))
    (hne : u ≠ t) (hdrops : m'.DropsAt u p) : m.DropsAt u p := by
  obtain ⟨held, script, hu'⟩ := hdrops
  have hkeeps := step_keeps h
  have hclient : ¬m'.IsWorker u := by
    rintro ⟨number, serving, hworker⟩
    rw [hu'] at hworker
    cases hworker
  cases hu : m.threads[u]? with
  | none =>
      -- no client joins: a thread that was not there is the worker that was spawned
      have hge := List.getElem?_eq_none_iff.mp hu
      obtain ⟨hlt, -⟩ := List.getElem?_eq_some_iff.mp hu'
      rw [hkeeps.length] at hlt
      cases hspawned : occurred.any Occurrence.isSpawning with
      | false =>
          rw [hspawned] at hlt
          exact absurd hlt (Nat.not_lt_of_ge hge)
      | true =>
          rw [hspawned] at hlt
          obtain rfl : u = m.threads.length := Nat.le_antisymm (Nat.lt_succ_iff.mp hlt) hge
          exact absurd (hkeeps.newcomer hspawned) hclient
  | some th =>
      rcases th with ⟨held₀, call, script₀⟩ | ⟨number, serving⟩
      · obtain ⟨held', hu''⟩ := client_of_step h hne hu
        rw [hu'] at hu''
        cases hu''
        exact ⟨held₀, script, hu⟩
      · exact absurd (hkeeps.workers u ⟨number, serving, hu⟩) hclient

/-! ## The step of a drop -/

theorem DropsAt.step {p : Dropping J B} {held : Nat} {script : List (Request J ω)}
    (hth : m.threads[t]? = some (.client ⟨held, some (.dropping p), script⟩))
    (h : m.step w t canSpawn = some (m', occurred)) :
    ∃ v r, p.step w (m.neighbours t canSpawn) m.world m.shared = some (v, r) ∧
      m'.shared = r.shared ∧
      m'.threads[t]? = some (.client ⟨held, r.next.embed (fun q => some (.dropping q))
        fun _ => none, script⟩) ∧
      occurred = r.events.map .event ++
        r.next.embed (fun _ => []) fun _ => [.returned .dropped] := by
  unfold Machine.step at h
  rw [hth] at h
  obtain ⟨⟨v₁, r₁⟩, hp, hr⟩ := Option.map_eq_some_iff.mp h
  cases hr
  obtain ⟨⟨v₂, r₂⟩, hp₂, hr₂⟩ := Option.map_eq_some_iff.mp hp
  cases hr₂
  refine ⟨_, r₂, hp₂, rfl, ?_, ?_⟩
  · rw [getElem?_commit_self hth]
    cases hnext : r₂.next <;> simp [Stepped.map, hnext, Progress.embed]
  · cases hnext : r₂.next <;> simp [Stepped.map, hnext, Progress.embed]

/-- A client that has dropped the last handle stays in its drop until quiescence was declared. -/
theorem Parts.step (run : Runs w reliable (ofClients limit world first others) history m)
    (hparts : m.Parts t) (h : m.step w t canSpawn = some (m', occurred)) :
    (m'.Parts t ∧ ∀ x, .returned x ∉ occurred) ∨ m'.shared.gate.lifecycle = .quiescent := by
  obtain ⟨p, hdrops, hparting⟩ := hparts
  have hframes := hdrops.frames_subset
  obtain ⟨held, script, hth⟩ := hdrops
  obtain ⟨v, r, hstep, hshared, hth', hoccurred⟩ := DropsAt.step hth h
  have hstays {q : Dropping J B} (hnext : r.next = .more q) (hq : q.isParting) :
      (m'.Parts t ∧ ∀ x, .returned x ∉ occurred) ∨ m'.shared.gate.lifecycle = .quiescent := by
    rw [hnext] at hth' hoccurred
    exact .inl ⟨⟨q, ⟨held, script, hth'⟩, hq⟩, by simp [hoccurred, Progress.embed]⟩
  cases p with
  | decrement unwinding => exact absurd hparting id
  | checkLifecycle =>
      cases hstep
      by_cases hq : m.shared.gate.lifecycle = .quiescent
      · exact .inr (by rw [hshared]; exact hq)
      · exact hstays (if_neg hq) trivial
  | reclaim =>
      cases hstep
      exact hstays rfl trivial
  | drain q =>
      obtain ⟨⟨v₁, r₁⟩, -, hr⟩ := Option.map_eq_some_iff.mp hstep
      cases hr
      cases hnext : r₁.next with
      | more q' =>
          have hdrain :
              (r₁.map fun x => Progress.more (x.embed Dropping.drain fun _ => .forget)).next =
                (.more (.drain q') : Progress (Dropping J B) Unit) := by
            simp only [Stepped.map, hnext, Progress.embed]
          exact hstays hdrain trivial
      | done stats =>
          have hforget :
              (r₁.map fun x => Progress.more (x.embed Dropping.drain fun _ => .forget)).next =
                (.more .forget : Progress (Dropping J B) Unit) := by
            simp only [Stepped.map, hnext, Progress.embed]
          exact hstays hforget trivial
  | forget =>
      cases hstep
      refine .inr ?_
      rw [hshared]
      exact run.quiescent_of_forget (hframes _ (Multiset.mem_singleton_self _))

/-- Who has dropped the last handle has seen the counter at one. -/
theorem parts_of_step (h : m.step w t canSpawn = some (m', occurred)) (hparts : m'.Parts t) :
    m.Parts t ∨ m.DropsAt t (.decrement false) ∧ m.shared.handles = 1 := by
  obtain ⟨q, ⟨held, script, hth'⟩, hparting⟩ := hparts
  cases stepping_of_step h with
  | @serves _ _ _ r hth hp =>
      rw [getElem?_commit_self hth] at hth'
      cases hnext : r.next <;> rw [hnext] at hth' <;> cases hth'
  | @calls held₀ call script₀ _ r₁ hth hcall =>
      cases call with
      | dropping p =>
          obtain ⟨v, r, hp, -, hthread, -⟩ := DropsAt.step hth h
          rw [hth'] at hthread
          have hnext : r.next = .more q := by
            cases hr : r.next with
            | more q' => rw [hr] at hthread; cases hthread; rfl
            | done x => rw [hr] at hthread; cases hthread
          cases p with
          | decrement unwinding =>
              cases hp
              by_cases hlast : m.shared.handles = 1 ∧ unwinding = false
              · obtain ⟨hone, rfl⟩ := hlast
                exact .inr ⟨⟨held₀, script₀, hth⟩, hone⟩
              · simp [Stepped.silent, hlast] at hnext
          | _ => exact .inl ⟨_, ⟨held₀, script₀, hth⟩, trivial⟩
      | _ =>
          rw [getElem?_commit_self hth] at hth'
          cases hnext : r₁.next with
          | more call =>
              rw [hnext] at hth'
              cases hth'
              exact nomatch Call.errand_of_step hcall hnext
          | done x => rw [hnext] at hth'; cases hth'
  | asks _ hrequest =>
      exact absurd ⟨q, ⟨held, script, hth'⟩, hparting⟩ (request_requested hrequest).begins

/-- The step that decrements the counter ends the drop, or it goes on. -/
theorem DropsAt.decrement {unwinding : Bool} (hdrops : m.DropsAt t (.decrement unwinding))
    (h : m.step w t canSpawn = some (m', occurred)) :
    m'.shared = m.shared.dropHandle ∧
      if m.shared.handles = 1 ∧ unwinding = false then m'.Parts t
      else ∃ held script, m'.threads[t]? = some (.client ⟨held, none, script⟩) ∧
        occurred = [.returned .dropped] := by
  obtain ⟨held, script, hth⟩ := hdrops
  obtain ⟨v, r, hp, hshared, hth', hoccurred⟩ := DropsAt.step hth h
  cases hp
  refine ⟨hshared, ?_⟩
  split
  · next hlast =>
      rw [if_pos hlast] at hth'
      exact ⟨.checkLifecycle, ⟨held, script, hth'⟩, trivial⟩
  · next hother =>
      rw [if_neg hother] at hth' hoccurred
      exact ⟨held, script, hth', hoccurred⟩

theorem handled_of_step (h : Handled m.shared m.frames)
    (hstep : m.step w t canSpawn = some (m', occurred)) : Handled m'.shared m'.frames := by
  obtain ⟨r, hserved, f, fs, below, above, rest, r₀, told₀, told₁, hturn, hpasses, hbefore, hafter,
    -⟩ := step_rewrites hstep
  rw [hbefore] at h
  rw [hafter]
  refine h.turn hturn hpasses ?_
  cases r with
  | none => rfl
  | some q => rw [hserved q rfl]; rfl

/-- A handle is dropped by the step of the thread. -/
structure Drops (m : Machine J B ω) (t : ThreadId) (m' : Machine J B ω)
    (occurred : List (Occurrence J)) : Prop where
  one : m.liveHandles = m'.liveHandles + 1
  /-- The counter tells the last one from the others. -/
  last_iff : m.shared.handles = 1 ↔ m.liveHandles = 1
  /-- The drop itself changes the counter only. -/
  unchanged : m'.shared = m.shared.dropHandle
  quiet : ∀ e, .event e ∉ occurred
  /-- The thread goes on in its drop if and only if it has dropped the last handle, it is no worker
  and no panic unwinds it. -/
  parts_iff : m'.Parts t ↔ m.liveHandles = 1 ∧ m.IsOutside t
  /-- Otherwise a client returns at once. -/
  returns : ∀ unwinding, m.DropsAt t (.decrement unwinding) → ¬m'.Parts t →
    occurred = [.returned .dropped] ∧ ∃ held script,
      m'.threads[t]? = some (.client ⟨held, none, script⟩)

/-- A client whose step drops the last handle is at the beginning of a drop. -/
theorem Runs.dropsAt_of_last
    (run : Runs w reliable (ofClients limit world first others) history m)
    (hlive : m.liveHandles = 1) (hparting : weigh Frame.parting m.frames = 0) {held : Nat}
    {call : Option (Call J B)} {script : List (Request J ω)}
    (hth : m.threads[t]? = some (.client ⟨held, call, script⟩))
    (h : m.step w t canSpawn = some (m', occurred))
    (hlt : m'.shared.handles < m.shared.handles) :
    ∃ unwinding, call = some (.dropping (.decrement unwinding)) := by
  have hmem {f : Frame J B ω}
      (hf : f ∈ (Thread.client ⟨held, call, script⟩ : Thread J B ω).frames) : f ∈ m.frames :=
    mem_frames.mpr ⟨_, List.mem_of_getElem? hth, hf⟩
  -- who drops a handle and has a caller that owns one is not the last
  have hpair {f g : Frame J B ω} (hf : f ∈ m.frames) (hg : g ∈ m.frames) (hne : f ≠ g)
      (hfpos : 0 < f.handles) (hgpos : 0 < g.handles) : False := by
    have htwo := add_le_weigh (a := Frame.handles) hf hg hne
    unfold liveHandles at hlive
    omega
  rcases turn_of_step h with ⟨held₀, request, script₀, -, hrequest⟩ |
    ⟨th, f, fs, r, told, hth', hf, hturn⟩
  · exact absurd hlt (Nat.not_lt_of_ge (request_requested hrequest).handles)
  · rw [hth] at hth'
    cases hth'
    rcases hturn.owner hlt with rfl | ⟨unwinding, rfl⟩ | ⟨left, rfl⟩ | ⟨hserving, hpos⟩
    · exact absurd (eq_zero_of_weigh hparting (hmem hf)) Nat.one_ne_zero
    · exact ⟨unwinding, Thread.eq_of_decrement_mem hf⟩
    · obtain ⟨g, hg, ⟨k, handles, next, rfl⟩ | ⟨held', script', rfl⟩⟩ :=
        run.exists_awaits (hmem hf) rfl
      · exact (hpair (hmem hf) hg nofun (Nat.succ_pos _) (run.provided _ hg)).elim
      · exact (hpair (hmem hf) hg nofun (Nat.succ_pos _) (run.provided _ hg nofun)).elim
    · cases call with
      | none =>
          rw [Multiset.mem_singleton.mp hf] at hserving
          cases hserving
      | some call =>
          rcases Multiset.mem_add.mp hf with hcall | hclient
          · have hcaller : .client held (some call.errand) script ∈ m.frames :=
              hmem (Multiset.mem_add.mpr (.inr (Multiset.mem_singleton_self _)))
            rcases call.drains_of_serving hcall hserving with herrand | ⟨p, rfl⟩
            · rw [herrand] at hcaller
              refine (hpair (hmem hf) hcaller ?_ hpos (run.provided _ hcaller nofun)).elim
              rintro rfl
              cases hserving
            · have hdrain : Frame.drain ∈ m.frames :=
                hmem (by simp [Thread.frames, Call.frames, Dropping.frames])
              exact absurd (eq_zero_of_weigh hparting hdrain) Nat.one_ne_zero
          · rw [Multiset.mem_singleton.mp hclient] at hserving
            cases hserving

theorem Runs.drops (run : Runs w reliable (ofClients limit world first others) history m)
    (h : m.step w t canSpawn = some (m', occurred)) (hlt : m'.liveHandles < m.liveHandles) :
    Drops m t m' occurred := by
  obtain ⟨r, hserved, f, fs, below, above, rest, r₀, told₀, told₁, hturn, hpasses, hbefore, hafter,
    rfl⟩ := step_rewrites h
  have hhandled := run.handled
  have hpassed := hpasses.handles
  have hnone : Result.handles r = 0 := by
    cases r with
    | none => rfl
    | some q => rw [hserved q rfl]; rfl
  have hparting : weigh Frame.parting m.frames = 0 := by
    by_contra hpos
    have hgone : m.liveHandles = 0 := hhandled.gone (Nat.pos_of_ne_zero hpos)
    omega
  have hdrains : weigh Frame.drains m.frames = 0 :=
    Nat.le_zero.mp (hparting ▸ weigh_le_weigh Frame.drains_le_parting _)
  have hcounter : m.shared.handles = m.liveHandles := by
    have := hhandled.counter
    unfold liveHandles
    omega
  have hlive : m.liveHandles =
      f.handles + (weigh Frame.handles below + weigh Frame.handles rest) +
        queueHandles m.shared.queue.items := by
    rw [liveHandles, hbefore, weigh_cons, weigh_add]
  have hlive' : m'.liveHandles =
      weigh Frame.handles fs + (weigh Frame.handles above + weigh Frame.handles rest) +
        queueHandles m'.shared.queue.items := by
    rw [liveHandles, hafter, weigh_add, weigh_add]
  have hchange : m'.shared = m.shared.dropHandle ∧ m.liveHandles = m'.liveHandles + 1 ∧
      told₀ = [] := by
    cases hturn.handleChange with
    | dropped hs hafter htold => exact ⟨hs, by omega, htold⟩
    | kept | made | reclaimed | forgotten => omega
  obtain ⟨hshared, hone, rfl⟩ := hchange
  have hquiet : ∀ e, .event e ∉ ([] ++ told₁ : List (Occurrence J)) := by
    intro e he
    exact nomatch List.filterMap_eq_nil_iff.mp hpasses.no_event _ he
  refine ⟨hone, by rw [hcounter], hshared, hquiet, ⟨?_, ?_⟩, ?_⟩
  · intro hparts
    rcases parts_of_step h hparts with hparts₀ | ⟨⟨held, script, hth⟩, hlast⟩
    · have := run.liveHandles_of_parts hparts₀
      omega
    · exact ⟨hcounter ▸ hlast, _, hth, by simp⟩
  · rintro ⟨hlast, ⟨held, call, script⟩, hth, houtside⟩
    have hcounts : m'.shared.handles < m.shared.handles := by
      rw [hshared]
      show m.shared.handles - 1 < m.shared.handles
      omega
    obtain ⟨unwinding, rfl⟩ := run.dropsAt_of_last hlast hparting hth h hcounts
    cases unwinding with
    | true => exact absurd rfl houtside
    | false =>
        have hgoes := (DropsAt.decrement ⟨held, script, hth⟩ h).2
        rw [if_pos ⟨hcounter.trans hlast, rfl⟩] at hgoes
        exact hgoes
  · intro unwinding hdrops hstays
    have hgoes := (hdrops.decrement h).2
    split at hgoes
    · exact absurd hgoes hstays
    · obtain ⟨held, script, hth, hoccurred⟩ := hgoes
      exact ⟨hoccurred, held, script, hth⟩

/-- The drop of the last handle begins with that handle and goes on as the drop of no other. -/
theorem Runs.parts_of_last (run : Runs w reliable (ofClients limit world first others) history m)
    (h : m.step w t canSpawn = some (m', occurred)) (hparts : m'.Parts u) (hnew : ¬m.Parts u) :
    u = t ∧ m.liveHandles = 1 ∧ m'.liveHandles = 0 ∧ m.IsOutside t := by
  by_cases hne : u = t
  · subst hne
    obtain ⟨hdrops, hlast⟩ := (parts_of_step h hparts).resolve_left hnew
    have hhandled := run.handled
    have hmem := hdrops.frames_subset _ (Multiset.mem_singleton_self _)
    have hpos : 0 < weigh Frame.handles m.frames := by
      obtain ⟨others, hothers⟩ := Multiset.exists_cons_of_mem hmem
      rw [hothers, weigh_cons]
      exact Nat.add_pos_left Nat.one_pos _
    have hcounter := hhandled.counter
    have hcounter' := (handled_of_step hhandled h).counter
    have hshared : m'.shared.handles = m.shared.handles - 1 :=
      congrArg Shared.handles (hdrops.decrement h).1
    refine ⟨rfl, ?_, ?_, ?_⟩
    · unfold liveHandles
      omega
    · unfold liveHandles
      omega
    · obtain ⟨held, script, hth⟩ := hdrops
      exact ⟨_, hth, by simp⟩
  · obtain ⟨p, hdrops, hparting⟩ := hparts
    exact absurd ⟨p, hdrops.of_step h hne, hparting⟩ hnew

/-- Until it returns, or quiescence was declared, the drop of the last handle goes on. -/
theorem Runs.parts (run : Runs w reliable (ofClients limit world first others) history m)
    (hparts : m.Parts t) {later : History J} (hlater : Runs w reliable m later m') :
    (m'.Parts t ∧ ∀ x, (t, .returned x) ∉ later) ∨ m'.shared.gate.lifecycle = .quiescent := by
  induction hlater with
  | refl => exact .inl ⟨hparts, by simp⟩
  | @step past m₁ m₂ u canSpawn occurred runs spawns last ih =>
      rcases ih with ⟨hparts₁, hpast⟩ | hquiescent
      · by_cases hne : t = u
        · subst hne
          refine (hparts₁.step (run.trans runs) last).imp_left ?_
          rintro ⟨hparts₂, hsilent⟩
          refine ⟨hparts₂, fun x hx => ?_⟩
          rcases List.mem_append.mp hx with hx | hx
          · exact hpast x hx
          · obtain ⟨o, ho, heq⟩ := List.mem_map.mp hx
            cases heq
            exact hsilent x ho
        · obtain ⟨p, ⟨held, script, hth⟩, hparting⟩ := hparts₁
          obtain ⟨held', hth'⟩ := client_of_step last hne hth
          refine .inl ⟨⟨p, ⟨held', script, hth'⟩, hparting⟩, fun x hx => ?_⟩
          rcases List.mem_append.mp hx with hx | hx
          · exact hpast x hx
          · obtain ⟨o, ho, heq⟩ := List.mem_map.mp hx
            cases heq
            exact hne rfl
      · obtain ⟨r, -, f, fs, below, above, rest, r₀, told₀, told₁, hturn, -, -, -, -⟩ :=
          step_rewrites last
        exact .inr (hturn.quiescent hquiescent).1

/-! ## The drop of the last handle -/

/-- Whatever clients and jobs do with their handles, the counter is the number of those that are
alive, and one more while a drop drains.  A step that drops a handle changes nothing else; its
thread goes on to drain if and only if that was the last handle and the thread is a client that does
not panic, and no thread ever does so otherwise.  When the drop of the last handle returns, the
dispatcher is quiescent and every job that was accepted has run once and to its end. -/
theorem Runs.last_handle_drains
    (run : Runs w reliable (ofClients limit world first others) history m) :
    (m.shared.handles = m.liveHandles + m.drainingDrops ∧ m.drainingDrops ≤ 1) ∧
      (∀ t canSpawn m' occurred, m.step w t canSpawn = some (m', occurred) →
        (m'.liveHandles < m.liveHandles → Drops m t m' occurred) ∧
        ∀ u, m'.Parts u → ¬m.Parts u →
          u = t ∧ m.liveHandles = 1 ∧ m'.liveHandles = 0 ∧ m.IsOutside t) ∧
      ∀ t, m.Parts t → ∀ later m', Runs w reliable m later m' →
        ∀ x, (t, .returned x) ∈ later →
          m'.shared.gate.lifecycle = .quiescent ∧
            ∀ a ∈ accepted (history ++ later), ∃ e, lifeOf a.ticket (history ++ later) =
              [.accepted a, .pushed a, .popped a, .ended a.ticket e] := by
  have hhandled := run.handled
  have hle : weigh Frame.drains m.frames ≤ weigh Frame.parting m.frames :=
    weigh_le_weigh Frame.drains_le_parting _
  refine ⟨⟨hhandled.counter, hle.trans hhandled.alone⟩, ?_, ?_⟩
  · intro t canSpawn m' occurred h
    exact ⟨run.drops h, fun u hparts hnew => run.parts_of_last h hparts hnew⟩
  · intro t hparts later m' hlater x hx
    have hquiescent : m'.shared.gate.lifecycle = .quiescent :=
      (run.parts hparts hlater).resolve_left fun hstays => hstays.2 x hx
    have hrun := run.trans hlater
    have hover := hrun.living.allOver hrun.accounted hquiescent
    exact ⟨hquiescent, fun a => hover.of_mem_accepted⟩

/-- A client that has never started the dispatcher drops a clone, and then its own handle. -/
def leaving : Machine Script.Job Script.Body Script.World :=
  ofClients 2 .empty [.submit [.log "one"] 0, .clone, .drop false, .drop false] []

/-- The drop of the clone returns at once.  The other one runs the job that was buffered. -/
theorem last_handle_drains_leaving :
    ∃ history m m' past m₁ m₂ later m₃, Runs Script.workload true leaving history m ∧
      m.step Script.workload 0 true = some (m', [.returned .dropped]) ∧
      Drops m 0 m' [.returned .dropped] ∧ m.liveHandles = 2 ∧ ¬m'.Parts 0 ∧
      Runs Script.workload true leaving past m₁ ∧
      m₁.step Script.workload 0 true = some (m₂, []) ∧ Drops m₁ 0 m₂ [] ∧
      m₁.liveHandles = 1 ∧ m₂.shared.gate.lifecycle = .created ∧ m₂.Parts 0 ∧
      Runs Script.workload true m₂ later m₃ ∧ (0, .returned .dropped) ∈ later ∧
      m₃.shared.gate.lifecycle = .quiescent ∧
      ∃ e, lifeOf 0 (past ++ later) =
        [.accepted ⟨0, [.log "one"], 0⟩, .pushed ⟨0, [.log "one"], 0⟩,
          .popped ⟨0, [.log "one"], 0⟩, .ended 0 e] := by
  have hrun := runs_settle Script.workload 7 leaving
  have hstep : (leaving.settle Script.workload 7).1.step Script.workload 0 true =
      some ((leaving.settle Script.workload 8).1, [.returned .dropped]) := by rfl
  have hlive : (leaving.settle Script.workload 7).1.liveHandles = 2 := by rfl
  have hlive' : (leaving.settle Script.workload 8).1.liveHandles = 1 := by rfl
  have hdrops := ((Runs.last_handle_drains hrun).2.1 _ _ _ _ hstep).1
    (by rw [hlive, hlive']; decide)
  have hrun₁ := runs_settle Script.workload 9 leaving
  have hstep₁ : (leaving.settle Script.workload 9).1.step Script.workload 0 true =
      some ((leaving.settle Script.workload 10).1, []) := by rfl
  have hlive₁ : (leaving.settle Script.workload 9).1.liveHandles = 1 := by rfl
  have hlive₂ : (leaving.settle Script.workload 10).1.liveHandles = 0 := by rfl
  have hdrops₁ := ((Runs.last_handle_drains hrun₁).2.1 _ _ _ _ hstep₁).1
    (by rw [hlive₁, hlive₂]; decide)
  have houtside : (leaving.settle Script.workload 9).1.IsOutside 0 := ⟨_, rfl, nofun⟩
  have hparts := hdrops₁.parts_iff.mpr ⟨hlive₁, houtside⟩
  have hrun₂ := runs_settle Script.workload 10 leaving
  have hlater := runs_settle Script.workload 28 (leaving.settle Script.workload 10).1
  have hreturned : (0, .returned .dropped) ∈
      ((leaving.settle Script.workload 10).1.settle Script.workload 28).2 :=
    List.mem_of_getLast? (by rfl)
  have haccepted : (⟨0, [.log "one"], 0⟩ : Admitted Script.Job) ∈
      accepted ((leaving.settle Script.workload 10).2 ++
        ((leaving.settle Script.workload 10).1.settle Script.workload 28).2) :=
    List.mem_of_getLast? (by rfl)
  obtain ⟨hquiescent, hjobs⟩ :=
    (Runs.last_handle_drains hrun₂).2.2 0 hparts _ _ hlater .dropped hreturned
  refine ⟨_, _, _, _, _, _, _, _, hrun, hstep, hdrops, hlive, ?_, hrun₁, hstep₁, hdrops₁, hlive₁,
    by rfl, hparts, hlater, hreturned, hquiescent, hjobs _ haccepted⟩
  intro hparts
  rw [hdrops.parts_iff, hlive] at hparts
  exact absurd hparts.1 (by decide)

end Machine

end Frontier.Dispatcher
