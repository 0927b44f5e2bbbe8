/-
# A search returns

When no thread of a search can take a step, the searching client has come to
the end of its script, and it has got there by a drain that has returned.

    no body is blocked            every job owns the handles that it needs    (`Equipped`)
    no client is in a call        the dispatcher is at rest                   (`Runs.at_rest`)
    no client has a request left  it owns the handle that it needs            (`Asks`)
-/
import Frontier.Proofs.Dispatcher.Rest
import Frontier.Proofs.Search.Effort
import Frontier.Proofs.Search.Interruption
import Frontier.Proofs.Search.Sequential
import Mathlib

namespace Frontier.Search

open Dispatcher
open Dispatcher.Machine (Runs History)

variable {plan : Plan} {n : Neighbours} {v v' : Record} {s s' : Shared Place} {f g : SearchFrame}
  {fs gs below above rest : Multiset SearchFrame} {q : Result} {r r' : Option Result}
  {told told' : List (Occurrence Place)} {past : History Place}

/-! ## Handles of jobs -/

/-- The body of a job owns one handle, and two when it is about to give one to another job. -/
def Examination.Holds (h : Nat) : Examination → Prop
  | submit .. => h = 2
  | countFailure _ next | tellFailure _ next | keepFailure _ next => h = 1 ∧ next.Holds h
  | _ => h = 1

/-- Jobs have the handles that they need. -/
def Equipped : SearchFrame → Prop
  | .run _ h ex => ex.Holds h
  | .submitting _ h _ => h = 1
  | .enroll _ handles => handles = 1
  | .count a | .push a => a.handles = 1
  | _ => True

/-- An examination that acts keeps its handles. -/
theorem Examination.Acts.holds {w w' : Record} {ex next : Examination} {h : Nat}
    (hacts : Acts plan w ex w' next) (hex : ex.Holds h) : next.Holds h := by
  cases hacts with
  | unclassified | unlisted | unread => exact ⟨hex, hex⟩
  | judge =>
      unfold afterVerdict
      split <;> exact hex
  | breakFailure => exact hex.1
  | keepFailure | discardFailure => exact hex.2
  | _ => exact hex

/-- A body with the handles that it needs is not blocked. -/
theorem Examination.not_blocked {ex : Examination} {h : Nat} (hex : ex.Holds h) (v : Record) :
    ¬(move plan ex).Blocked v h := by
  intro hblocked
  generalize hmove : move plan ex = mv at hblocked
  cases makes_of_move hmove with
  | close | prepare =>
      cases (show h = 1 from hex)
      exact Nat.one_ne_zero hblocked
  | submit =>
      cases (show h = 2 from hex)
      exact absurd (show 2 ≤ 1 from hblocked) (by decide)
  | _ => exact hblocked

theorem Turn.equipped (h : Turn (workload plan) n v s f v' s' fs r told) (hscripted : Scripted f)
    (hf : Equipped f) (hqueue : ∀ a ∈ s.queue.items, a.handles = 1) :
    (∀ g ∈ fs, Equipped g) ∧ ∀ a ∈ s'.queue.items, a.handles = 1 := by
  cases h with
  | takeSlot ha | reacquire ha | acquireSelf ha =>
      obtain ⟨-, rfl⟩ := Shared.acquire?_eq_some_iff.mp ha
      exact ⟨by simp [Equipped], hqueue⟩
  | handBack | giveUp | release =>
      obtain ⟨_, _, _, hrelease, -⟩ := s.exists_release_eq
      rw [hrelease]
      exact ⟨by simp [Equipped], hqueue⟩
  | accept he =>
      obtain ⟨-, rfl, rfl⟩ := Shared.enroll_eq_ok_iff.mp he
      refine ⟨?_, hqueue⟩
      simp only [Multiset.mem_singleton, forall_eq]
      exact hf
  | count =>
      refine ⟨?_, hqueue⟩
      simp only [Multiset.mem_singleton, forall_eq]
      exact hf
  | push =>
      refine ⟨by simp [Equipped], ?_⟩
      intro a ha
      rw [Shared.push, Queue.items_push, List.mem_append, List.mem_singleton] at ha
      rcases ha with ha | rfl
      · exact hqueue a ha
      · exact hf
  | pop hp =>
      obtain ⟨rest, hitems, rfl⟩ := Shared.pop?_eq_some_iff.mp hp
      rw [hitems] at hqueue
      refine ⟨?_, fun a ha => hqueue a (List.mem_cons_of_mem _ ha)⟩
      simp only [Multiset.mem_singleton, forall_eq]
      exact hqueue _ List.mem_cons_self
  | act hmove =>
      refine ⟨?_, hqueue⟩
      simp only [Multiset.mem_singleton, forall_eq]
      exact (Examination.acts_of_move hmove v).holds hf
  | wait hmove | startInside hmove | ask hmove | dropInside hmove =>
      cases Examination.makes_of_move hmove
  | submit hmove =>
      cases Examination.makes_of_move hmove
      cases (show _ = 2 from hf)
      exact ⟨by simp [Equipped], hqueue⟩
  | cloneInside hmove =>
      cases Examination.makes_of_move hmove
      cases (show _ = 1 from hf)
      exact ⟨by simp [Equipped, Examination.Holds], hqueue⟩
  | closeInside hmove =>
      cases Examination.makes_of_move hmove
      refine ⟨?_, hqueue⟩
      simp only [Multiset.mem_singleton, forall_eq]
      exact hf
  | finish | panic | shed => exact ⟨forall_mem_ended (fun _ => trivial) trivial, hqueue⟩
  | takeRegistry | join => exact ⟨forall_mem_joining (fun _ _ => trivial) trivial, hqueue⟩
  | askSubmit =>
      cases OnScript.asks hscripted with
      | submit p places => exact ⟨by simp [Equipped], hqueue⟩
  | _ => exact ⟨by simp [Equipped], hqueue⟩

theorem Receives.equipped (h : Receives q g gs r told) (hscripted : Scripted g)
    (hg : Equipped g) : ∀ f ∈ gs, Equipped f := by
  cases h with
  | submitBody =>
      obtain ⟨p, kind, rest, rfl⟩ := hscripted
      simp only [Multiset.mem_singleton, forall_eq]
      unfold afterSubmission
      split <;> exact hg
  | startBody => exact absurd hscripted id
  | _ => simp [Equipped]

/-! ## Clients -/

/-- The first thread is the client that searches; other clients own no handle and make no call. -/
structure Cast (m : Machine Place Examination Record) (past : History Place) : Prop where
  searcher : ∃ c, m.threads[0]? = some (.client c) ∧ 0 < c.held
  bystanders : ∀ (t : ThreadId) (c : Client Place Examination Record), t ≠ 0 →
    m.threads[t]? = some (.client c) → c.held = 0 ∧ c.call = none
  returned : ∀ t x, (t, .returned x) ∈ past → t = 0

section Cast

variable {m m' : Machine Place Examination Record} {t : ThreadId} {canSpawn : Bool}
  {occurred : List (Occurrence Place)} {next : Thread Place Examination Record}
  {workers : List (Thread Place Examination Record)}

/-- A thread that keeps its part keeps the cast. -/
theorem Cast.of_set (h : Cast m past) (hlt : t < m.threads.length)
    (hthreads : m'.threads = m.threads.set t next ++ workers)
    (hworkers : ∀ c, .client c ∉ workers)
    (hsearcher : t = 0 → ∃ c, next = .client c ∧ 0 < c.held)
    (hbystander : t ≠ 0 → ∀ c, next = .client c → c.held = 0 ∧ c.call = none)
    (hreturned : t ≠ 0 → ∀ x, .returned x ∉ occurred) :
    Cast m' (past ++ occurred.map (t, ·)) where
  searcher := by
    have hpos : 0 < (m.threads.set t next).length := by
      rw [List.length_set]
      exact Nat.lt_of_le_of_lt (Nat.zero_le t) hlt
    rw [hthreads, List.getElem?_append_left hpos]
    by_cases ht : t = 0
    · subst ht
      obtain ⟨c, rfl, hheld⟩ := hsearcher rfl
      exact ⟨c, List.getElem?_set_self hlt, hheld⟩
    · rw [List.getElem?_set_ne ht]
      exact h.searcher
  bystanders u c hu hc := by
    rw [hthreads] at hc
    by_cases hlt' : u < (m.threads.set t next).length
    · rw [List.getElem?_append_left hlt'] at hc
      by_cases hut : t = u
      · subst hut
        rw [List.getElem?_set_self hlt] at hc
        exact hbystander hu c (Option.some.inj hc)
      · rw [List.getElem?_set_ne hut] at hc
        exact h.bystanders u c hu hc
    · rw [List.getElem?_append_right (Nat.le_of_not_lt hlt')] at hc
      exact absurd (List.mem_of_getElem? hc) (hworkers c)
  returned u x hmem := by
    rw [List.mem_append, List.mem_map] at hmem
    rcases hmem with hmem | ⟨o, ho, heq⟩
    · exact h.returned u x hmem
    · cases heq
      by_contra ht
      exact hreturned ht x ho

theorem Cast.step (h : Cast m past) (hscripted : ∀ f ∈ m.frames, Scripted f)
    (hstep : m.step (workload plan) t canSpawn = some (m', occurred)) :
    Cast m' (past ++ occurred.map (t, ·)) := by
  have hlt := Machine.lt_of_step hstep
  cases Machine.stepping_of_step hstep with
  | @serves _ _ _ r₁ hth hp =>
      have ht : t ≠ 0 := by
        rintro rfl
        obtain ⟨c, hc, -⟩ := h.searcher
        rw [hth] at hc
        cases hc
      refine h.of_set hlt rfl (by simp) (fun hzero => absurd hzero ht) ?_ (by simp)
      intro _ c hc
      cases hnext : r₁.next <;> rw [hnext] at hc <;> cases hc
  | @calls held call script _ r₁ hth hp =>
      have ht : t = 0 := by
        by_contra ht
        cases (h.bystanders t _ ht hth).2
      subst ht
      obtain ⟨c, hc, hheld⟩ := h.searcher
      rw [hth] at hc
      cases hc
      refine h.of_set hlt rfl (by simp) ?_ (fun hne => absurd rfl hne)
        fun hne => absurd rfl hne
      intro _
      cases r₁.next <;> exact ⟨_, rfl, hheld⟩
  | @asks held r rest _ _ hth hrequest =>
      have hframe : .client held none (r :: rest) ∈ m.frames :=
        Machine.mem_frames.mpr ⟨_, List.mem_of_getElem? hth, Multiset.mem_singleton_self _⟩
      have hasks := OnScript.asks (show OnScript held none (r :: rest) from hscripted _ hframe)
      by_cases ht : t = 0
      · subst ht
        obtain ⟨c, hc, hheld⟩ := h.searcher
        rw [hth] at hc
        cases hc
        have hset {c' : Client Place Examination Record} (hc' : 0 < c'.held)
            (hthreads : m'.threads = m.threads.set 0 (.client c')) :
            Cast m' (past ++ occurred.map (0, ·)) :=
          h.of_set hlt (hthreads.trans (List.append_nil _).symm) (by simp)
            (fun _ => ⟨c', rfl, hc'⟩) (fun hne => absurd rfl hne) fun hne => absurd rfl hne
        cases hasks with
        | clone p places => cases hrequest; exact hset (Nat.succ_pos _) rfl
        | submit p places => cases hrequest; exact hset Nat.one_pos rfl
        | drain => cases hrequest; exact hset Nat.one_pos rfl
        | touch value values => cases hheld
      · obtain ⟨hheld, -⟩ := h.bystanders t _ ht hth
        cases hasks with
        | clone | submit | drain => cases hheld
        | touch value values =>
            cases hrequest
            refine h.of_set hlt (List.append_nil _).symm (by simp) (fun hzero => absurd hzero ht)
              ?_ (by simp)
            intro _ c hc
            cases hc
            exact ⟨rfl, rfl⟩

end Cast

/-- The searching client has nothing left to do. -/
def Done (f : SearchFrame) : Prop := f = .client 1 none []

theorem Turn.not_done (h : Turn (workload plan) n v s f v' s' fs r told) (hscripted : Scripted f) :
    ∀ g ∈ fs, ¬Done g := by
  cases h with
  | finish | panic | shed => exact forall_mem_ended (fun _ => nofun) nofun
  | takeRegistry | join => exact forall_mem_joining (fun _ _ => nofun) nofun
  | askClone =>
      cases OnScript.asks hscripted with
      | clone p places => simp [Done]
  | touch =>
      cases OnScript.asks hscripted with
      | touch value values => simp [Done]
  | askClose | give => nomatch OnScript.asks hscripted
  | _ => simp [Done]

/-- The searching client gets there when its drain returns. -/
theorem Receives.drained_of_done (h : Receives q g gs r told) (hq : Fitting q)
    (hscripted : Scripted g) (hf : f ∈ gs) (hdone : Done f) :
    ∃ stats, .returned (.drained stats) ∈ told := by
  cases h with
  | submitClient =>
      cases (show OnScript _ (some .submit) _ from hscripted) with
      | submitting places =>
          rw [Multiset.mem_singleton.mp hf] at hdone
          cases places <;> cases hdone
  | @drainClient stats => exact ⟨stats, List.mem_singleton_self _⟩
  | startClient => cases (show OnScript _ (some .start) _ from hscripted)
  | readClient => cases (show OnScript _ (some .stats) _ from hscripted)
  | dropClient => cases (show OnScript _ (some .drop) _ from hscripted)
  | handle => exact absurd rfl hq
  | _ => simp_all [Done]

theorem Passes.drained_of_done (h : Passes r below above r' told) (hr : ∀ x ∈ r, Fitting x)
    (hbelow : ∀ g ∈ below, Scripted g) (hf : f ∈ above) (hdone : Done f) :
    ∃ stats, .returned (.drained stats) ∈ told := by
  induction h with
  | refl => exact absurd hf (Multiset.notMem_zero f)
  | receive hpasses hg ih =>
      have hbelow' := fun g hg => hbelow g (Multiset.mem_cons_of_mem hg)
      rcases Multiset.mem_add.mp hf with hf | hf
      · have hfits := (hpasses.forall_mem (p := Scripted) Receives.scripted hr hbelow').2
        obtain ⟨stats, hmem⟩ := Receives.drained_of_done hg (hfits _ rfl)
          (hbelow _ (Multiset.mem_cons_self ..)) hf hdone
        exact ⟨stats, List.mem_append_right _ hmem⟩
      · obtain ⟨stats, hmem⟩ := ih hbelow' hf
        exact ⟨stats, List.mem_append_left _ hmem⟩

/-! ## Runs -/

section Runs

variable {disk : Disk} {search : Search} {bystanders : List (List Bool)} {reliable : Bool}
  {m : Machine Place Examination Record} {history : History Place}

theorem equipped_of_runs
    (run : Runs (workload plan) reliable (search.machine disk bystanders) history m) :
    (∀ f ∈ m.frames, Equipped f) ∧ ∀ a ∈ m.shared.queue.items, a.handles = 1 := by
  refine run.turn_induction
    (P := fun m _ => (∀ f ∈ m.frames, Equipped f) ∧
      ∀ a ∈ m.shared.queue.items, a.handles = 1) ⟨?_, nofun⟩ ?_
  · intro f hf
    obtain ⟨_, _, rfl⟩ := Machine.exists_client_of_mem_ofClients hf
    trivial
  · intro n f fs below above rest r r' told told' past m₁ m₂ run₁ _ hbefore hafter _ hturn
      hpasses _ h
    have hscripted := scripted_of_runs run₁
    rw [hbefore] at h hscripted
    rw [hafter]
    obtain ⟨hframes, hqueue⟩ := h
    have hf := hscripted f (Multiset.mem_cons_self ..)
    obtain ⟨hfs, hqueue'⟩ := Turn.equipped hturn hf (hframes f (Multiset.mem_cons_self ..)) hqueue
    obtain ⟨hnext, hr⟩ := Turn.scripted hturn hf
    have hafter := hpasses.forall_mem_after (p := fun g => Scripted g ∧ Equipped g)
      (fun hg hq hboth =>
        have hnext := Receives.scripted hg hq hboth.1
        ⟨fun f hf => ⟨hnext.1 f hf, Receives.equipped hg hboth.1 hboth.2 f hf⟩, hnext.2⟩)
      (fun g hg => ⟨hnext g hg, hfs g hg⟩) hr fun g hg => ⟨hscripted g hg, hframes g hg⟩
    exact ⟨fun g hg => (hafter g hg).2, hqueue'⟩

theorem cast_of_runs
    (run : Runs (workload plan) reliable (search.machine disk bystanders) history m) :
    Cast m history := by
  induction run with
  | refl =>
      refine ⟨⟨_, rfl, Nat.one_pos⟩, ?_, nofun⟩
      intro t c ht hc
      obtain ⟨u, rfl⟩ := Nat.exists_eq_succ_of_ne_zero ht
      have hothers : ((bystanders.map flagChanges).map fun script =>
          (.client ⟨0, none, script⟩ : Thread Place Examination Record))[u]? =
            some (.client c) := hc
      obtain ⟨script, -, hscript⟩ := List.mem_map.mp (List.mem_of_getElem? hothers)
      cases hscript
      exact ⟨rfl, rfl⟩
  | step run _ last ih => exact ih.step (scripted_of_runs run) last

theorem drained_of_runs
    (run : Runs (workload plan) reliable (search.machine disk bystanders) history m)
    (hf : f ∈ m.frames) (hdone : Done f) :
    ∃ t stats, (t, .returned (.drained stats)) ∈ history := by
  refine run.turn_induction
    (P := fun m past => ∀ f ∈ m.frames, Done f →
      ∃ t stats, (t, .returned (.drained stats)) ∈ past) ?_ ?_ f hf hdone
  · intro f hf hdone
    rw [frames_machine, Multiset.mem_cons, Multiset.mem_coe, List.mem_map] at hf
    obtain rfl | ⟨values, -, rfl⟩ := hf
    · rw [Done] at hdone
      cases hplaces : (search.beginnings disk).2 <;> rw [hplaces] at hdone <;> cases hdone
    · cases hdone
  · intro n f fs below above rest r r' told told' past m₁ m₂ run₁ _ hbefore hafter _ hturn
      hpasses _ h g hg hdone
    have hscripted := scripted_of_runs run₁
    rw [hbefore] at h hscripted
    rw [hafter, Multiset.mem_add, Multiset.mem_add] at hg
    have hf := hscripted f (Multiset.mem_cons_self ..)
    rcases hg with hg | hg | hg
    · exact absurd hdone (Turn.not_done hturn hf g hg)
    · obtain ⟨stats, hmem⟩ := Passes.drained_of_done hpasses (Turn.scripted hturn hf).2
        (fun x hx => hscripted x (by simp [hx])) hg hdone
      refine ⟨n.self, stats, List.mem_append_right _ (List.mem_map.mpr ⟨_, ?_, rfl⟩)⟩
      exact List.mem_append_right _ hmem
    · obtain ⟨t, stats, hmem⟩ := h g (by simp [hg]) hdone
      exact ⟨t, stats, List.mem_append_left _ hmem⟩

/-- Where the searching client has a request left and makes no call, it can take a step. -/
theorem step_of_asks {t : ThreadId} {held : Nat} {request : Request Place Record}
    {script : List (Request Place Record)}
    (hth : m.threads[t]? = some (.client ⟨held, none, request :: script⟩))
    (hasks : Asks held request script) : m.step (workload plan) t true ≠ none := by
  intro hnone
  unfold Machine.step at hnone
  rw [hth] at hnone
  cases hasks <;> cases hnone

/-- A search in which no thread can take a step has come to an outcome. -/
theorem outcome_of_rest (hplan : search.plan disk = .ok plan)
    (run : Runs (workload plan) true (search.machine disk bystanders) history m)
    (hrest : ∀ t, m.step (workload plan) t true = none) :
    (outcome history m.world).isSome = true := by
  have hscripted := scripted_of_runs run
  have hcast := cast_of_runs run
  have hbodies : ∀ f ∈ m.frames, ¬f.Blocked (workload plan) m.world := by
    intro f hf
    cases f with
    | run k h ex => exact Examination.not_blocked ((equipped_of_runs run).1 _ hf) m.world
    | _ => exact id
  obtain ⟨-, hcalls⟩ := Runs.at_rest run (plan_eq_ok hplan).2 hrest hbodies
  obtain ⟨⟨held, call, script⟩, hth, hheld⟩ := hcast.searcher
  obtain rfl : call = none := hcalls 0 _ hth
  have hframe : .client held none script ∈ m.frames :=
    Machine.mem_frames.mpr ⟨_, List.mem_of_getElem? hth, Multiset.mem_singleton_self _⟩
  have hscript : OnScript held none script := hscripted _ hframe
  have hdone : Done (.client held none script) := by
    cases script with
    | nil =>
        generalize hall : ([] : List (Request Place Record)) = all at hscript
        cases hscript with
        | drained => rfl
        | next places => cases places <;> cases hall
        | submit p places => cases hall
        | bystander values => cases hheld
    | cons request script => exact absurd (hrest 0) (step_of_asks hth hscript.asks)
  obtain ⟨t, stats, hdrained⟩ := drained_of_runs run hframe hdone
  obtain rfl := hcast.returned t _ hdrained
  have hdrain : (drainOf history).isSome = true :=
    List.findSome?_isSome_iff.mpr ⟨_, hdrained, rfl⟩
  unfold outcome
  split
  · rfl
  · rw [Option.isSome_map]
    exact hdrain

end Runs

end Frontier.Search
