/-
# Burdens — what the threads and the queue of a search carry

What a search has still to do with a place goes with the job of the place: a
body offers it, the dispatcher accepts it, it waits in the queue, and a worker
takes it up.  A *burden* weighs an examination by something of that kind.  In
a step either an examination acts on the record, or the burden only changes
hands:

    carried after + offered of those accepted = carried before + accepted of those accepted

so a law of one examination becomes a law of all runs (`Burden.step`).  When
the dispatcher has been drained nothing is carried (`Burden.total_of_quiescent`).

The first burden is the jobs themselves: each job that was accepted has examined
its place, or passed it over, or is still carried (`jobs_of_runs`).
-/
import Frontier.Proofs.Search.Interruption
import Frontier.Proofs.Search.Sequential
import Mathlib

namespace Frontier.Search

open Dispatcher
open Dispatcher.Machine (Runs History accepted)

variable {plan : Plan} {n : Neighbours} {v v' : Record} {s s' : Shared Place}
  {f g : SearchFrame} {fs gs below above rest : Multiset SearchFrame} {q : Result}
  {r r' : Option Result} {told told' : List (Occurrence Place)} {past : History Place}

/-- A weight of examinations that goes with the jobs of places. -/
structure Burden (plan : Plan) (M : Type) [AddCommMonoid M] where
  body : Examination → M
  /-- What comes with a place whose job is not accepted yet. -/
  offered : Place → M
  /-- What comes with a place whose job was accepted. -/
  accepted : Place → M
  body_arrive (p : Place) : body (.arrive p) = accepted p
  body_prepare (p : Place) (kind : EntryKind) (c : Place) (rest : Listing) :
    body (.prepare p kind c rest) = body (.submit p kind c rest)
  body_submit (p : Place) (kind : EntryKind) (c : Place) (rest : Listing) :
    body (.submit p kind c rest) = offered c + body (.children p kind rest)
  body_of_finish {ex : Examination} : Examination.move plan ex = .finish → body ex = 0
  body_close : body .close = 0
  body_breakOff (message : String) : body (.breakOff message) = 0

/-- The jobs that are accepted in a step. -/
def acceptedIn (told : List (Occurrence Place)) : List Place :=
  (told.filterMap fun o => o.event?.bind Event.accepted?).map Admitted.job

theorem map_job_accepted (past : History Place) (t : ThreadId) (told : List (Occurrence Place)) :
    (accepted (past ++ told.map (t, ·))).map Admitted.job =
      (accepted past).map Admitted.job ++ acceptedIn told := by
  rw [Machine.accepted_append_map, List.map_append, acceptedIn]

/-- Where results are passed on no job is accepted. -/
theorem Passes.acceptedIn_append (h : Passes r below above r' told')
    (told : List (Occurrence Place)) : acceptedIn (told ++ told') = acceptedIn told := by
  rw [acceptedIn, List.filterMap_append, h.filterMap_event, List.append_nil, acceptedIn]

namespace Burden

variable {M : Type} [AddCommMonoid M] (B : Burden plan M)

def request : Request Place Record → M
  | .submit p _ => B.offered p
  | _ => 0

/-- What a frame carries. -/
def frame : SearchFrame → M
  | .client _ _ script => (script.map B.request).sum
  | .enroll p _ => B.offered p
  | .count a | .push a => B.accepted a.job
  | .run _ _ ex => B.body ex
  | .submitting _ _ next => B.body (next true)
  | _ => 0

def queue (items : List (Admitted Place)) : M := (items.map fun a => B.accepted a.job).sum

/-- What all frames and the queue carry. -/
def total (s : Shared Place) (fs : Multiset SearchFrame) : M :=
  weigh B.frame fs + B.queue s.queue.items

/-- A refusal does not change the burden. -/
structure IgnoresRefusal : Prop where
  offered (p : Place) : B.offered p = 0
  children (p : Place) (kind : EntryKind) (rest : Listing) :
    B.body (.children p kind rest) = B.body (.judge p kind)

@[simp] theorem queue_nil : B.queue [] = 0 := rfl

@[simp] theorem queue_cons (a : Admitted Place) (items : List (Admitted Place)) :
    B.queue (a :: items) = B.accepted a.job + B.queue items :=
  List.sum_cons

@[simp] theorem queue_append (items items' : List (Admitted Place)) :
    B.queue (items ++ items') = B.queue items + B.queue items' := by
  simp [queue]

/-- The burden of an examination comes on top of that of all else. -/
theorem total_run (k held : Nat) (ex : Examination) (s : Shared Place)
    (rest : Multiset SearchFrame) :
    B.total s (.run k held ex ::ₘ rest) =
      B.body ex + (weigh B.frame rest + B.queue s.queue.items) := by
  rw [total, weigh_cons, frame, add_assoc]

/-- A turn in which the burden changes hands, and the record stays but for the flag. -/
structure Handed (v : Record) (s : Shared Place) (f : SearchFrame) (v' : Record)
    (s' : Shared Place) (fs : Multiset SearchFrame) (told : List (Occurrence Place)) : Prop where
  record : v' = { v with flag := v'.flag }
  balance : weigh B.frame fs + B.queue s'.queue.items + ((acceptedIn told).map B.offered).sum =
    B.frame f + B.queue s.queue.items + ((acceptedIn told).map B.accepted).sum

/-- A turn that leaves record and queue alone and accepts nothing. -/
theorem Handed.of_frames (hframes : weigh B.frame fs = B.frame f) (hqueue : s'.queue = s.queue)
    (htold : acceptedIn told = []) : B.Handed v s f v s' fs told :=
  ⟨rfl, by rw [hframes, hqueue, htold]; rfl⟩

/-- An examination acts, or the burden changes hands. -/
theorem turn (h : Turn (workload plan) n v s f v' s' fs r told) (hscripted : Scripted f)
    (hrefused : B.IgnoresRefusal ∨ ∀ p, .event (.refused p) ∉ told) :
    (∃ k held ex next, Examination.Acts plan v ex v' next ∧ f = .run k held ex ∧
        fs = {.run k held next} ∧ s' = s ∧ r = none ∧ told = []) ∨
      B.Handed v s f v' s' fs told := by
  cases h with
  | act hmove =>
      exact .inl ⟨_, _, _, _, Examination.acts_of_move hmove v, rfl, rfl, rfl, rfl, rfl⟩
  | wait hmove | startInside hmove | ask hmove | dropInside hmove =>
      cases Examination.makes_of_move hmove
  | panic hmove =>
      cases Examination.makes_of_move hmove
      refine .inr (.of_frames B ?_ rfl rfl)
      rw [weigh_ended (x := 0) (fun _ => rfl) rfl, frame, B.body_breakOff]
  | closeInside hmove =>
      cases Examination.makes_of_move hmove
      refine .inr (.of_frames B ?_ rfl rfl)
      rw [weigh_singleton, frame, frame, B.body_close, B.body_of_finish rfl]
  | submit hmove =>
      cases Examination.makes_of_move hmove
      refine .inr (.of_frames B ?_ rfl rfl)
      rw [Multiset.insert_eq_cons, weigh_cons, weigh_singleton, frame, frame, frame,
        B.body_submit]
      rfl
  | cloneInside hmove =>
      cases Examination.makes_of_move hmove
      refine .inr (.of_frames B ?_ rfl rfl)
      rw [weigh_singleton, frame, frame, B.body_prepare]
  | finish hmove =>
      refine .inr (.of_frames B ?_ rfl rfl)
      rw [weigh_ended (x := 0) (fun _ => rfl) rfl, frame, B.body_of_finish hmove]
  | shed =>
      refine .inr (.of_frames B ?_ rfl rfl)
      exact weigh_ended (x := 0) (fun _ => rfl) rfl
  | takeRegistry | join =>
      refine .inr (.of_frames B ?_ rfl rfl)
      exact weigh_joining (x := 0) (fun _ _ => rfl) rfl
  | accept he =>
      obtain ⟨-, rfl, rfl⟩ := Shared.enroll_eq_ok_iff.mp he
      refine .inr ⟨rfl, ?_⟩
      simp only [weigh_singleton, frame, acceptedIn, Occurrence.event?, Event.accepted?,
        List.filterMap_cons, Option.bind_some, List.filterMap_nil, List.map_cons, List.map_nil,
        List.sum_cons, List.sum_nil, add_zero]
      abel
  | refuse | refuseBare =>
      refine .inr (.of_frames B ?_ rfl rfl)
      rcases hrefused with hignores | hnone
      · simp [frame, hignores.offered]
      · exact absurd List.mem_cons_self (hnone _)
  | push =>
      refine .inr ⟨rfl, ?_⟩
      simp only [Shared.push, Queue.items_push, queue_append, queue_cons, queue_nil,
        weigh_singleton, frame, acceptedIn, Occurrence.event?, Event.accepted?,
        List.filterMap_cons, Option.bind_some, List.filterMap_nil, List.map_nil, List.sum_nil,
        add_zero]
      abel
  | pop hp =>
      obtain ⟨rest, hitems, rfl⟩ := Shared.pop?_eq_some_iff.mp hp
      refine .inr ⟨rfl, ?_⟩
      simp only [hitems, queue_cons, weigh_singleton, frame, workload, B.body_arrive, acceptedIn,
        Occurrence.event?, Event.accepted?, List.filterMap_cons, Option.bind_some,
        List.filterMap_nil, List.map_nil, List.sum_nil, add_zero]
      abel
  | takeSlot ha | reacquire ha | acquireSelf ha =>
      obtain ⟨-, rfl⟩ := Shared.acquire?_eq_some_iff.mp ha
      exact .inr (.of_frames B (by simp [frame]) rfl rfl)
  | handBack | giveUp | release =>
      obtain ⟨_, _, events, hrelease, htold⟩ := s.exists_release_eq
      rw [hrelease]
      rcases htold with rfl | rfl <;> exact .inr (.of_frames B (by simp [frame]) rfl rfl)
  | askSubmit =>
      refine .inr (.of_frames B ?_ rfl rfl)
      rw [Multiset.insert_eq_cons, weigh_cons, weigh_singleton, frame, frame, frame,
        List.map_cons, List.sum_cons]
      rfl
  | touch =>
      cases OnScript.asks hscripted with
      | touch value values =>
          refine .inr ⟨rfl, ?_⟩
          have hnone : B.request (.touch fun r => { r with flag := value }) = 0 := rfl
          rw [weigh_singleton, frame, frame, List.map_cons, List.sum_cons, hnone, zero_add]
          rfl
  | _ => exact .inr (.of_frames B (by simp [frame, request]) rfl rfl)

/-- A frame that receives a result keeps what it carries. -/
theorem frame_eq_of_receives (h : Receives q g gs r told) (hg : Scripted g)
    (hq : B.IgnoresRefusal ∨ q ≠ .submitted false) : B.frame g = weigh B.frame gs := by
  cases h with
  | @submitBody ok =>
      cases ok with
      | true => exact (weigh_singleton ..).symm
      | false =>
          obtain ⟨p, kind, rest, rfl⟩ := hg
          rw [weigh_singleton]
          rcases hq with hignores | hq
          · exact hignores.children p kind rest
          · exact absurd rfl hq
  | startBody => exact absurd hg id
  | _ => simp [frame]

/-- A result that leaves the burden of the frame that receives it as it is. -/
def Admits (q : Result) : Prop := Fitting q ∧ (B.IgnoresRefusal ∨ q ≠ .submitted false)

theorem admits_of_receives (h : Receives q g gs r told) (hq : B.Admits q) (hg : Scripted g) :
    (∀ f ∈ gs, Scripted f) ∧ ∀ x ∈ r, B.Admits x := by
  obtain ⟨hgs, hfits⟩ := Receives.scripted h hq.1 hg
  refine ⟨hgs, fun x hx => ⟨hfits x hx, .inr ?_⟩⟩
  cases h <;> cases hx
  nofun

theorem weigh_frame_of_passes (h : Passes r below above r' told) (hr : ∀ x ∈ r, B.Admits x)
    (hbelow : ∀ g ∈ below, Scripted g) : weigh B.frame below = weigh B.frame above :=
  h.weigh_eq_of_forall (p := Scripted) B.admits_of_receives
    (fun hg hq hscripted => B.frame_eq_of_receives hg hscripted hq.2) hr hbelow

/-- In a step an examination acts, and all else is carried on, or the burden changes hands. -/
theorem step (hturn : Turn (workload plan) n v s f v' s' fs r told)
    (hpasses : Passes r below above r' told')
    (hscripted : ∀ g ∈ f ::ₘ (below + rest), Scripted g)
    (hrefused : B.IgnoresRefusal ∨
      (∀ p, .event (.refused p) ∉ told) ∧ r ≠ some (.submitted false)) :
    (∃ k held ex next others, Examination.Acts plan v ex v' next ∧ f = .run k held ex ∧
        told ++ told' = [] ∧ B.total s (f ::ₘ (below + rest)) = B.body ex + others ∧
        B.total s' (fs + (above + rest)) = B.body next + others) ∨
      (v' = { v with flag := v'.flag } ∧
        B.total s' (fs + (above + rest)) + ((acceptedIn (told ++ told')).map B.offered).sum =
          B.total s (f ::ₘ (below + rest)) +
            ((acceptedIn (told ++ told')).map B.accepted).sum) := by
  have hf := hscripted f (Multiset.mem_cons_self ..)
  rcases B.turn hturn hf (hrefused.imp_right And.left) with
    ⟨k, held, ex, next, hacts, rfl, rfl, rfl, rfl, rfl⟩ | ⟨hrecord, hbalance⟩
  · obtain ⟨rfl, rfl, -, rfl⟩ := hpasses.of_none
    refine .inl ⟨k, held, ex, next, weigh B.frame rest + B.queue s'.queue.items, hacts, rfl,
      rfl, ?_, ?_⟩
    · rw [zero_add, total_run]
    · rw [zero_add, Multiset.singleton_add, total_run]
  · have hpassed : weigh B.frame below = weigh B.frame above := by
      refine B.weigh_frame_of_passes hpasses ?_ fun g hg => hscripted g (by simp [hg])
      intro x hx
      refine ⟨(Turn.scripted hturn hf).2 x hx, hrefused.imp_right ?_⟩
      rintro ⟨-, hr⟩ rfl
      exact hr hx
    refine .inr ⟨hrecord, ?_⟩
    rw [Passes.acceptedIn_append hpasses, total, total, weigh_add, weigh_add, weigh_cons,
      weigh_add, hpassed]
    calc weigh B.frame fs + (weigh B.frame above + weigh B.frame rest) +
          B.queue s'.queue.items + ((acceptedIn told).map B.offered).sum
        = weigh B.frame fs + B.queue s'.queue.items + ((acceptedIn told).map B.offered).sum +
            (weigh B.frame above + weigh B.frame rest) := by abel
      _ = B.frame f + B.queue s.queue.items + ((acceptedIn told).map B.accepted).sum +
            (weigh B.frame above + weigh B.frame rest) := by rw [hbalance]
      _ = _ := by abel

/-! ### Where jobs are refused -/

/-- What a turn does in which a job is refused, or the refusal is told. -/
theorem turn_of_refusal (h : Turn (workload plan) n v s f v' s' fs r told)
    (hrefused : (∃ p, .event (.refused p) ∈ told) ∨ r = some (.submitted false)) :
    v' = v ∧ s'.queue = s.queue ∧ acceptedIn told = [] ∧ ∀ g ∈ fs, ∃ left, g = .discard left := by
  cases h with
  | refuse | refuseBare | discardLast => exact ⟨rfl, rfl, rfl, by simp⟩
  | handBack | giveUp | release =>
      obtain ⟨_, _, events, hrelease, htold⟩ := s.exists_release_eq
      rw [hrelease] at hrefused
      rcases htold with rfl | rfl <;> simp at hrefused
  | _ => simp at hrefused

section Order

variable [PartialOrder M]
  (hjudge : ∀ p kind rest, B.body (.judge p kind) ≤ B.body (.children p kind rest))
include hjudge

/-- A frame that is told of a refusal may carry less. -/
theorem weigh_frame_le_of_receives (h : Receives q g gs r told) (hg : Scripted g) :
    weigh B.frame gs ≤ B.frame g := by
  by_cases hq : q = .submitted false
  · subst hq
    cases h with
    | submitBody =>
        obtain ⟨p, kind, rest, rfl⟩ := hg
        rw [weigh_singleton]
        exact hjudge p kind rest
    | submitClient => exact (weigh_singleton ..).le
  · exact (B.frame_eq_of_receives h hg (.inr hq)).ge

theorem weigh_frame_le_of_passes [IsOrderedAddMonoid M] (h : Passes r below above r' told)
    (hbelow : ∀ g ∈ below, Scripted g) : weigh B.frame above ≤ weigh B.frame below := by
  induction h with
  | refl => exact le_rfl
  | @receive _ _ below _ _ _ _ _ hpasses hg ih =>
      have hbelow' : ∀ g ∈ below, Scripted g :=
        fun g hg => hbelow g (Multiset.mem_cons_of_mem hg)
      rw [weigh_cons, weigh_add]
      exact add_le_add (B.weigh_frame_le_of_receives hjudge hg
        (hbelow _ (Multiset.mem_cons_self ..))) (ih hbelow')

/-- Whatever is refused, in a step an examination acts and all else is carried on, or the burden
changes hands and none is added. -/
theorem step_le [IsOrderedAddMonoid M] [CanonicallyOrderedAdd M]
    (hturn : Turn (workload plan) n v s f v' s' fs r told)
    (hpasses : Passes r below above r' told')
    (hscripted : ∀ g ∈ f ::ₘ (below + rest), Scripted g) :
    (∃ k held ex next others, Examination.Acts plan v ex v' next ∧ f = .run k held ex ∧
        told ++ told' = [] ∧ B.total s (f ::ₘ (below + rest)) = B.body ex + others ∧
        B.total s' (fs + (above + rest)) = B.body next + others) ∨
      (v' = { v with flag := v'.flag } ∧
        B.total s' (fs + (above + rest)) + ((acceptedIn (told ++ told')).map B.offered).sum ≤
          B.total s (f ::ₘ (below + rest)) +
            ((acceptedIn (told ++ told')).map B.accepted).sum) := by
  by_cases hrefused : (∃ p, .event (.refused p) ∈ told) ∨ r = some (.submitted false)
  · obtain ⟨rfl, hqueue, haccepted, hfs⟩ := turn_of_refusal hturn hrefused
    have hnone : acceptedIn (told ++ told') = [] :=
      (Passes.acceptedIn_append hpasses told).trans haccepted
    have hempty : weigh B.frame fs = 0 := by
      refine weigh_eq_zero ?_
      intro g hg
      obtain ⟨left, rfl⟩ := hfs g hg
      rfl
    have hpassed := B.weigh_frame_le_of_passes hjudge hpasses
      fun g hg => hscripted g (by simp [hg])
    refine .inr ⟨rfl, ?_⟩
    rw [hnone, total, total, hqueue, weigh_add, weigh_add, weigh_cons, weigh_add, hempty]
    simp only [List.map_nil, List.sum_nil, add_zero]
    gcongr
    exact zero_le
  · rw [not_or, not_exists] at hrefused
    exact (B.step hturn hpasses hscripted (.inr hrefused)).imp_right
      fun h => ⟨h.1, h.2.le⟩

end Order

section Runs

variable {disk : Disk} {search : Search} {bystanders : List (List Bool)} {reliable : Bool}
  {m : Machine Place Examination Record} {history : History Place}

theorem sum_request_requests (places : List Place) :
    ((requests places).map B.request).sum = (places.map B.offered).sum := by
  induction places with
  | nil => simp [requests, request]
  | cons p places ih =>
      have hclone : B.request .clone = 0 := rfl
      rw [requests_cons, List.map_cons, List.map_cons, List.sum_cons, List.sum_cons, ih, hclone,
        zero_add, List.map_cons, List.sum_cons]
      rfl

theorem sum_request_flagChanges (values : List Bool) :
    ((flagChanges values).map B.request).sum = 0 := by
  refine List.sum_eq_zero ?_
  intro x hx
  simp only [flagChanges, List.map_map, List.mem_map] at hx
  obtain ⟨value, -, rfl⟩ := hx
  rfl

/-- At first the searching client carries what comes with the roots. -/
theorem total_machine (disk : Disk) (search : Search) (bystanders : List (List Bool)) :
    B.total (search.machine disk bystanders).shared (search.machine disk bystanders).frames =
      ((keptRoots disk search.roots).map B.offered).sum := by
  have hothers : weigh B.frame (bystanders.map fun values =>
      .client 0 none (flagChanges values) : List SearchFrame) = 0 := by
    simp [weigh, frame, sum_request_flagChanges, Function.comp_def]
  have hqueue : (search.machine disk bystanders).shared.queue.items = [] := rfl
  rw [total, frames_machine, weigh_cons, hothers, frame, sum_request_requests, beginnings_eq,
    hqueue, queue_nil, add_zero, add_zero]

/-- What the record credits, with what is carried, is what it debits and what came with the jobs
that were accepted, if an examination that acts changes both sides alike. -/
theorem balanced [IsCancelAdd M] (hignores : B.IgnoresRefusal) (credit debit : Record → M)
    (hflag : ∀ (v : Record) (flag : Bool),
      credit { v with flag } = credit v ∧ debit { v with flag } = debit v)
    (hact : ∀ {v v' : Record} {ex next : Examination}, Examination.Acts plan v ex v' next →
      ex.OnCourse plan → credit v' + B.body next + debit v = credit v + B.body ex + debit v')
    (hempty : credit (search.machine disk bystanders).world =
      debit (search.machine disk bystanders).world)
    (run : Runs (workload plan) reliable (search.machine disk bystanders) history m) :
    credit m.world + B.total m.shared m.frames =
      debit m.world + (((Machine.accepted history).map Admitted.job).map B.accepted).sum := by
  have hoffered (ps : List Place) : (ps.map B.offered).sum = 0 :=
    List.sum_eq_zero (by simp [hignores.offered])
  refine run.turn_induction
    (P := fun m past => credit m.world + B.total m.shared m.frames =
      debit m.world + (((Machine.accepted past).map Admitted.job).map B.accepted).sum) ?_ ?_
  · rw [hempty, B.total_machine, hoffered]
    rfl
  · intro n f fs below above rest r r' told told' past m₁ m₂ run₁ _ hbefore hafter _ hturn
      hpasses _ h
    have hscripted := scripted_of_runs run₁
    have hcourse := onCourse_of_runs run₁
    rw [hbefore] at h hscripted hcourse
    rw [hafter, map_job_accepted, List.map_append, List.sum_append]
    rcases B.step hturn hpasses hscripted (.inl hignores) with
      ⟨k, held, ex, next, others, hacts, rfl, hnone, hbody, hbody'⟩ | ⟨hrecord, hbalance⟩
    · have hdischarged := hact hacts (hcourse _ (Multiset.mem_cons_self ..))
      rw [hnone, hbody']
      rw [hbody, ← add_assoc] at h
      refine add_right_cancel (b := debit m₁.world) ?_
      calc credit m₂.world + (B.body next + others) + debit m₁.world
          = credit m₂.world + B.body next + debit m₁.world + others := by abel
        _ = credit m₁.world + B.body ex + others + debit m₂.world := by
            rw [hdischarged]
            abel
        _ = _ := by
            rw [h]
            simp only [acceptedIn, List.filterMap_nil, List.map_nil, List.sum_nil]
            abel
    · rw [hoffered, add_zero] at hbalance
      rw [hrecord, (hflag _ _).1, (hflag _ _).2, hbalance, ← add_assoc, h, add_assoc]

/-- What the record measures, with what is carried, is what came with the jobs that were accepted,
if an examination that acts only turns the one into the other. -/
theorem conserved [IsCancelAdd M] (hignores : B.IgnoresRefusal) (measure : Record → M)
    (hflag : ∀ (v : Record) (flag : Bool), measure { v with flag } = measure v)
    (hact : ∀ {v v' : Record} {ex next : Examination}, Examination.Acts plan v ex v' next →
      ex.OnCourse plan → measure v' + B.body next = measure v + B.body ex)
    (hempty : measure (search.machine disk bystanders).world = 0)
    (run : Runs (workload plan) reliable (search.machine disk bystanders) history m) :
    measure m.world + B.total m.shared m.frames =
      (((Machine.accepted history).map Admitted.job).map B.accepted).sum := by
  have hbalanced := B.balanced hignores measure (fun _ => 0) (fun v flag => ⟨hflag v flag, rfl⟩)
    (fun hacts hcourse => congrArg (· + 0) (hact hacts hcourse)) hempty run
  rw [hbalanced, zero_add]

/-- When the dispatcher has been drained nothing is carried. -/
theorem total_of_quiescent
    (run : Runs (workload plan) reliable (search.machine disk bystanders) history m)
    (hq : m.shared.gate.lifecycle = .quiescent) : B.total m.shared m.frames = 0 := by
  rw [total, run.accounted.queue_of_quiescent hq, queue_nil, add_zero]
  refine weigh_eq_zero ?_
  intro f hf
  have hpending := run.accounted.pending_eq_zero hq hf
  have hahead := drainsAhead_of_quiescent run hq hf
  cases f with
  | client held errand script =>
      have hscript : OnScript held errand script := scripted_of_runs run _ hf
      cases hscript with
      | next places | submitting places =>
          rw [drainsAhead, drainsAhead_requests] at hahead
          cases hahead
      | submit p places =>
          rw [drainsAhead, List.countP_cons, drainsAhead_requests] at hahead
          cases hahead
      | draining | drained => rfl
      | bystander values => exact B.sum_request_flagChanges values
  | enroll p handles => exact absurd hq (live_of_submits run hf rfl)
  | count | push | run | submitting => cases hpending
  | _ => rfl

end Runs

end Burden

/-! ## Jobs -/

/-- The job of an examination that has not looked at its place. -/
def Examination.job : Examination → Multiset Place
  | arrive p | skip p | classify p => {p}
  | _ => 0

theorem Examination.job_of_finish {ex : Examination} (hmove : move plan ex = .finish) :
    ex.job = 0 := by
  cases makes_of_move hmove <;> rfl

theorem Resumes.job_eq_zero {failure : Failure} {next : Examination}
    (h : Resumes plan failure next) : next.job = 0 := by
  cases h <;> rfl

theorem Examination.job_afterVerdict (path : Path) (verdict : Verdict) :
    (afterVerdict path verdict).job = 0 := by
  cases verdict <;> rfl

/-- An examination looks at the place of its job, or passes it over. -/
theorem Examination.Acts.job {w w' : Record} {ex next : Examination}
    (h : Acts plan w ex w' next) (hex : ex.OnCourse plan) :
    (w'.examined + w'.skipped + next.job : Multiset Place) = w.examined + w.skipped + ex.job := by
  cases h with
  | skipFirst | skipNext =>
      simp only [Examination.job, ← Multiset.coe_add, Multiset.coe_singleton, add_zero, add_assoc]
  | classified | unclassified =>
      simp only [Examination.job, ← Multiset.coe_add, Multiset.coe_singleton, add_zero]
      exact add_right_comm ..
  | descend | stay =>
      rw [Record.countKind_eq]
      rfl
  | judge =>
      rw [job_afterVerdict]
      rfl
  | keepFailure | discardFailure =>
      rw [Resumes.job_eq_zero hex]
      rfl
  | _ => rfl

/-- The jobs that have not looked at their places. -/
def jobs (plan : Plan) : Burden plan (Multiset Place) where
  body := Examination.job
  offered _ := 0
  accepted p := {p}
  body_arrive _ := rfl
  body_prepare _ _ _ _ := rfl
  body_submit _ _ _ _ := rfl
  body_of_finish := Examination.job_of_finish
  body_close := rfl
  body_breakOff _ := rfl

theorem jobs_ignoresRefusal (plan : Plan) : (jobs plan).IgnoresRefusal :=
  ⟨fun _ => rfl, fun _ _ _ => rfl⟩

theorem sum_map_jobs_accepted (ps : List Place) : (ps.map (jobs plan).accepted).sum = ps := by
  rw [← List.map_id ps, List.map_map]
  exact sum_map_singleton id ps

section Runs

variable {disk : Disk} {search : Search} {bystanders : List (List Bool)} {reliable : Bool}
  {m : Machine Place Examination Record} {history : History Place}

/-- Each job that was accepted has looked at its place, or passed it over, or is still to do so. -/
theorem jobs_of_runs
    (run : Runs (workload plan) reliable (search.machine disk bystanders) history m) :
    (m.world.examined + m.world.skipped + (jobs plan).total m.shared m.frames : Multiset Place) =
      (accepted history).map Admitted.job := by
  have hjobs := (jobs plan).conserved (jobs_ignoresRefusal plan)
    (fun v => (v.examined + v.skipped : Multiset Place)) (fun _ _ => rfl)
    Examination.Acts.job rfl run
  rw [hjobs, sum_map_jobs_accepted]

/-- When the dispatcher has been drained, each job that was accepted has looked at its place or
passed it over. -/
theorem jobs_of_quiescent
    (run : Runs (workload plan) reliable (search.machine disk bystanders) history m)
    (hq : m.shared.gate.lifecycle = .quiescent) :
    (m.world.examined ++ m.world.skipped).Perm ((accepted history).map Admitted.job) := by
  have hjobs := jobs_of_runs run
  rw [(jobs plan).total_of_quiescent run hq, add_zero, Multiset.coe_add] at hjobs
  exact Multiset.coe_eq_coe.mp hjobs

end Runs

end Frontier.Search
