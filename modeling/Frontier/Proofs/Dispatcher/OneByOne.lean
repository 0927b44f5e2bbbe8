/-
# One by one — with one slot the dispatcher is a loop

    take the head of the line, run it, append the jobs that it submits

Let jobs be buffered, let nobody else submit or close, and let what a job
submits depend on the job alone.  Then with one slot all that happens to the
queue is what this loop does, whichever thread runs the jobs and however the
others come in between.

A job that runs is at one *post* at a time, or at two while a submission of its
is under way.

| the body | its posts |
| :-- | :-- |
| is between two moves | `body` |
| submits a job that is not in the queue yet | `entry`, `call` |
| submits a job that is | `exit`, `call` |
| is about to learn that it was accepted | `answer`, `call` |

`Abreast` says how far the loop has come when the queue, the posts and what
happened so far are these.  It begins a new round when no body runs, and with
one slot none does when a job is popped (`SlotsOwned.card_tickets_lt`).
-/
import Frontier.Proofs.Dispatcher.Calls
import Frontier.Proofs.Dispatcher.Lifecycle
import Frontier.Proofs.Dispatcher.WorkLoop
import Mathlib

namespace Frontier.Dispatcher

variable {J B ω : Type} {w : Workload J B ω} {n : Neighbours} {v v' : ω} {s s' : Shared J}
  {f g : Frame J B ω} {fs gs below above rest : Multiset (Frame J B ω)} {q : Result}
  {r r' : Option Result} {told told' : List (Occurrence J)}

/-! ## Posts -/

/-- Where a job that runs is, or a submission. -/
inductive Post (J B : Type) where
  | body (body : B)
  /-- The body waits for a submission. -/
  | call (next : Bool → B)
  /-- The job that is submitted is not in the queue yet. -/
  | entry (job : J)
  | exit
  /-- The submission returns. -/
  | answer (accepted : Bool)
  | refused
  /-- A client waits for a submission. -/
  | outside

/-- Only a thread that runs a job is there. -/
def Post.isHeld : Post J B → Bool
  | body _ | call _ => true
  | _ => false

def Frame.posts : Frame J B ω → Multiset (Post J B)
  | run _ _ b => {.body b}
  | starting _ _ next => {.body next}
  | submitting _ _ next => {.call next}
  | enroll job _ => {.entry job}
  | count a | push a => {.entry a.job}
  | checkOpen | accepted => {.exit}
  | discard _ => {.refused}
  | client _ (some .submit) _ => {.outside}
  | _ => 0

def Result.posts : Option Result → Multiset (Post J B)
  | some (.submitted ok) => {.answer ok}
  | _ => 0

theorem Frame.bodies_of_isHeld {x : Post J B} (hx : x ∈ f.posts) (hheld : x.isHeld = true) :
    f.bodies = 1 := by
  cases f with
  | run | starting | submitting => rfl
  | client held errand script =>
      rcases errand with _ | _ | _ <;> simp_all [posts, Post.isHeld]
  | _ => simp_all [posts, Post.isHeld]

theorem Frame.pending_of_isHeld {x : Post J B} (hx : x ∈ f.posts) (hheld : x.isHeld = true) :
    f.pending = 1 := by
  cases f with
  | run | starting | submitting => rfl
  | client held errand script =>
      rcases errand with _ | _ | _ <;> simp_all [posts, Post.isHeld]
  | _ => simp_all [posts, Post.isHeld]

theorem exists_of_mem_posts {x : Post J B} (hx : x ∈ weigh Frame.posts fs) :
    ∃ f ∈ fs, x ∈ f.posts := by
  induction fs using Multiset.induction with
  | empty => exact absurd hx (Multiset.notMem_zero x)
  | cons f fs ih =>
      rw [weigh_cons] at hx
      rcases Multiset.mem_add.mp hx with hx | hx
      · exact ⟨f, Multiset.mem_cons_self _ _, hx⟩
      · obtain ⟨f', hf', hx'⟩ := ih hx
        exact ⟨f', Multiset.mem_cons_of_mem hf', hx'⟩

/-- Where no body runs, no post is held. -/
theorem not_isHeld_of_tickets (h : weigh Frame.tickets fs = 0) :
    ∀ x ∈ weigh Frame.posts fs, ¬x.isHeld = true := by
  intro x hx hheld
  obtain ⟨f, hf, hxf⟩ := exists_of_mem_posts hx
  have hbodies : weigh Frame.bodies fs = 0 := by
    rw [← card_weigh_tickets, h]
    rfl
  have hnone := eq_zero_of_weigh hbodies hf
  rw [Frame.bodies_of_isHeld hxf hheld] at hnone
  cases hnone

/-! ## One turn -/

/-- Posts change, and these jobs get into line. -/
inductive Advance (w : Workload J B ω) :
    Multiset (Post J B) → List J → Multiset (Post J B) → Prop
  | stays {posts : Multiset (Post J B)} : Advance w posts [] posts
  | proceeds {b b' : B} : Proceeds w b b' → Advance w {.body b} [] {.body b'}
  | calls {b : B} {job : J} {given : Nat} {next : Bool → B} : w.move b = .submit job given next →
      Advance w {.body b} [] ({.entry job} + {.call next})
  | pushes {job : J} : Advance w {.entry job} [job] {.exit}
  | answers : Advance w {.exit} [] {.answer true}
  | returns {ok : Bool} {next : Bool → B} :
      Advance w ({.answer ok} + {.call next}) [] {.body (next ok)}
  | leaves {ok : Bool} : Advance w ({.answer ok} + {.outside}) [] 0

/-- What a turn is to the job that runs and to the line. -/
inductive LineStep (w : Workload J B ω) (s s' : Shared J) (f : Frame J B ω)
    (after : Multiset (Post J B)) (told : List (Occurrence J)) : Prop
  | advances (appended : List J) : Advance w f.posts appended after →
      s'.queue.items.map Admitted.job = s.queue.items.map Admitted.job ++ appended →
      (told.filterMap Occurrence.event?).filterMap Event.deed? = appended.map .append →
      LineStep w s s' f after told
  | takes {a : Admitted J} : f = .pop → s.queue.items = a :: s'.queue.items →
      after = {.body (w.enter a.job)} →
      (told.filterMap Occurrence.event?).filterMap Event.deed? = [.take a.job] →
      LineStep w s s' f after told
  | ends {b : B} : f.posts = {.body b} → Ends w b → s'.queue = s.queue → after = 0 →
      (told.filterMap Occurrence.event?).filterMap Event.deed? = [.done] →
      LineStep w s s' f after told

/-- The next turn of the frame is one that the loop does not know: a client submits, a body closes,
or a job is refused. -/
def Frame.Disturbs (w : Workload J B ω) (s : Shared J) : Frame J B ω → Prop
  | client _ none (.submit .. :: _) => True
  | run _ _ b => ∃ next, w.move b = .close next
  | enroll .. => s.gate.isAccepting = false
  | discard _ => True
  | _ => False

/-- A turn that changes neither posts nor line. -/
theorem LineStep.of_stays {after : Multiset (Post J B)} (hqueue : s'.queue = s.queue)
    (hposts : after = f.posts)
    (htold : (told.filterMap Occurrence.event?).filterMap Event.deed? = []) :
    LineStep w s s' f after told :=
  .advances [] (hposts ▸ .stays) (by rw [hqueue, List.append_nil]) htold

theorem LineStep.of_advance {after : Multiset (Post J B)} (h : Advance w f.posts [] after)
    (hqueue : s'.queue = s.queue) : LineStep w s s' f after [] :=
  .advances [] h (by rw [hqueue, List.append_nil]) rfl

theorem Turn.lineStep (h : Turn w n v s f v' s' fs r told) (hcalm : ¬f.Disturbs w s) :
    LineStep w s s' f (weigh Frame.posts fs + Result.posts r) told := by
  cases h with
  | takeSlot ha | reacquire ha | acquireSelf ha =>
      obtain ⟨-, rfl⟩ := Shared.acquire?_eq_some_iff.mp ha
      exact .of_stays rfl rfl rfl
  | handBack | giveUp | release =>
      obtain ⟨_, _, events, hrelease, htold⟩ := s.exists_release_eq
      rw [hrelease]
      refine .of_stays rfl rfl ?_
      rcases htold with rfl | rfl <;> rfl
  | accept he =>
      obtain ⟨-, rfl, rfl⟩ := Shared.enroll_eq_ok_iff.mp he
      exact .of_stays rfl rfl rfl
  | refuse he | refuseBare he => exact absurd (Shared.enroll_eq_error he) hcalm
  | discard | discardLast | askSubmit => exact absurd trivial hcalm
  | push =>
      exact .advances [_] .pushes (by simp [Shared.push]) rfl
  | leaveBuffered => exact .of_advance .answers rfl
  | pop hp =>
      obtain ⟨_, hitems, rfl⟩ := Shared.pop?_eq_some_iff.mp hp
      exact .takes rfl hitems rfl rfl
  | finish hmove =>
      refine .ends rfl (.inl hmove) rfl ?_ rfl
      rw [weigh_ended (x := 0) (fun _ => rfl) rfl]
      rfl
  | panic hmove =>
      refine .ends rfl (.inr ⟨_, hmove⟩) rfl ?_ rfl
      rw [weigh_ended (x := 0) (fun _ => rfl) rfl]
      rfl
  | act hmove => exact .of_advance (.proceeds (.act v hmove)) rfl
  | wait hmove => exact .of_advance (.proceeds (.wait hmove)) rfl
  | submit hmove => exact .of_advance (.calls hmove) rfl
  | startInside hmove => exact .of_advance (.proceeds (.start hmove)) rfl
  | closeInside hmove => exact absurd ⟨_, hmove⟩ hcalm
  | ask hmove => exact .of_advance (.proceeds (.ask s _ hmove)) rfl
  | cloneInside hmove => exact .of_advance (.proceeds (.clone hmove)) rfl
  | dropInside hmove => exact .of_advance (.proceeds (.drop hmove)) rfl
  | shed => exact .of_stays rfl ((add_zero _).trans (weigh_ended (fun _ => rfl) rfl)) rfl
  | takeRegistry | join =>
      exact .of_stays rfl ((add_zero _).trans (weigh_joining (fun _ _ => rfl) rfl)) rfl
  | _ => exact .of_stays rfl (by simp [Frame.posts, Result.posts]) rfl

theorem Receives.advance (h : Receives q g gs r told) :
    Advance w (Result.posts (some q) + g.posts) [] (weigh Frame.posts gs + Result.posts r) := by
  cases h with
  | accepted => exact .answers
  | submitClient => exact .leaves
  | submitBody => exact .returns
  | handle =>
      rename_i errand _
      rcases errand with _ | _ | _ <;> exact .stays
  | _ => exact .stays

/-! ## How far the loop has come -/

/-- The posts of a job that runs and has put these jobs into line. -/
inductive Phase (w : Workload J B ω) (job : J) : List J → Multiset (Post J B) → Prop
  | body {b : B} {submitted : List J} : Along w job b submitted → Phase w job submitted {.body b}
  | entering {b : B} {submitted : List J} {child : J} {given : Nat} {next : Bool → B} :
      Along w job b submitted → w.move b = .submit child given next →
      Phase w job submitted ({.entry child} + {.call next})
  | leaving {submitted : List J} {next : Bool → B} : Along w job (next true) submitted →
      Phase w job submitted ({.exit} + {.call next})
  | answered {submitted : List J} {next : Bool → B} : Along w job (next true) submitted →
      Phase w job submitted ({.answer true} + {.call next})

theorem singleton_add_eq_pair {α : Type} {x y z : α} {others : Multiset α}
    (h : {x} + others = ({y} + {z} : Multiset α)) :
    (x = y ∧ others = {z}) ∨ (x = z ∧ others = {y}) := by
  rw [Multiset.singleton_add, Multiset.singleton_add, Multiset.cons_eq_cons] at h
  rcases h with ⟨hxy, hothers⟩ | ⟨-, cs, hothers, hz⟩
  · exact .inl ⟨hxy, hothers⟩
  · rw [Multiset.singleton_eq_cons_iff] at hz
    obtain ⟨hzx, rfl⟩ := hz
    exact .inr ⟨hzx.symm, hothers⟩

namespace Phase

open Stage (eq_of_singleton_add)

variable {job : J} {submitted : List J} {posts others : Multiset (Post J B)}

theorem of_body {b : B} (h : Phase w job submitted ({.body b} + others)) :
    others = 0 ∧ Along w job b submitted := by
  generalize hall : {.body b} + others = all at h
  cases h with
  | body halong =>
      obtain ⟨hb, hothers⟩ := eq_of_singleton_add hall
      cases hb
      exact ⟨hothers, halong⟩
  | entering => rcases singleton_add_eq_pair hall with ⟨hb, -⟩ | ⟨hb, -⟩ <;> cases hb
  | leaving => rcases singleton_add_eq_pair hall with ⟨hb, -⟩ | ⟨hb, -⟩ <;> cases hb
  | answered => rcases singleton_add_eq_pair hall with ⟨hb, -⟩ | ⟨hb, -⟩ <;> cases hb

theorem of_entry {child : J} (h : Phase w job submitted ({.entry child} + others)) :
    ∃ next, others = {.call next} ∧ Along w job (next true) (submitted ++ [child]) := by
  generalize hall : {.entry child} + others = all at h
  cases h with
  | body => nomatch (eq_of_singleton_add hall).1
  | entering halong hmove =>
      rcases singleton_add_eq_pair hall with ⟨hchild, hothers⟩ | ⟨hchild, -⟩
      · cases hchild
        exact ⟨_, hothers, halong.submit hmove⟩
      · cases hchild
  | leaving => rcases singleton_add_eq_pair hall with ⟨hb, -⟩ | ⟨hb, -⟩ <;> cases hb
  | answered => rcases singleton_add_eq_pair hall with ⟨hb, -⟩ | ⟨hb, -⟩ <;> cases hb

theorem of_exit (h : Phase w job submitted ({.exit} + others)) :
    ∃ next, others = {.call next} ∧ Along w job (next true) submitted := by
  generalize hall : {.exit} + others = all at h
  cases h with
  | body => nomatch (eq_of_singleton_add hall).1
  | leaving halong =>
      rcases singleton_add_eq_pair hall with ⟨-, hothers⟩ | ⟨hchild, -⟩
      · exact ⟨_, hothers, halong⟩
      · cases hchild
  | entering => rcases singleton_add_eq_pair hall with ⟨hb, -⟩ | ⟨hb, -⟩ <;> cases hb
  | answered => rcases singleton_add_eq_pair hall with ⟨hb, -⟩ | ⟨hb, -⟩ <;> cases hb

theorem of_answer {ok : Bool} (h : Phase w job submitted ({.answer ok} + others)) :
    ∃ next, others = {.call next} ∧ Along w job (next ok) submitted := by
  generalize hall : {.answer ok} + others = all at h
  cases h with
  | body => nomatch (eq_of_singleton_add hall).1
  | answered halong =>
      rcases singleton_add_eq_pair hall with ⟨hok, hothers⟩ | ⟨hok, -⟩
      · cases hok
        exact ⟨_, hothers, halong⟩
      · cases hok
  | entering => rcases singleton_add_eq_pair hall with ⟨hb, -⟩ | ⟨hb, -⟩ <;> cases hb
  | leaving => rcases singleton_add_eq_pair hall with ⟨hb, -⟩ | ⟨hb, -⟩ <;> cases hb

theorem refused_notMem (h : Phase w job submitted posts) : .refused ∉ posts := by
  cases h <;> simp

/-- One of the posts of a job that runs is held. -/
theorem exists_isHeld (h : Phase w job submitted posts) : ∃ x ∈ posts, x.isHeld = true := by
  cases h with
  | body => exact ⟨_, Multiset.mem_singleton_self _, rfl⟩
  | entering | leaving | answered =>
      exact ⟨_, Multiset.mem_add.mpr (.inr (Multiset.mem_singleton_self _)), rfl⟩

theorem advance {before after : Multiset (Post J B)} {appended : List J}
    (h : Phase w job submitted (before + others)) (hadvance : Advance w before appended after) :
    Phase w job (submitted ++ appended) (after + others) := by
  cases hadvance with
  | stays => rwa [List.append_nil]
  | proceeds hproceeds =>
      obtain ⟨rfl, halong⟩ := h.of_body
      rw [List.append_nil, add_zero]
      exact .body (halong.proceed hproceeds)
  | calls hmove =>
      obtain ⟨rfl, halong⟩ := h.of_body
      rw [List.append_nil, add_zero]
      exact .entering halong hmove
  | pushes =>
      obtain ⟨next, rfl, halong⟩ := h.of_entry
      exact .leaving halong
  | answers =>
      obtain ⟨next, rfl, halong⟩ := h.of_exit
      rw [List.append_nil]
      exact .answered halong
  | returns =>
      rw [add_assoc] at h
      obtain ⟨next, hcall, halong⟩ := h.of_answer
      obtain ⟨heq, rfl⟩ := eq_of_singleton_add hcall
      cases heq
      rw [List.append_nil, add_zero]
      exact .body halong
  | leaves =>
      rw [add_assoc] at h
      obtain ⟨next, hcall, -⟩ := h.of_answer
      nomatch (eq_of_singleton_add hcall).1

end Phase

/-- The loop has done this much when the line and the posts are these: so many rounds, and what the
job that runs has done of the next. -/
inductive Abreast (w : Workload J B ω) (offspring : J → List J) (jobs : List J) :
    List (Deed J) → List J → Multiset (Post J B) → Prop
  | idle {rounds : Nat} {done : List (Deed J)} {line : List J} :
      loop offspring jobs rounds = (done, line) → Abreast w offspring jobs done line 0
  | busy {rounds : Nat} {done : List (Deed J)} {job : J} {line submitted : List J}
      {posts : Multiset (Post J B)} : loop offspring jobs rounds = (done, job :: line) →
      Phase w job submitted posts →
      Abreast w offspring jobs (done ++ .take job :: submitted.map .append) (line ++ submitted)
        posts

theorem Advance.of_zero {appended : List J} {after : Multiset (Post J B)}
    (h : Advance w 0 appended after) : appended = [] ∧ after = 0 := by
  generalize hzero : (0 : Multiset (Post J B)) = before at h
  cases h with
  | stays => exact ⟨rfl, rfl⟩
  | proceeds | calls | pushes | answers => exact absurd hzero (Multiset.singleton_ne_zero _).symm
  | returns | leaves => simp at hzero

namespace Abreast

variable {offspring : J → List J} {jobs line : List J} {done : List (Deed J)}
  {posts others : Multiset (Post J B)}

theorem advance {before after : Multiset (Post J B)} {appended : List J}
    (h : Abreast w offspring jobs done line (before + others))
    (hadvance : Advance w before appended after) :
    Abreast w offspring jobs (done ++ appended.map .append) (line ++ appended)
      (after + others) := by
  generalize hall : before + others = all at h
  cases h with
  | idle hloop =>
      obtain ⟨rfl, rfl⟩ := add_eq_zero.mp hall
      obtain ⟨rfl, rfl⟩ := hadvance.of_zero
      simpa using .idle hloop
  | busy hloop hphase =>
      subst hall
      have hbusy := busy hloop (hphase.advance hadvance)
      rw [List.map_append, ← List.cons_append, ← List.append_assoc, ← List.append_assoc] at hbusy
      exact hbusy

/-- Where no job runs the loop is between two rounds. -/
theorem exists_loop (h : Abreast w offspring jobs done line posts)
    (hnone : ∀ x ∈ posts, ¬x.isHeld = true) :
    posts = 0 ∧ ∃ rounds, loop offspring jobs rounds = (done, line) := by
  cases h with
  | idle hloop => exact ⟨rfl, _, hloop⟩
  | busy _ hphase =>
      obtain ⟨x, hx, hheld⟩ := hphase.exists_isHeld
      exact absurd hheld (hnone x hx)

/-- The head of the line is taken. -/
theorem take {job : J} (h : Abreast w offspring jobs done (job :: line) posts)
    (hnone : ∀ x ∈ posts, ¬x.isHeld = true) :
    Abreast w offspring jobs (done ++ [.take job]) line ({.body (w.enter job)} + posts) := by
  obtain ⟨rfl, rounds, hloop⟩ := h.exists_loop hnone
  have hbusy := busy hloop (.body (Along.enter (w := w)))
  rw [List.append_nil] at hbusy
  exact hbusy

/-- The body that runs is one that its job can come to. -/
theorem exists_along {b : B} (h : Abreast w offspring jobs done line ({.body b} + others)) :
    ∃ rounds, ∃ job ∈ (loop offspring jobs rounds).2, ∃ submitted, Along w job b submitted := by
  generalize hall : {.body b} + others = all at h
  cases h with
  | idle => simp at hall
  | busy hloop hphase =>
      subst hall
      exact ⟨_, _, by rw [hloop]; exact List.mem_cons_self, _, hphase.of_body.2⟩

/-- A submission under way is that of the body that runs. -/
theorem exists_call {job : J} (h : Abreast w offspring jobs done line ({.entry job} + others)) :
    ∃ next, .call next ∈ others := by
  generalize hall : {.entry job} + others = all at h
  cases h with
  | idle => simp at hall
  | busy _ hphase =>
      subst hall
      obtain ⟨next, rfl, -⟩ := hphase.of_entry
      exact ⟨next, Multiset.mem_singleton_self _⟩

theorem refused_notMem (h : Abreast w offspring jobs done line posts) : .refused ∉ posts := by
  cases h with
  | idle => exact Multiset.notMem_zero _
  | busy _ hphase => exact hphase.refused_notMem

variable (hbreeds : ∀ rounds, ∀ job ∈ (loop offspring jobs rounds).2, Breeds w offspring job)
include hbreeds

/-- The round ends with the body. -/
theorem finish {b : B} (h : Abreast w offspring jobs done line ({.body b} + others))
    (hends : Ends w b) : Abreast w offspring jobs (done ++ [.done]) line others := by
  generalize hall : {.body b} + others = all at h
  cases h with
  | idle => simp at hall
  | @busy rounds done job line submitted posts hloop hphase =>
      subst hall
      obtain ⟨rfl, halong⟩ := hphase.of_body
      have hjob : job ∈ (loop offspring jobs rounds).2 := by
        rw [hloop]
        exact List.mem_cons_self
      obtain rfl := (hbreeds rounds job hjob).ends b submitted halong hends
      exact .idle (loop_succ hloop)

/-- What was done is what the loop does at first. -/
theorem exists_prefix (h : Abreast w offspring jobs done line posts) :
    ∃ rounds, done <+: (loop offspring jobs rounds).1 := by
  cases h with
  | @idle rounds done line hloop =>
      refine ⟨rounds, ?_⟩
      rw [hloop]
  | @busy rounds done job line submitted posts hloop hphase =>
      have hjob : job ∈ (loop offspring jobs rounds).2 := by
        rw [hloop]
        exact List.mem_cons_self
      have hbreeds := hbreeds rounds job hjob
      have hsubmitted : submitted <+: offspring job := by
        cases hphase with
        | body halong | entering halong | leaving halong | answered halong =>
            exact hbreeds.submits _ _ halong
      obtain ⟨more, hmore⟩ := hsubmitted
      refine ⟨rounds + 1, more.map .append ++ [.done], ?_⟩
      rw [loop_succ hloop, ← hmore]
      simp

end Abreast

/-! ## Runs -/

/-- A client that makes such a request disturbs the loop. -/
def Request.interferes : Request J ω → Bool
  | submit .. | close => true
  | _ => false

/-- If the frame is that of a client, it neither submits nor closes any more. -/
def Frame.Silent : Frame J B ω → Prop
  | client _ _ script => ∀ request ∈ script, request.interferes = false
  | _ => True

theorem Turn.silent (h : Turn w n v s f v' s' fs r told) (hf : f.Silent) :
    ∀ g ∈ fs, g.Silent := by
  have htail {request : Request J ω} {script : List (Request J ω)}
      (h : ∀ x ∈ request :: script, x.interferes = false) :
      ∀ x ∈ script, x.interferes = false := fun x hx => h x (List.mem_cons_of_mem _ hx)
  cases h with
  | askClose | askClone | give | touch =>
      intro g hg
      rw [Multiset.mem_singleton.mp hg]
      exact htail hf
  | askSubmit | askStart | askStats | askDrop =>
      intro g hg
      rcases Multiset.mem_cons.mp hg with rfl | hg
      · trivial
      · rw [Multiset.mem_singleton.mp hg]
        exact htail hf
  | askDrain =>
      intro g hg
      simp only [Multiset.insert_eq_cons, Multiset.mem_cons, Multiset.mem_singleton] at hg
      rcases hg with rfl | rfl | rfl
      · trivial
      · trivial
      · exact htail hf
  | finish | panic | shed => exact forall_mem_ended (fun _ => trivial) trivial
  | takeRegistry | join => exact forall_mem_joining (fun _ _ => trivial) trivial
  | _ => simp [Frame.Silent]

theorem Receives.silent (h : Receives q g gs r told) (hg : g.Silent) : ∀ f ∈ gs, f.Silent := by
  cases h with
  | startClient | submitClient | drainClient | readClient | dropClient | handle =>
      intro f hf
      rw [Multiset.mem_singleton.mp hf]
      exact hg
  | _ => simp [Frame.Silent]

section Looping

variable {offspring : J → List J} {jobs line : List J} {done : List (Deed J)}
  {past : Machine.History J}

/-- Results are passed on without the loop. -/
theorem Passes.abreast {others : Multiset (Post J B)} (h : Passes r below above r' told)
    (habreast : Abreast w offspring jobs done line
      (Result.posts r + (weigh Frame.posts below + others))) :
    Abreast w offspring jobs done line (Result.posts r' + (weigh Frame.posts above + others)) := by
  induction h generalizing others with
  | refl => exact habreast
  | @receive r'' q below above gs g told told' hpasses hg ih =>
      rw [weigh_cons, add_comm g.posts, add_assoc] at habreast
      have hpassed := ih habreast
      rw [add_left_comm (weigh Frame.posts above), ← add_assoc] at hpassed
      have hadvanced := hpassed.advance hg.advance
      rw [List.map_nil, List.append_nil, List.append_nil] at hadvanced
      convert hadvanced using 1
      rw [weigh_add]
      abel

/-- The loop and the dispatcher go together: nobody but bodies submits or closes, and the gate is
open until quiescence is declared. -/
structure Looping (w : Workload J B ω) (offspring : J → List J) (jobs : List J) (s : Shared J)
    (fs : Multiset (Frame J B ω)) (past : Machine.History J) : Prop where
  abreast : Abreast w offspring jobs (Machine.deeds past) (s.queue.items.map Admitted.job)
    (weigh Frame.posts fs)
  silent : ∀ f ∈ fs, f.Silent
  accepting : s.gate.accepting = true ∨ s.gate.lifecycle = .quiescent

theorem Machine.deeds_append_map (past : Machine.History J) (t : ThreadId)
    (told : List (Occurrence J)) :
    deeds (past ++ told.map (t, ·)) =
      deeds past ++ (told.filterMap Occurrence.event?).filterMap Event.deed? := by
  rw [deeds, events_append_map, List.filterMap_append]
  rfl

/-- While the loop goes on nobody shuts the gate but who declares quiescence. -/
theorem Looping.accepting_turn (h : Looping w offspring jobs s (f ::ₘ rest) past)
    (hcalm : ¬f.Disturbs w s) (hturn : Turn w n v s f v' s' fs r told) :
    s'.gate.accepting = true ∨ s'.gate.lifecycle = .quiescent := by
  rcases h.accepting with hopen | hquiescent
  · cases hshut : s'.gate.accepting with
    | true => exact .inl rfl
    | false =>
        refine .inr ((hturn.closes hopen hshut).resolve_right ?_)
        intro hcloses
        cases f with
        | client held errand script =>
            match errand, script, hcloses with
            | none, .close :: script, _ =>
                nomatch h.silent _ (Multiset.mem_cons_self ..) _ List.mem_cons_self
        | run k handles b => exact hcalm hcloses
        | _ => exact hcloses
  · exact .inr (hturn.quiescent hquiescent).1

variable (hbreeds : ∀ rounds, ∀ job ∈ (loop offspring jobs rounds).2, Breeds w offspring job)
include hbreeds

/-- While the loop goes on no job is refused, and nobody closes. -/
theorem Looping.not_disturbs (h : Looping w offspring jobs s (f ::ₘ rest) past)
    (haccounted : Accounted s (f ::ₘ rest)) : ¬f.Disturbs w s := by
  have hf : f ∈ f ::ₘ rest := Multiset.mem_cons_self ..
  have habreast := h.abreast
  rw [weigh_cons] at habreast
  intro hdisturbs
  cases f with
  | client held errand script =>
      match errand, script, hdisturbs with
      | none, .submit job given :: script, _ =>
          nomatch h.silent _ hf _ List.mem_cons_self
  | run k handles b =>
      obtain ⟨next, hmove⟩ := hdisturbs
      obtain ⟨rounds, job, hjob, submitted, halong⟩ := habreast.exists_along
      exact (hbreeds rounds job hjob).keeps_open b submitted next halong hmove
  | enroll job handles =>
      -- the body that waits for the submission is that of a pending job
      obtain ⟨next, hcall⟩ := habreast.exists_call
      obtain ⟨g, hg, hpost⟩ := exists_of_mem_posts hcall
      have hpending := Frame.pending_of_isHeld hpost rfl
      have hlive : s.gate.lifecycle ≠ .quiescent := by
        intro hquiescent
        rw [haccounted.pending_eq_zero hquiescent (Multiset.mem_cons_of_mem hg)] at hpending
        cases hpending
      have haccepts := Gate.isAccepting_iff.mpr ⟨h.accepting.resolve_right hlive, hlive⟩
      rw [show s.gate.isAccepting = false from hdisturbs] at haccepts
      cases haccepts
  | discard left =>
      exact habreast.refused_notMem (Multiset.mem_add.mpr (.inl (Multiset.mem_singleton_self _)))
  | _ => exact hdisturbs

/-- What a turn is to the job that runs and to the line, it is to the loop. -/
theorem Abreast.lineStep {after others : Multiset (Post J B)}
    (h : Abreast w offspring jobs done (s.queue.items.map Admitted.job) (f.posts + others))
    (hstep : LineStep w s s' f after told) (hfree : f = .pop → ∀ x ∈ others, ¬x.isHeld = true) :
    Abreast w offspring jobs
      (done ++ (told.filterMap Occurrence.event?).filterMap Event.deed?)
      (s'.queue.items.map Admitted.job) (after + others) := by
  cases hstep with
  | advances appended hadvance hline htold =>
      rw [hline, htold]
      exact h.advance hadvance
  | takes hpop hitems hafter htold =>
      have hnone := hfree hpop
      subst hpop
      rw [show (Frame.pop : Frame J B ω).posts = 0 from rfl, zero_add, hitems,
        List.map_cons] at h
      rw [hafter, htold]
      exact h.take hnone
  | ends hposts hends hqueue hafter htold =>
      rw [hposts] at h
      rw [hqueue, hafter, htold, zero_add]
      exact h.finish hbreeds hends

theorem Looping.turn (h : Looping w offspring jobs s (f ::ₘ (below + rest)) past)
    (hslots : SlotsOwned 1 s (f ::ₘ (below + rest)))
    (haccounted : Accounted s (f ::ₘ (below + rest)))
    (hturn : Turn w n v s f v' s' fs r told) (hpasses : Passes r below above r' told')
    (hserved : ∀ x ∈ r', x = .served) :
    Looping w offspring jobs s' (fs + (above + rest))
      (past ++ (told ++ told').map (n.self, ·)) := by
  have hcalm := h.not_disturbs hbreeds haccounted
  refine ⟨?_, ?_, h.accepting_turn hcalm hturn⟩
  · have hbefore := h.abreast
    rw [weigh_cons, weigh_add] at hbefore
    have hafter := hbefore.lineStep hbreeds (hturn.lineStep hcalm) (by
      rintro rfl
      rw [← weigh_add]
      refine not_isHeld_of_tickets ?_
      exact Multiset.card_eq_zero.mp (Nat.lt_one_iff.mp hslots.card_tickets_lt))
    have hnone : Result.posts r' = (0 : Multiset (Post J B)) := by
      cases r' with
      | none => rfl
      | some q => rw [hserved q rfl]; rfl
    rw [add_comm (weigh Frame.posts fs), add_assoc, add_left_comm (weigh Frame.posts fs)] at hafter
    have hpassed := hpasses.abreast hafter
    rw [hnone, zero_add] at hpassed
    rw [Machine.deeds_append_map, List.filterMap_append, hpasses.no_event, List.append_nil,
      weigh_add, weigh_add, add_left_comm]
    exact hpassed
  · exact hpasses.forall_after (fun hreceives _ hsilent => hreceives.silent hsilent)
      (hturn.silent (h.silent f (Multiset.mem_cons_self ..)))
      fun g hg => h.silent g (Multiset.mem_cons_of_mem hg)

end Looping

namespace Machine

variable {limit : Nat} {reliable : Bool} {m m' : Machine J B ω} {history later : History J}
  {world : ω} {first : List (Request J ω)} {others : List (List (Request J ω))}
  {offspring : J → List J}

/-- Jobs are buffered and may not run yet, the gate is open, and no client is in the middle of a
submission, or submits or closes any more. -/
structure Loaded (m : Machine J B ω) : Prop where
  created : m.shared.gate.lifecycle = .created
  accepting : m.shared.gate.accepting = true
  unoccupied : ∀ c p, .client c ∈ m.threads → c.call ≠ some (.submitting p)
  silent : ∀ c, .client c ∈ m.threads → ∀ request ∈ c.script, request.interferes = false

/-- The jobs that wait in the queue, the oldest first. -/
def line (m : Machine J B ω) : List J := m.shared.queue.items.map Admitted.job

/-- A client frame of a machine is that of one of its clients. -/
theorem exists_of_client_mem {held : Nat} {errand : Option Errand} {script : List (Request J ω)}
    (h : .client held errand script ∈ m.frames) :
    ∃ call, .client ⟨held, call, script⟩ ∈ m.threads ∧ errand = call.map Call.errand := by
  obtain ⟨th, hth, hf⟩ := mem_frames.mp h
  obtain ⟨call, rfl, herrand⟩ := Thread.exists_of_client_mem hf
  exact ⟨call, hth, herrand⟩

theorem Loaded.errand_ne (h : m.Loaded) {held : Nat} {errand : Option Errand}
    {script : List (Request J ω)} (hf : .client held errand script ∈ m.frames) :
    errand ≠ some .submit := by
  obtain ⟨call, hclient, rfl⟩ := exists_of_client_mem hf
  intro hsubmit
  obtain ⟨c, rfl, hc⟩ := Option.map_eq_some_iff.mp hsubmit
  cases c with
  | submitting p => exact h.unoccupied _ p hclient rfl
  | starting p | draining p | reading p | dropping p => cases hc

/-- Where jobs are buffered and no client submits, nobody is at a post. -/
theorem Loaded.posts_eq_zero
    (run : Runs w reliable (ofClients limit world first others) history m) (h : m.Loaded) :
    weigh Frame.posts m.frames = 0 := by
  have hserving := (run.unopened h.created).serving
  have hawaits : weigh Frame.awaits m.frames = 0 := by
    refine weigh_eq_zero ?_
    intro f hf
    unfold Frame.awaits
    split
    · cases hserving _ hf
    · exact absurd rfl (h.errand_ne hf)
    · rfl
  rw [← run.calls] at hawaits
  refine weigh_eq_zero ?_
  intro f hf
  have hsubmits := eq_zero_of_weigh hawaits hf
  cases f with
  | client held errand script =>
      have herrand := h.errand_ne hf
      rcases errand with _ | _ | _ <;> first | rfl | exact absurd rfl herrand
  | run | submitting | starting => cases hserving _ hf
  | enroll | discard | count | push | checkOpen | accepted => cases hsubmits
  | _ => rfl

theorem Loaded.looping
    (run : Runs w reliable (ofClients limit world first others) history m) (h : m.Loaded) :
    Looping w offspring m.line m.shared m.frames [] where
  abreast := by
    rw [h.posts_eq_zero run]
    exact .idle (show loop offspring m.line 0 = ([], m.line) from rfl)
  silent := by
    intro f hf
    cases f with
    | client held errand script =>
        obtain ⟨call, hclient, -⟩ := exists_of_client_mem hf
        exact h.silent _ hclient
    | _ => trivial
  accepting := .inl h.accepting

/-- Whatever happens afterwards, the loop and the dispatcher go together. -/
theorem Runs.looping (run : Runs w reliable (ofClients 1 world first others) history m)
    (hloaded : m.Loaded)
    (hbreeds : ∀ rounds, ∀ job ∈ (loop offspring m.line rounds).2, Breeds w offspring job)
    (hlater : Runs w reliable m later m') :
    Looping w offspring m.line m'.shared m'.frames later := by
  refine hlater.turn_induction
    (P := fun m₁ past => Looping w offspring m.line m₁.shared m₁.frames past)
    (hloaded.looping run) ?_
  intro n f fs below above rest r r' told told' past m₁ m₂ run₁ _ hbefore hafter _ hturn hpasses
    hserved h
  have hrun := run.trans run₁
  have hslots := hrun.slotsOwned
  have haccounted := hrun.accounted
  rw [hbefore] at h hslots haccounted
  rw [hafter]
  exact h.turn hbreeds hslots haccounted hturn hpasses hserved

/-- With one slot what happens to the queue is what the loop does, as far as it has come; and when no
job is pending, it is all that the loop does. -/
theorem Runs.deeds_of_loop (run : Runs w reliable (ofClients 1 world first others) history m)
    (hloaded : m.Loaded)
    (hbreeds : ∀ rounds, ∀ job ∈ (loop offspring m.line rounds).2, Breeds w offspring job)
    (hlater : Runs w reliable m later m') :
    (∃ rounds, deeds later <+: (loop offspring m.line rounds).1) ∧
      (m'.shared.gate.pending = 0 →
        ∃ rounds, loop offspring m.line rounds = (deeds later, [])) := by
  have habreast := (run.looping hloaded hbreeds hlater).abreast
  refine ⟨habreast.exists_prefix hbreeds, ?_⟩
  intro hpending
  have hspent := Spent.of_accounted (run.trans hlater).accounted hpending
  obtain ⟨-, rounds, hloop⟩ := habreast.exists_loop (not_isHeld_of_tickets hspent.running)
  rw [hspent.queue] at hloop
  exact ⟨rounds, hloop⟩

/-- Jobs are popped in the order in which they were pushed, whatever the limit, and no more bodies
run than it allows.  With one slot each job has ended when the next one is popped; and where buffered
jobs breed, and nobody but them submits or closes, everything goes as the loop does it. -/
theorem Runs.fifo_dispatch
    (run : Runs w reliable (ofClients limit world first others) history m) :
    popped history ++ m.shared.queue.items = pushed history ∧
      (⟨[], 0⟩ : Worklist J).Serves limit (events history)
        ⟨m.shared.queue.items, m.running⟩ ∧
      m.running.card ≤ limit ∧
      (limit = 1 →
        (∀ before between after a b,
          events history = before ++ .popped a :: (between ++ .popped b :: after) →
            ∃ ending, .ended a.ticket ending ∈ between) ∧
        ∀ offspring, m.Loaded →
          (∀ rounds, ∀ job ∈ (loop offspring m.line rounds).2, Breeds w offspring job) →
          ∀ later m', Runs w reliable m later m' →
            (∃ rounds, deeds later <+: (loop offspring m.line rounds).1) ∧
            (m'.shared.gate.pending = 0 →
              ∃ rounds, loop offspring m.line rounds = (deeds later, []))) := by
  refine ⟨run.first_in_first_out, run.serves, ?_, ?_⟩
  · have hslots := run.slotsOwned
    rw [running, card_weigh_tickets]
    exact hslots.bodies_le_active.trans (hslots.active_le_peak.trans hslots.peak_le_limit)
  · rintro rfl
    refine ⟨?_, fun offspring hloaded hbreeds later m' hlater =>
      run.deeds_of_loop hloaded hbreeds hlater⟩
    intro before between after a b hevents
    have hserves := run.serves
    rw [hevents] at hserves
    exact hserves.ended_between

/-- A client submits two jobs, of which the first submits two more, and drains. -/
def breeding : Machine Script.Job Script.Body Script.World :=
  ofClients 1 .empty
    [.clone, .submit [.tree 2 1] 1, .submit [.log "last"] 0, .drain] []

/-- The two jobs that the first one submits run after the second. -/
theorem fifo_dispatch_breeding :
    ∃ history m later m', Runs Script.workload true breeding history m ∧ m.Loaded ∧
      m.line = [[.tree 2 1], [.log "last"]] ∧ Runs Script.workload true m later m' ∧
      m'.shared.gate.lifecycle = .quiescent ∧
      ∃ rounds, loop Script.offspring m.line rounds = (deeds later, []) := by
  have hrun := runs_settle Script.workload 11 breeding
  have hlater := runs_settle Script.workload 60 (breeding.settle Script.workload 11).1
  have hthreads : (breeding.settle Script.workload 11).1.threads =
      [.client ⟨1, none, [.drain]⟩] := by rfl
  have hline : (breeding.settle Script.workload 11).1.line = [[.tree 2 1], [.log "last"]] := by
    rfl
  have hloaded : (breeding.settle Script.workload 11).1.Loaded := by
    refine ⟨by decide, by decide, ?_, ?_⟩
    · intro c p hc
      rw [hthreads, List.mem_singleton] at hc
      cases hc
      exact nofun
    · intro c hc
      rw [hthreads, List.mem_singleton] at hc
      cases hc
      simp [Request.interferes]
  have hbreeds : ∀ rounds, ∀ job ∈
      (loop Script.offspring (breeding.settle Script.workload 11).1.line rounds).2,
      Breeds Script.workload Script.offspring job := by
    intro rounds job hjob
    refine Script.breeds ?_
    rw [hline] at hjob
    have hjobs : (∃ depth, job = [.tree 2 depth]) ∨ job = [.log "last"] := by
      refine forall_mem_loop
        (p := fun job => (∃ depth, job = [.tree 2 depth]) ∨ job = [.log "last"]) ?_ ?_ rounds job
        hjob
      · simp
      · rintro _ (⟨_ | depth, rfl⟩ | rfl) child hchild
        · cases hchild
        · refine .inl ⟨depth, ?_⟩
          simpa [Script.offspring] using hchild
        · cases hchild
    obtain ⟨depth, rfl⟩ | rfl := hjobs <;> simp
  have hquiescent : ((breeding.settle Script.workload 11).1.settle Script.workload
      60).1.shared.gate.lifecycle = .quiescent := by decide
  have hpending : ((breeding.settle Script.workload 11).1.settle Script.workload
      60).1.shared.gate.pending = 0 := by decide
  obtain ⟨-, -, -, hsingle⟩ := Runs.fifo_dispatch hrun
  obtain ⟨-, hloop⟩ := (hsingle rfl).2 _ hloaded hbreeds _ _ hlater
  exact ⟨_, _, _, _, hrun, hloaded, hline, hlater, hquiescent, hloop hpending⟩

end Machine

end Frontier.Dispatcher
