/-
# One slot — with one thread, places are examined in the order of their jobs

With one thread there is one slot, so jobs run one after another, whichever
worker runs them.  There is also never more than one submission under way: the
searching client submits before it drains, while no job runs, and after that
only the job does that runs.  Both follow from one number.  The client that is
still to drain has the *baton*, and so has the frame that owns the slot; nobody
waits for a submission who has it not (`awaits_le_baton`).

So nobody overtakes.  As long as the search goes on, the jobs that were accepted
stand in line (`inLine_of_runs`):

    examined, in this order | taken up | in the queue | accepted, not in the queue yet
-/
import Frontier.Proofs.Dispatcher.Calls
import Frontier.Proofs.Dispatcher.Ownership
import Frontier.Proofs.Search.Burden
import Mathlib

namespace Frontier.Search

open Dispatcher
open Dispatcher.Machine (Runs History accepted)

variable {plan : Plan} {n : Neighbours} {v v' : Record} {s s' : Shared Place}
  {f g : SearchFrame} {fs gs below above rest others : Multiset SearchFrame} {q : Result}
  {r r' : Option Result} {told told' : List (Occurrence Place)} {past : History Place} {p : Place}

/-! ## The baton -/

/-- Whoever puts jobs into the queue or examines a place has the baton: it is still to drain, or it
owns a slot. -/
def baton (f : SearchFrame) : Nat := drainsAhead f + f.slots

theorem awaits_le_baton (hf : Scripted f) : f.awaits ≤ baton f := by
  unfold Frame.awaits
  split
  · exact Nat.le_add_left 1 _
  · cases (show OnScript _ (some .submit) _ from hf) with
    | submitting places =>
        rw [baton, drainsAhead, drainsAhead_requests]
        exact Nat.le_add_right 1 _
  · exact Nat.zero_le _

theorem weigh_awaits_le (hscripted : ∀ f ∈ fs, Scripted f) :
    weigh Frame.awaits fs ≤ weigh baton fs :=
  Multiset.sum_map_le_sum_map _ _ fun f hf => awaits_le_baton (hscripted f hf)

/-- A frame and the others, as it is with one slot. -/
structure Single (f : SearchFrame) (others : Multiset SearchFrame) : Prop where
  /-- Where one owns the slot no other does, and nobody is to drain. -/
  slots : f.slots = 1 → ∀ g ∈ others, baton g = 0
  /-- Where one submits no other does. -/
  submits : f.submits = 1 → ∀ g ∈ others, g.submits = 0
  /-- Where one owns the slot and waits for nothing, nobody submits. -/
  quiet : f.slots = 1 → f.awaits = 0 → ∀ g ∈ others, g.submits = 0

theorem Single.of_weights (hbaton : weigh baton (f ::ₘ others) ≤ 1)
    (hcalls : weigh Frame.submits (f ::ₘ others) = weigh Frame.awaits (f ::ₘ others))
    (hscripted : ∀ g ∈ f ::ₘ others, Scripted g) : Single f others := by
  have hawaits := weigh_awaits_le hscripted
  have hothers := weigh_awaits_le fun g hg => hscripted g (Multiset.mem_cons_of_mem hg)
  rw [weigh_cons] at hbaton
  rw [weigh_cons, weigh_cons] at hcalls hawaits
  have hslots : f.slots ≤ baton f := Nat.le_add_left _ _
  refine ⟨fun hf g hg => ?_, fun hf g hg => ?_, fun hf hnone g hg => ?_⟩
  · exact eq_zero_of_weigh (by omega) hg
  · exact eq_zero_of_weigh (by omega) hg
  · exact eq_zero_of_weigh (by omega) hg

/-! ## The line -/

/-- The job that a frame has taken up and whose place it has not looked at. -/
def taken : SearchFrame → Multiset Place
  | .run _ _ ex => ex.job
  | _ => 0

/-- The job that is accepted and that a frame is to put into the queue. -/
def handed : SearchFrame → Multiset Place
  | .count a | .push a => {a.job}
  | _ => 0

theorem slots_eq_zero (h : baton f = 0) : f.slots = 0 := (Nat.add_eq_zero_iff.mp h).2

theorem taken_eq_zero (h : baton f = 0) : taken f = 0 := by
  have hslots := slots_eq_zero h
  cases f with
  | run => cases hslots
  | _ => rfl

theorem handed_eq_zero (h : f.submits = 0) : handed f = 0 := by
  cases f with
  | count | push => cases h
  | _ => rfl

/-- What a turn does to the line. -/
inductive LineChange (v : Record) (s : Shared Place) (f : SearchFrame) (v' : Record)
    (s' : Shared Place) (fs : Multiset SearchFrame) (told : List (Occurrence Place)) : Prop
  | keeps : v'.examined = v.examined → s'.queue = s.queue → weigh taken fs = taken f →
      weigh handed fs = handed f → acceptedIn told = [] → LineChange v s f v' s' fs told
  | examines {k held : Nat} {p : Place} : f = .run k held (.classify p) →
      v'.examined = v.examined ++ [p] → s'.queue = s.queue → weigh taken fs = 0 →
      weigh handed fs = 0 → acceptedIn told = [] → LineChange v s f v' s' fs told
  | takes {a : Admitted Place} : f = .pop → v'.examined = v.examined →
      s.queue.items = a :: s'.queue.items → weigh taken fs = {a.job} → weigh handed fs = 0 →
      acceptedIn told = [] → LineChange v s f v' s' fs told
  | accepts {p : Place} {handles : Nat} : f = .enroll p handles → v'.examined = v.examined →
      s'.queue = s.queue → weigh taken fs = 0 → weigh handed fs = {p} → acceptedIn told = [p] →
      LineChange v s f v' s' fs told
  | pushes {a : Admitted Place} : f = .push a → v'.examined = v.examined →
      s'.queue.items = s.queue.items ++ [a] → weigh taken fs = 0 → weigh handed fs = 0 →
      acceptedIn told = [] → LineChange v s f v' s' fs told

/-- An examination that acts keeps its job, or looks at the place. -/
theorem Examination.Acts.line {w w' : Record} {ex next : Examination} (h : Acts plan w ex w' next)
    (hex : ex.OnCourse plan) (hskip : ∀ p, ex ≠ .skip p) :
    (w'.examined = w.examined ∧ next.job = ex.job) ∨
      ∃ p, ex = .classify p ∧ w'.examined = w.examined ++ [p] ∧ next.job = 0 := by
  cases h with
  | skipFirst p | skipNext p => exact absurd rfl (hskip p)
  | @classified p | @unclassified p => exact .inr ⟨p, rfl, rfl, rfl⟩
  | descend | stay =>
      rw [Record.countKind_eq]
      exact .inl ⟨rfl, rfl⟩
  | judge => exact .inl ⟨rfl, job_afterVerdict ..⟩
  | keepFailure | discardFailure => exact .inl ⟨rfl, Resumes.job_eq_zero hex⟩
  | _ => exact .inl ⟨rfl, rfl⟩

theorem Turn.lineChange (h : Turn (workload plan) n v s f v' s' fs r told)
    (hscripted : Scripted f) (hcourse : OnCourse plan f)
    (hskip : ∀ k held p, f ≠ .run k held (.skip p)) : LineChange v s f v' s' fs told := by
  cases h with
  | @act k held ex effect hmove =>
      have hnot : ∀ p, ex ≠ .skip p := by
        rintro p rfl
        exact hskip k held p rfl
      rcases (Examination.acts_of_move hmove v).line hcourse hnot with ⟨hexamined, hjob⟩ |
        ⟨p, rfl, hexamined, hjob⟩
      · exact .keeps hexamined rfl (by rw [weigh_singleton]; exact hjob) (weigh_singleton ..) rfl
      · exact .examines rfl hexamined rfl (by rw [weigh_singleton]; exact hjob)
          (weigh_singleton ..) rfl
  | wait hmove | startInside hmove | ask hmove | dropInside hmove =>
      cases Examination.makes_of_move hmove
  | finish hmove =>
      refine .keeps rfl rfl ?_ (weigh_ended (fun _ => rfl) rfl) rfl
      rw [taken, Examination.job_of_finish hmove]
      exact weigh_ended (fun _ => rfl) rfl
  | panic hmove =>
      cases Examination.makes_of_move hmove
      exact .keeps rfl rfl (weigh_ended (fun _ => rfl) rfl) (weigh_ended (fun _ => rfl) rfl) rfl
  | closeInside hmove | cloneInside hmove =>
      cases Examination.makes_of_move hmove
      exact .keeps rfl rfl (weigh_singleton ..) (weigh_singleton ..) rfl
  | submit hmove =>
      cases Examination.makes_of_move hmove
      exact .keeps rfl rfl rfl rfl rfl
  | shed =>
      exact .keeps rfl rfl (weigh_ended (fun _ => rfl) rfl) (weigh_ended (fun _ => rfl) rfl) rfl
  | takeRegistry | join =>
      exact .keeps rfl rfl (weigh_joining (fun _ _ => rfl) rfl)
        (weigh_joining (fun _ _ => rfl) rfl) rfl
  | accept he =>
      obtain ⟨-, rfl, rfl⟩ := Shared.enroll_eq_ok_iff.mp he
      exact .accepts rfl rfl rfl (weigh_singleton ..) (weigh_singleton ..) rfl
  | push => exact .pushes rfl rfl rfl (weigh_singleton ..) (weigh_singleton ..) rfl
  | pop hp =>
      obtain ⟨rest, hitems, rfl⟩ := Shared.pop?_eq_some_iff.mp hp
      exact .takes rfl rfl hitems (weigh_singleton ..) (weigh_singleton ..) rfl
  | takeSlot ha | reacquire ha | acquireSelf ha =>
      obtain ⟨-, rfl⟩ := Shared.acquire?_eq_some_iff.mp ha
      exact .keeps rfl rfl (by simp [taken]) (by simp [handed]) rfl
  | handBack | giveUp | release =>
      obtain ⟨_, _, events, hrelease, htold⟩ := s.exists_release_eq
      rw [hrelease]
      rcases htold with rfl | rfl <;>
        exact .keeps rfl rfl (by simp [taken]) (by simp [handed]) rfl
  | touch =>
      cases OnScript.asks hscripted with
      | touch value values => exact .keeps rfl rfl (weigh_singleton ..) (weigh_singleton ..) rfl
  | _ => exact .keeps rfl rfl (by simp [taken]) (by simp [handed]) rfl

theorem Receives.taken_eq (h : Receives q g gs r told) (hg : Scripted g) :
    taken g = weigh taken gs := by
  cases h with
  | @submitBody ok =>
      obtain ⟨p, kind, rest, rfl⟩ := hg
      cases ok <;> rfl
  | startBody => exact absurd hg id
  | _ => rfl

theorem Receives.handed_eq (h : Receives q g gs r told) : handed g = weigh handed gs := by
  cases h <;> rfl

/-- The jobs that were accepted stand in the order in which they were: first those whose places are
examined, then what is taken up, the queue, and what is not in the queue yet. -/
def InLine (v : Record) (s : Shared Place) (fs : Multiset SearchFrame) (past : History Place) :
    Prop :=
  ∃ inHand coming : List Place, (inHand : Multiset Place) = weigh taken fs ∧
    (coming : Multiset Place) = weigh handed fs ∧
      (accepted past).map Admitted.job =
        v.examined ++ inHand ++ s.queue.items.map Admitted.job ++ coming

theorem InLine.turn (h : InLine v s (f ::ₘ (below + rest)) past)
    (hchange : LineChange v s f v' s' fs told) (hsingle : Single f (below + rest))
    (hscripted : ∀ g ∈ f ::ₘ (below + rest), Scripted g) (hr : ∀ x ∈ r, Fitting x)
    (hpasses : Passes r below above r' told') (t : ThreadId) :
    InLine v' s' (fs + (above + rest)) (past ++ (told ++ told').map (t, ·)) := by
  obtain ⟨inHand, coming, hinHand, hcoming, hline⟩ := h
  have htaken : weigh taken (fs + (above + rest)) =
      weigh taken fs + weigh taken (below + rest) := by
    rw [weigh_add, weigh_add, weigh_add, hpasses.weigh_eq_of_forall Receives.scripted
      (fun hg _ => Receives.taken_eq hg) hr fun g hg => hscripted g (by simp [hg])]
  have hhanded : weigh handed (fs + (above + rest)) =
      weigh handed fs + weigh handed (below + rest) := by
    rw [weigh_add, weigh_add, weigh_add, hpasses.weigh_eq Receives.handed_eq]
  rw [InLine, map_job_accepted, Passes.acceptedIn_append hpasses, hline, htaken, hhanded]
  rw [weigh_cons] at hinHand hcoming
  have hnoneTaken (hslots : f.slots = 1) : weigh taken (below + rest) = 0 :=
    weigh_eq_zero fun g hg => taken_eq_zero (hsingle.slots hslots g hg)
  have hnoneHanded (hsubmits : f.submits = 1) : weigh handed (below + rest) = 0 :=
    weigh_eq_zero fun g hg => handed_eq_zero (hsingle.submits hsubmits g hg)
  cases hchange with
  | keeps hexamined hqueue hfs hfs' hnone =>
      refine ⟨inHand, coming, by rw [hfs, hinHand], by rw [hfs', hcoming], ?_⟩
      rw [hexamined, hqueue, hnone, List.append_nil]
  | @examines k held p hf hexamined hqueue hfs hfs' hnone =>
      subst hf
      rw [hnoneTaken rfl, add_zero] at hinHand
      obtain rfl : inHand = [p] := Multiset.coe_eq_singleton.mp hinHand
      refine ⟨[], coming, ?_, by rw [hfs', hcoming]; rfl, ?_⟩
      · rw [hfs, hnoneTaken rfl]
        rfl
      · rw [hexamined, hqueue, hnone, List.append_nil, List.append_nil]
  | @takes a hf hexamined hitems hfs hfs' hnone =>
      subst hf
      rw [hnoneTaken rfl] at hinHand
      obtain rfl : inHand = [] := (Multiset.coe_eq_zero _).mp hinHand
      refine ⟨[a.job], coming, ?_, by rw [hfs', hcoming]; rfl, ?_⟩
      · rw [hfs, hnoneTaken rfl]
        rfl
      · rw [hexamined, hitems, hnone]
        simp
  | @accepts p handles hf hexamined hqueue hfs hfs' hone =>
      subst hf
      rw [hnoneHanded rfl] at hcoming
      obtain rfl : coming = [] := (Multiset.coe_eq_zero _).mp hcoming
      refine ⟨inHand, [p], by rw [hfs, hinHand]; rfl, ?_, ?_⟩
      · rw [hfs', hnoneHanded rfl]
        rfl
      · rw [hexamined, hqueue, hone, List.append_nil]
  | @pushes a hf hexamined hitems hfs hfs' hnone =>
      subst hf
      rw [hnoneHanded rfl, add_zero] at hcoming
      obtain rfl : coming = [a.job] := Multiset.coe_eq_singleton.mp hcoming
      refine ⟨inHand, [], by rw [hfs, hinHand]; rfl, ?_, ?_⟩
      · rw [hfs', hnoneHanded rfl]
        rfl
      · rw [hexamined, hitems, hnone]
        simp

/-! ## Runs of a search with one thread -/

section Runs

variable {disk : Disk} {search : Search} {bystanders : List (List Bool)} {reliable : Bool}
  {m : Machine Place Examination Record} {history : History Place}

/-- With one thread only one frame has the baton. -/
theorem weigh_baton_le (hone : search.threads = 1)
    (run : Runs (workload plan) reliable (search.machine disk bystanders) history m) :
    weigh baton m.frames ≤ 1 := by
  have hsum : weigh baton m.frames = weigh drainsAhead m.frames + weigh Frame.slots m.frames :=
    Multiset.sum_map_add
  obtain ⟨hle, hbefore⟩ := drainsOnce_of_runs run
  rcases hbefore with hzero | ⟨-, hdormant⟩
  · have howned := Machine.Runs.slotsOwned run
    have hactive := howned.owned
    have hpeak := howned.active_le_peak
    have hlimit := howned.peak_le_limit
    omega
  · have hnone : weigh Frame.slots m.frames = 0 := by
      refine weigh_eq_zero ?_
      intro f hf
      have hf' := hdormant f hf
      cases f with
      | client | enroll | discard | count | push | checkOpen => rfl
      | _ => exact absurd hf' id
    omega

theorem single_of_runs (hone : search.threads = 1)
    (run : Runs (workload plan) reliable (search.machine disk bystanders) history m)
    (hframes : m.frames = f ::ₘ others) : Single f others := by
  have hbaton := weigh_baton_le hone run
  have hcalls := run.calls
  have hscripted := scripted_of_runs run
  rw [hframes] at hbaton hcalls hscripted
  exact .of_weights hbaton hcalls hscripted

/-- As long as a search with one thread goes on, its jobs stand in line. -/
theorem inLine_of_runs (hone : search.threads = 1)
    (run : Runs (workload plan) reliable (search.machine disk bystanders) history m)
    (hgoes : m.world.interrupted = false) : InLine m.world m.shared m.frames history := by
  refine goes_on_induction (P := fun m past => InLine m.world m.shared m.frames past) run hgoes
    ?_ ?_
  · have htaken : weigh taken (search.machine disk bystanders).frames = 0 :=
      Machine.weigh_ofClients fun _ _ => rfl
    have hhanded : weigh handed (search.machine disk bystanders).frames = 0 :=
      Machine.weigh_ofClients fun _ _ => rfl
    exact ⟨[], [], htaken.symm, hhanded.symm, rfl⟩
  · intro n f fs below above rest r r' told told' past m₁ m₂ run₁ _ _ _ hbefore hafter hturn
      hpasses hsmooth h
    have hmem : f ∈ m₁.frames := by
      rw [hbefore]
      exact Multiset.mem_cons_self ..
    have hscripted := scripted_of_runs run₁
    have hcourse := onCourse_of_runs run₁ f hmem
    have hchange := Turn.lineChange hturn (hscripted f hmem) hcourse hsmooth.not_skip
    have hr := (Turn.scripted hturn (hscripted f hmem)).2
    rw [hbefore] at h hscripted
    rw [hafter]
    exact h.turn hchange (single_of_runs hone run₁ hbefore) hscripted hr hpasses n.self

end Runs

end Frontier.Search
