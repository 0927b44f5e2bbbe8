/-
# Levels — with one thread, what is discovered is never deeper than what follows

A job may discover places one level below its own, and it is done before the
next one begins.  So with one thread the jobs come level by level.  What is
accepted, or claimed, is at most one level below the place that was looked at
last (`level`), and whoever deals with a place deals with that one (`About`).

    jobs are accepted in the order of their depths                   (`Layered`)
    what is looked at in a place has a claim at most one level below (`Levels`)

The second is what makes the depths least: a key that a place of depth `d` holds
was claimed at depth `d + 1`, or before that at no greater depth.
-/
import Frontier.Proofs.Search.Ledger
import Frontier.Proofs.Search.OneSlot
import Mathlib

namespace Frontier.Search

open Dispatcher
open Dispatcher.Machine (Runs History accepted)

variable {plan : Plan} {n : Neighbours} {v v' : Record} {s s' : Shared Place}
  {f g : SearchFrame} {fs gs below above rest others : Multiset SearchFrame} {q : Result}
  {r r' : Option Result} {told told' : List (Occurrence Place)} {past : History Place}
  {p : Place} {seen seen' jobs claims : List Place} {looked : Multiset (Place × Place)}

/-! ## The place that is dealt with -/

/-- The depth of what is discovered in the place that was looked at last.  Roots are discovered
before any place is looked at. -/
def level (seen : List Place) : Nat := seen.getLast?.elim 0 fun p => p.depth + 1

theorem level_of_getLast? (h : seen.getLast? = some p) : level seen = p.depth + 1 := by
  rw [level, h]
  rfl

@[simp] theorem level_concat (seen : List Place) (p : Place) :
    level (seen ++ [p]) = p.depth + 1 :=
  level_of_getLast? List.getLast?_concat

/-- The place that the examination deals with, if it has looked at one, was looked at last. -/
def Examination.About (seen : List Place) : Examination → Prop
  | countKind p _ | list p _ | children p _ _ | prepare p _ _ _ | submit p _ _ _ | judge p _ =>
      seen.getLast? = some p
  | countMatch path | tellMatch path => seen.getLast?.map Place.path = some path
  | countFailure _ next | tellFailure _ next | keepFailure _ next => next.About seen
  | _ => True

/-- So it is with the examination of a frame, and the jobs that are submitted come one level below
the place. -/
def About (seen : List Place) : SearchFrame → Prop
  | .client _ _ script => ∀ p handles, .submit p handles ∈ script → p.depth = level seen
  | .enroll p _ => p.depth = level seen
  | .run _ _ ex => ex.About seen
  | .submitting _ _ next => (next true).About seen
  | _ => True

/-- An examination that acts goes on with its place, or with the one that it looks at. -/
theorem Examination.Acts.about {w w' : Record} {ex next : Examination}
    (hacts : Acts plan w ex w' next) (h : ex.About w.examined) : next.About w'.examined := by
  cases hacts with
  | passOver | look | skipFirst | skipNext | unclassified | muteMatch | tellMatch | breakMatch
  | keepMatch | discardMatch | breakFailure => trivial
  | classified => exact List.getLast?_concat
  | descend | stay =>
      rw [Record.countKind_eq]
      exact h
  | judge p _ =>
      have hlast : w.examined.getLast? = some p := h
      unfold afterVerdict
      split
      · exact congrArg (Option.map Place.path) hlast
      · trivial
      · trivial
  | _ => exact h

/-- What is asked for later is asked for at the same level. -/
theorem about_tail {held held' : Nat} {errand errand' : Option Errand}
    {request : Request Place Record} {script : List (Request Place Record)}
    (h : About seen (.client held errand (request :: script))) :
    About seen (.client held' errand' script) :=
  fun p handles hmem => h p handles (List.mem_cons_of_mem _ hmem)

theorem Turn.about (h : Turn (workload plan) n v s f v' s' fs r told) (hscripted : Scripted f)
    (hcourse : OnCourse plan f) (hf : About v.examined f) : ∀ g ∈ fs, About v'.examined g := by
  cases h with
  | act hmove =>
      simp only [Multiset.mem_singleton, forall_eq]
      exact (Examination.acts_of_move hmove v).about hf
  | wait hmove | ask hmove | dropInside hmove => cases Examination.makes_of_move hmove
  | closeInside hmove =>
      cases Examination.makes_of_move hmove
      simp only [Multiset.mem_singleton, forall_eq]
      trivial
  | submit hmove =>
      cases Examination.makes_of_move hmove with
      | submit p kind _ rest =>
          have hlast : v.examined.getLast? = some p := hf
          obtain ⟨e, rfl, -⟩ := hcourse
          simp only [Multiset.insert_eq_cons, Multiset.mem_cons, Multiset.mem_singleton,
            forall_eq_or_imp, forall_eq]
          exact ⟨(level_of_getLast? hlast).symm, hlast⟩
  | cloneInside hmove =>
      cases Examination.makes_of_move hmove
      simp only [Multiset.mem_singleton, forall_eq]
      exact hf
  | pop hp =>
      simp only [Multiset.mem_singleton, forall_eq]
      trivial
  | finish | panic | shed => exact forall_mem_ended (fun _ => trivial) trivial
  | takeRegistry | join => exact forall_mem_joining (fun _ _ => trivial) trivial
  | askSubmit =>
      simp only [Multiset.insert_eq_cons, Multiset.mem_cons, Multiset.mem_singleton,
        forall_eq_or_imp, forall_eq]
      exact ⟨hf _ _ List.mem_cons_self, about_tail hf⟩
  | askDrain =>
      simp only [Multiset.insert_eq_cons, Multiset.mem_cons, Multiset.mem_singleton,
        forall_eq_or_imp, forall_eq]
      exact ⟨trivial, trivial, about_tail hf⟩
  | askClone =>
      simp only [Multiset.mem_singleton, forall_eq]
      exact about_tail hf
  | touch =>
      cases OnScript.asks hscripted with
      | touch value values =>
          simp only [Multiset.mem_singleton, forall_eq]
          exact about_tail hf
  | askStart | askClose | askStats | askDrop | give => nomatch OnScript.asks hscripted
  | _ => simp [About]

theorem Receives.about (h : Receives q g gs r told) (hscripted : Scripted g)
    (hg : About seen g) : ∀ f ∈ gs, About seen f := by
  cases h with
  | @submitBody ok =>
      obtain ⟨p, kind, rest, rfl⟩ := hscripted
      have hlast : seen.getLast? = some p := hg
      simp only [Multiset.mem_singleton, forall_eq]
      cases ok <;> exact hlast
  | startBody => exact absurd hscripted id
  | submitClient | drainClient | startClient | readClient | dropClient | handle =>
      simp only [Multiset.mem_singleton, forall_eq]
      exact hg
  | _ => simp [About]

/-- Who has not the baton and does not submit deals with no place. -/
theorem about_of_idle (hscripted : Scripted f) (hbaton : baton f = 0) (hsubmits : f.submits = 0)
    (seen : List Place) : About seen f := by
  cases f with
  | client held errand script =>
      have hahead : script.countP isDrain = 0 := (Nat.add_eq_zero_iff.mp hbaton).1
      intro p handles hmem
      cases (show OnScript held errand script from hscripted) with
      | next places | submitting places =>
          rw [drainsAhead_requests] at hahead
          cases hahead
      | submit place places =>
          rw [List.countP_cons, drainsAhead_requests] at hahead
          cases hahead
      | draining | drained => cases hmem
      | bystander values =>
          obtain ⟨value, -, hvalue⟩ := List.mem_map.mp hmem
          cases hvalue
  | enroll => cases hsubmits
  | run | submitting => cases slots_eq_zero hbaton
  | _ => trivial

theorem mem_of_submit_mem {places : List Place} {handles : Nat}
    (h : .submit p handles ∈ requests places) : p ∈ places := by
  simp only [requests, List.mem_append, List.mem_flatMap, List.mem_cons, List.not_mem_nil,
    or_false, reduceCtorEq, false_or] at h
  obtain ⟨place, hplace, heq⟩ := h
  cases heq
  exact hplace

/-- The place that was looked at last is another one only after a turn of the frame that owns the
slot, and then the other frames deal with no place. -/
theorem About.turn (h : ∀ g ∈ f ::ₘ (below + rest), About v.examined g)
    (hfs : ∀ g ∈ fs, About v'.examined g) (hchange : LineChange v s f v' s' fs told)
    (hsingle : Single f (below + rest)) (hscripted : ∀ g ∈ below + rest, Scripted g)
    (hpasses : Passes r below above r' told') :
    ∀ g ∈ fs + (above + rest), About v'.examined g := by
  have hbefore : ∀ g ∈ below + rest, About v'.examined g := by
    intro g hg
    cases hchange with
    | @examines k held p hf =>
        subst hf
        exact about_of_idle (hscripted g hg) (hsingle.slots rfl g hg) (hsingle.quiet rfl rfl g hg) _
    | keeps hexamined | takes _ hexamined | accepts _ hexamined | pushes _ hexamined =>
        rw [hexamined]
        exact h g (Multiset.mem_cons_of_mem hg)
  exact hpasses.forall_after
    (fun hg hbelow habout => Receives.about hg (hscripted _ (by simp [hbelow])) habout) hfs hbefore

section Runs

variable {disk : Disk} {search : Search} {bystanders : List (List Bool)} {reliable : Bool}
  {m : Machine Place Examination Record} {history : History Place}

/-- In a search with one thread that goes on, whoever deals with a place deals with the one that was
looked at last. -/
theorem about_of_runs (hone : search.threads = 1)
    (run : Runs (workload plan) reliable (search.machine disk bystanders) history m)
    (hgoes : m.world.interrupted = false) : ∀ f ∈ m.frames, About m.world.examined f := by
  refine goes_on_induction (P := fun m _ => ∀ f ∈ m.frames, About m.world.examined f) run hgoes
    ?_ ?_
  · intro f hf
    rw [frames_machine, beginnings_eq, Multiset.mem_cons, Multiset.mem_coe, List.mem_map] at hf
    rcases hf with rfl | ⟨values, -, rfl⟩
    · exact fun p handles hmem => depth_of_mem_keptRoots (mem_of_submit_mem hmem)
    · have hscripted : Scripted (.client 0 none (flagChanges values)) := OnScript.bystander values
      exact about_of_idle hscripted (drainsAhead_flagChanges values) rfl _
  · intro n f fs below above rest r r' told told' past m₁ m₂ run₁ _ _ _ hbefore hafter hturn
      hpasses hsmooth h
    have hscripted := scripted_of_runs run₁
    have hcourse := onCourse_of_runs run₁
    rw [hbefore] at h hscripted hcourse
    rw [hafter]
    have hmem : f ∈ f ::ₘ (below + rest) := Multiset.mem_cons_self ..
    have hfs := Turn.about hturn (hscripted f hmem) (hcourse f hmem) (h f hmem)
    have hchange := Turn.lineChange hturn (hscripted f hmem) (hcourse f hmem) hsmooth.not_skip
    exact About.turn h hfs hchange (single_of_runs hone run₁ hbefore)
      (fun g hg => hscripted g (Multiset.mem_cons_of_mem hg)) hpasses

end Runs

/-! ## Jobs come level by level -/

/-- Jobs were accepted in the order of their depths, none of them more than one level below the
place that was looked at last. -/
structure Layered (seen jobs : List Place) : Prop where
  sorted : jobs.Pairwise (·.depth ≤ ·.depth)
  depth_le : ∀ p ∈ jobs, p.depth ≤ level seen

/-- A job at the level of what is discovered now comes last. -/
theorem Layered.accept (h : Layered seen jobs) (hp : p.depth = level seen) :
    Layered seen (jobs ++ [p]) where
  sorted := by
    rw [List.pairwise_append]
    refine ⟨h.sorted, List.pairwise_singleton _ _, ?_⟩
    intro q hq p' hp'
    rw [List.mem_singleton.mp hp', hp]
    exact h.depth_le q hq
  depth_le q hq := by
    rcases List.mem_append.mp hq with hq | hq
    · exact h.depth_le q hq
    · rw [List.mem_singleton.mp hq, hp]

theorem level_le_concat (hsorted : (seen ++ [p]).Pairwise (·.depth ≤ ·.depth)) :
    level seen ≤ level (seen ++ [p]) := by
  rw [level_concat]
  cases hlast : seen.getLast? with
  | none => simp [level, hlast]
  | some q =>
      rw [level_of_getLast? hlast, Nat.add_le_add_iff_right]
      exact (List.pairwise_append.mp hsorted).2.2 q (List.mem_of_getLast? hlast) p
        (List.mem_singleton_self p)

/-- What is examined is in the order of the jobs. -/
theorem InLine.sorted {fs : Multiset SearchFrame} (h : InLine v s fs past)
    (hsorted : ((accepted past).map Admitted.job).Pairwise (·.depth ≤ ·.depth)) :
    v.examined.Pairwise (·.depth ≤ ·.depth) := by
  obtain ⟨inHand, coming, -, -, hline⟩ := h
  rw [hline, List.append_assoc, List.append_assoc] at hsorted
  exact (List.pairwise_append.mp hsorted).1

/-- A turn does not go back to a higher level. -/
theorem LineChange.level_le (h : LineChange v s f v' s' fs told)
    (hsorted : v'.examined.Pairwise (·.depth ≤ ·.depth)) :
    level v.examined ≤ level v'.examined := by
  cases h with
  | examines _ hexamined =>
      rw [hexamined] at hsorted ⊢
      exact level_le_concat hsorted
  | keeps hexamined | takes _ hexamined | accepts _ hexamined | pushes _ hexamined =>
      exact (congrArg level hexamined).ge

/-- A job that a turn accepts is at the level of what is discovered now.  A turn that accepts none
does not go back, if what is examined stays in order. -/
theorem Layered.turn (h : Layered v.examined jobs) (hchange : LineChange v s f v' s' fs told)
    (habout : About v.examined f)
    (hsorted : acceptedIn told = [] → v'.examined.Pairwise (·.depth ≤ ·.depth)) :
    Layered v'.examined (jobs ++ acceptedIn told) := by
  have hlevel := hchange.level_le
  cases hchange with
  | @accepts p handles hf hexamined _ _ _ hone =>
      subst hf
      rw [hone, hexamined]
      exact h.accept habout
  | keeps _ _ _ _ hnone | takes _ _ _ _ _ hnone | pushes _ _ _ _ _ hnone
  | examines _ _ _ _ _ hnone =>
      rw [hnone, List.append_nil]
      exact ⟨h.sorted, fun q hq => (h.depth_le q hq).trans (hlevel (hsorted hnone))⟩

section Runs

variable {disk : Disk} {search : Search} {bystanders : List (List Bool)} {reliable : Bool}
  {m : Machine Place Examination Record} {history : History Place}

/-- With one thread, jobs are accepted level by level. -/
theorem layered_of_runs (hone : search.threads = 1)
    (run : Runs (workload plan) reliable (search.machine disk bystanders) history m)
    (hgoes : m.world.interrupted = false) :
    Layered m.world.examined ((accepted history).map Admitted.job) := by
  refine goes_on_induction
    (P := fun m past => Layered m.world.examined ((accepted past).map Admitted.job)) run hgoes
    ⟨.nil, nofun⟩ ?_
  intro n f fs below above rest r r' told told' past m₁ m₂ run₁ run₂ hgoes₁ hgoes₂ hbefore _ hturn
    hpasses hsmooth h
  have hmem : f ∈ m₁.frames := by
    rw [hbefore]
    exact Multiset.mem_cons_self ..
  have hchange := Turn.lineChange hturn (scripted_of_runs run₁ f hmem) (onCourse_of_runs run₁ f hmem)
    hsmooth.not_skip
  have hline := inLine_of_runs hone run₂ hgoes₂
  have hjobs := map_job_accepted past n.self (told ++ told')
  rw [hjobs, Passes.acceptedIn_append hpasses]
  refine h.turn hchange (about_of_runs hone run₁ hgoes₁ f hmem) fun hnone => hline.sorted ?_
  rw [hjobs, Passes.acceptedIn_append hpasses, hnone, List.append_nil]
  exact h.sorted

/-- With one thread, places are examined level by level. -/
theorem examined_sorted_of_runs (hone : search.threads = 1)
    (run : Runs (workload plan) reliable (search.machine disk bystanders) history m)
    (hgoes : m.world.interrupted = false) : m.world.examined.Pairwise (·.depth ≤ ·.depth) :=
  (inLine_of_runs hone run hgoes).sorted (layered_of_runs hone run hgoes).sorted

end Runs

/-! ## Claims come level by level -/

/-- Claims are at most one level below the place that was looked at last, and what a place was found
to hold has a claim at most one level below the place. -/
structure Levels (seen claims : List Place) (looked : Multiset (Place × Place)) : Prop where
  claim_le : ∀ q ∈ claims, q.depth ≤ level seen
  look_le : ∀ x ∈ looked, ∃ q ∈ claims, q.mark = x.2.mark ∧ q.depth ≤ x.1.depth + 1

theorem Levels.mono (h : Levels seen claims looked) (hlevel : level seen ≤ level seen') :
    Levels seen' claims looked :=
  ⟨fun q hq => (h.claim_le q hq).trans hlevel, h.look_le⟩

/-- What an examination looks at is one level below the place that was looked at last. -/
theorem Examination.depth_of_looks {ex : Examination} (h : ex.About seen) {x : Place × Place}
    (hx : x ∈ ex.looks plan) : x.1.depth + 1 = level seen ∧ x.2.depth = level seen := by
  cases ex with
  | children p kind rest =>
      have hlast : seen.getLast? = some p := h
      rcases rest with _ | ⟨_ | e, rest⟩
      · cases hx
      · cases hx
      · rw [List.mem_singleton.mp hx]
        exact ⟨(level_of_getLast? hlast).symm, (level_of_getLast? hlast).symm⟩
  | _ => cases hx

/-- An examination claims what it looks at, or that was claimed before. -/
theorem Levels.act {roots : List Path} (h : Levels v.examined claims looked) {ex : Examination}
    (habout : ex.About v.examined) (hclaimed : Claimed plan roots v.visited claims) :
    Levels v.examined (ex.claims plan v ++ claims) (.ofList (ex.looks plan) + looked) := by
  have hnew : ∀ q ∈ ex.claims plan v, q.depth = level v.examined := by
    intro q hq
    obtain ⟨x, hx, rfl⟩ := List.mem_map.mp (List.mem_of_mem_filter hq)
    exact (Examination.depth_of_looks habout hx).2
  constructor
  · intro q hq
    rcases List.mem_append.mp hq with hq | hq
    · exact (hnew q hq).le
    · exact h.claim_le q hq
  · intro x hx
    rcases Multiset.mem_add.mp hx with hx | hx
    · obtain ⟨hparent, hchild⟩ := Examination.depth_of_looks habout hx
      by_cases hold : x.2.mark ∈ v.visited.keys
      · obtain ⟨q, hq, hmark⟩ := List.mem_map.mp (hclaimed.keys.mem_iff.mp hold)
        exact ⟨q, List.mem_append_right _ hq, hmark, hparent ▸ h.claim_le q hq⟩
      · exact ⟨x.2, List.mem_append_left _ (Examination.mem_claims hx hold), rfl,
          (hchild.trans hparent.symm).le⟩
    · obtain ⟨q, hq, hmark, hdepth⟩ := h.look_le x hx
      exact ⟨q, List.mem_append_right _ hq, hmark, hdepth⟩

section Runs

variable {disk : Disk} {search : Search} {bystanders : List (List Bool)} {reliable : Bool}
  {m : Machine Place Examination Record} {history : History Place}

/-- As long as a search with one thread goes on, its ledger keeps to the levels. -/
theorem levels_of_runs (hone : search.threads = 1) (hpatient : plan.Patient)
    (hdisk : plan.disk = disk)
    (run : Runs (workload plan) reliable (search.machine disk bystanders) history m)
    (hgoes : m.world.interrupted = false) :
    ∃ claims looked lost,
      Ledger plan search.roots m.world m.shared m.frames claims looked lost ∧
        Levels m.world.examined claims looked := by
  refine goes_on_induction (P := fun m _ => ∃ claims looked lost,
      Ledger plan search.roots m.world m.shared m.frames claims looked lost ∧
        Levels m.world.examined claims looked) run hgoes ?_ ?_
  · refine ⟨_, _, _, ledger_machine hdisk, ?_, by simp⟩
    intro q hq
    exact (depth_of_mem_keptRoots hq).le
  · intro n f fs below above rest r r' told told' past m₁ m₂ run₁ run₂ hgoes₁ hgoes₂ hbefore
      hafter hturn hpasses hsmooth h
    obtain ⟨claims, looked, lost, hledger, hlevels⟩ := h
    have hscripted := scripted_of_runs run₁
    have hcourse := onCourse_of_runs run₁
    have habout := about_of_runs hone run₁ hgoes₁
    rw [hbefore] at hledger hscripted hcourse habout
    rw [hafter]
    have hmem : f ∈ f ::ₘ (below + rest) := Multiset.mem_cons_self ..
    have hlevel := (Turn.lineChange hturn (hscripted f hmem) (hcourse f hmem)
      hsmooth.not_skip).level_le (examined_sorted_of_runs hone run₂ hgoes₂)
    rcases hledger.turn hpatient hscripted (hcourse f hmem) hturn hpasses hsmooth with
      ⟨k, held, ex, lost', rfl, hledger'⟩ | hledger'
    · exact ⟨_, _, _, hledger',
        (hlevels.act (habout _ hmem) hledger.toClaimed).mono hlevel⟩
    · exact ⟨_, _, _, hledger', hlevels.mono hlevel⟩

/-- A search with one thread that was not cut short has examined, for whatever a place of it holds,
a place with the same key at most one level below. -/
theorem exists_child_of_runs (hone : search.threads = 1) (hpatient : plan.Patient)
    (hdisk : plan.disk = disk)
    (run : Runs (workload plan) reliable (search.machine disk bystanders) history m)
    (hgoes : m.world.interrupted = false) (hq : m.shared.gate.lifecycle = .quiescent) {c : Place}
    (hp : p ∈ m.world.examined) (hc : c ∈ childrenOf plan p) :
    ∃ q ∈ m.world.examined, q.mark = c.mark ∧ q.depth ≤ p.depth + 1 := by
  obtain ⟨claims, looked, lost, hledger, hlevels⟩ :=
    levels_of_runs hone hpatient hdisk run hgoes
  have hdone := (dues plan).total_of_quiescent run hq
  have hperm := hledger.examined_perm hdone
  obtain ⟨q, hq, hmark, hdepth⟩ :=
    hlevels.look_le _ (hledger.mem_looked hdone (hperm.mem_iff.mp hp) hc)
  exact ⟨q, hperm.mem_iff.mpr hq, hmark, hdepth⟩

end Runs

end Frontier.Search
