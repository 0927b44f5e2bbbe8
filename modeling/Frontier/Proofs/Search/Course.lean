/-
# The course of an examination

Between two moves an examination carries what it has found out of its place:
the kind, a part of the listing, a child.  All of that is true of the disk, and
where a failure is dealt with the examination comes back to where it was.

    `Expands plan p kind rest`    `p` is a directory to go down from, and `rest`
                                  is what is left of its listing
    `Resumes plan f next`         `next` follows when the failure `f` was dealt with
    `onCourse_of_runs`            so it is with every examination of a run

Nothing is assumed of the disk, the matcher or the sink.
-/
import Frontier.Proofs.Search.Conduct
import Mathlib

namespace Frontier.Search

open Dispatcher
open Dispatcher.Machine (Runs History)

variable {plan : Plan} {n : Neighbours} {v v' : Record} {s s' : Shared Place}
  {f g : SearchFrame} {fs gs : Multiset SearchFrame} {q : Result}
  {r : Option Result} {told : List (Occurrence Place)} {p c : Place} {kind : EntryKind}
  {rest : Listing} {e : DirEntry}

/-- The search goes down from the place, and so much is left of what it was found to hold. -/
structure Expands (plan : Plan) (p : Place) (kind : EntryKind) (rest : Listing) : Prop where
  classified : plan.disk.classify p.path = .ok kind
  descends : Examination.descends plan p kind = true
  listed : ∃ listing, plan.disk.list p.path = .ok listing ∧ rest <:+ listing

/-- An examination that goes on after a failure was at its end, or about to judge its place, or in
the middle of a listing. -/
inductive Resumes (plan : Plan) : Failure → Examination → Prop
  | finish (f : Failure) : Resumes plan f .finish
  | judge (f : Failure) {p : Place} {kind : EntryKind} :
      plan.disk.classify p.path = .ok kind → Resumes plan f (.judge p kind)
  | children {p : Place} {kind : EntryKind} {rest : Listing} {e : SystemError} :
      Expands plan p kind (.error e :: rest) →
        Resumes plan (.ofSystem p.path e) (.children p kind rest)

/-- What the examination carries is true of the disk. -/
def Examination.OnCourse (plan : Plan) : Examination → Prop
  | countKind p kind | judge p kind => plan.disk.classify p.path = .ok kind
  | list p kind => plan.disk.classify p.path = .ok kind ∧ descends plan p kind = true
  | children p kind rest => Expands plan p kind rest
  | prepare p kind c rest | submit p kind c rest =>
      ∃ e, c = p.ofEntry plan.disk e ∧ Expands plan p kind (.ok e :: rest)
  | countFailure f next | tellFailure f next | keepFailure f next => Resumes plan f next
  | _ => True

/-- So it is with the examination of a frame. -/
def OnCourse (plan : Plan) : SearchFrame → Prop
  | .run _ _ ex => ex.OnCourse plan
  | .submitting _ _ next => ∃ p kind rest, next = afterSubmission p kind rest ∧
      Expands plan p kind rest
  | _ => True

theorem Expands.tail {part : Except SystemError DirEntry}
    (h : Expands plan p kind (part :: rest)) : Expands plan p kind rest := by
  obtain ⟨listing, hlist, hsuffix⟩ := h.listed
  exact ⟨h.classified, h.descends, listing, hlist, (List.suffix_cons part rest).trans hsuffix⟩

theorem Resumes.onCourse {failure : Failure} {next : Examination}
    (h : Resumes plan failure next) : next.OnCourse plan := by
  cases h with
  | finish => trivial
  | judge _ hkind => exact hkind
  | children hexpands => exact hexpands.tail

/-- An examination that acts keeps to its course. -/
theorem Examination.Acts.onCourse {r r' : Record} {ex next : Examination}
    (h : Acts plan r ex r' next) (hex : ex.OnCourse plan) : next.OnCourse plan := by
  cases h with
  | classified hkind => exact hkind
  | unclassified => exact .finish _
  | descend _ _ hdescends => exact ⟨hex, hdescends⟩
  | stay => exact hex
  | listed _ hlist =>
      obtain ⟨hkind, hdescends⟩ := hex
      exact ⟨hkind, hdescends, _, hlist, List.suffix_rfl⟩
  | unlisted => exact .judge _ hex.1
  | noneLeft => exact Expands.classified hex
  | unread => exact .children hex
  | fresh _ _ e => exact ⟨e, rfl, hex⟩
  | known => exact Expands.tail hex
  | judge =>
      unfold afterVerdict
      split <;> trivial
  | countFailure | muteFailure | tellFailure => exact hex
  | keepFailure | discardFailure => exact Resumes.onCourse hex
  | _ => trivial

theorem Turn.onCourse (h : Turn (workload plan) n v s f v' s' fs r told) (hf : OnCourse plan f) :
    ∀ g ∈ fs, OnCourse plan g := by
  cases h with
  | act hmove =>
      simp only [Multiset.mem_singleton, forall_eq]
      exact (Examination.acts_of_move hmove v).onCourse hf
  | wait hmove | ask hmove | dropInside hmove => cases Examination.makes_of_move hmove
  | closeInside hmove =>
      cases Examination.makes_of_move hmove
      simp only [Multiset.mem_singleton, forall_eq]
      trivial
  | submit hmove =>
      cases Examination.makes_of_move hmove with
      | submit p kind _ rest =>
          obtain ⟨e, -, hexpands⟩ := hf
          simp only [Multiset.insert_eq_cons, Multiset.mem_cons, Multiset.mem_singleton,
            forall_eq_or_imp, forall_eq]
          exact ⟨trivial, p, kind, rest, rfl, hexpands.tail⟩
  | cloneInside hmove =>
      cases Examination.makes_of_move hmove
      simp only [Multiset.mem_singleton, forall_eq]
      exact hf
  | pop hp =>
      simp only [Multiset.mem_singleton, forall_eq]
      trivial
  | finish | panic | shed => exact forall_mem_ended (fun _ => trivial) trivial
  | takeRegistry | join => exact forall_mem_joining (fun _ _ => trivial) trivial
  | _ => simp [OnCourse]

theorem Receives.onCourse (h : Receives q g gs r told) (hscripted : Scripted g)
    (hg : OnCourse plan g) : ∀ f ∈ gs, OnCourse plan f := by
  cases h with
  | @submitBody ok =>
      obtain ⟨p, kind, rest, rfl, hexpands⟩ := hg
      simp only [Multiset.mem_singleton, forall_eq]
      cases ok with
      | true => exact hexpands
      | false => exact hexpands.classified
  | startBody => exact absurd hscripted id
  | _ => simp [OnCourse]

section Runs

variable {disk : Disk} {search : Search} {bystanders : List (List Bool)} {reliable : Bool}
  {m : Machine Place Examination Record} {history : History Place}

/-- Every examination of a search is on its course. -/
theorem onCourse_of_runs
    (run : Runs (workload plan) reliable (search.machine disk bystanders) history m) :
    ∀ f ∈ m.frames, OnCourse plan f := by
  refine run.turn_induction (P := fun m _ => ∀ f ∈ m.frames, OnCourse plan f) ?_ ?_
  · intro f hf
    obtain ⟨_, _, rfl⟩ := Machine.exists_client_of_mem_ofClients hf
    trivial
  · intro n f fs below above rest r r' told told' past m₁ m₂ run₁ _ hbefore hafter _ hturn
      hpasses _ h
    have hscripted := scripted_of_runs run₁
    rw [hbefore] at h hscripted
    rw [hafter]
    have hfs := Turn.onCourse hturn (h f (Multiset.mem_cons_self ..))
    exact hpasses.forall_after
      (fun hg hbelow hcourse => Receives.onCourse hg (hscripted _ (by simp [hbelow])) hcourse) hfs
      fun g hg => h g (Multiset.mem_cons_of_mem hg)

end Runs

end Frontier.Search
