/-
# The sequential search — a walk, and the record of it

`reached` lists the places of the walk, and `sequential` is what a search would
record that looked at them one after another.  A search on many threads records
the same in another order, so two records are compared by their notes.

    the walk records the notes of its places      (`sum_placeNotes`)
    records with the same notes agree             (`Record.agrees_of_notes`)
-/
import Frontier.Proofs.Search.Notes
import Frontier.Search.Basic
import Mathlib

namespace Frontier.Search

variable {plan : Plan} {p : Place} {ps : List Place} {fs : List Failure} {rs : List Path}

/-! ## The record of a walk -/

section Definition

variable (plan : Plan)

/-- What is recorded of places. -/
def recordOf (ps : List Place) : Record where
  visited := ⟨ps.map Place.mark⟩
  flag := false
  interrupted := false
  files := (ps.filterMap (kindOf? plan)).countP (!·.isDir)
  dirs := (ps.filterMap (kindOf? plan)).countP (·.isDir)
  errors := (ps.flatMap (troubles plan)).length
  matched := (ps.filter (reports plan)).length
  paths := if plan.keepsPaths then (ps.filter (reports plan)).map Place.path else []
  failures := if plan.keepsFailures then ps.flatMap (troubles plan) else []
  toldMatches := if plan.sink.isSome then (ps.filter (reports plan)).map Place.path else []
  toldFailures := if plan.sink.isSome then ps.flatMap (troubles plan) else []
  judged := []
  examined := ps
  unclassified := []
  unlisted := []
  unread := []
  skipped := []

/-- What a search records that goes through the places one after another. -/
def sequential (roots : List Path) : Record := recordOf plan (reached plan roots)

end Definition

/-! ## Its notes -/

theorem sum_map_singleton {α β : Type} (g : α → β) (l : List α) :
    (l.map fun x => ({g x} : Multiset β)).sum = .ofList (l.map g) := by
  induction l with
  | nil => rfl
  | cons x l ih =>
      rw [List.map_cons, List.sum_cons, ih, Multiset.singleton_add, Multiset.cons_coe,
        List.map_cons]

theorem sum_map_ite {α β : Type} (b : Bool) (g : α → β) (l : List α) :
    (l.map fun x => if b then ({g x} : Multiset β) else 0).sum =
      if b then .ofList (l.map g) else 0 := by
  cases b with
  | true => exact sum_map_singleton g l
  | false => simp

theorem sum_kinds (kinds : List EntryKind) :
    (kinds.map fun kind => ({.counted kind.isDir} : Multiset Note)).sum =
      .replicate (kinds.countP (!·.isDir)) (.counted false) +
        .replicate (kinds.countP (·.isDir)) (.counted true) := by
  induction kinds with
  | nil => rfl
  | cons kind kinds ih =>
      rw [List.map_cons, List.sum_cons, ih, List.countP_cons, List.countP_cons]
      cases kind.isDir <;>
        simp only [Bool.not_false, Bool.not_true, Bool.false_eq_true, if_true, if_false, add_zero,
          Multiset.replicate_succ, ← Multiset.singleton_add] <;> abel

theorem sum_matchNotes (paths : List Path) :
    (paths.map (matchNotes plan)).sum =
      .replicate paths.length .matched +
        ((if plan.sink.isSome then .ofList (paths.map .toldMatch) else 0) +
          if plan.keepsPaths then .ofList (paths.map .keptMatch) else 0) := by
  have hmatched : (paths.map fun _ => ({.matched} : Multiset Note)).sum =
      .replicate paths.length .matched := by
    simp [Multiset.nsmul_singleton]
  unfold matchNotes
  rw [List.sum_map_add, List.sum_map_add, hmatched, sum_map_ite, sum_map_ite]

theorem sum_failureNotes (fs : List Failure) :
    (fs.map (failureNotes plan)).sum =
      .replicate fs.length .failed +
        ((if plan.sink.isSome then .ofList (fs.map .toldFailure) else 0) +
          if plan.keepsFailures then .ofList (fs.map .keptFailure) else 0) := by
  have hfailed : (fs.map fun _ => ({.failed} : Multiset Note)).sum =
      .replicate fs.length .failed := by
    simp [Multiset.nsmul_singleton]
  unfold failureNotes
  rw [List.sum_map_add, List.sum_map_add, hfailed, sum_map_ite, sum_map_ite]

theorem sum_elim {α M : Type} [AddCommMonoid M] (φ : Place → Option α) (g : α → M)
    (ps : List Place) : (ps.map fun p => (φ p).elim 0 g).sum = ((ps.filterMap φ).map g).sum := by
  induction ps with
  | nil => rfl
  | cons p ps ih =>
      rw [List.map_cons, List.sum_cons, ih]
      cases h : φ p with
      | none => rw [List.filterMap_cons_none h, Option.elim_none, zero_add]
      | some x => rw [List.filterMap_cons_some h, List.map_cons, List.sum_cons, Option.elim_some]

theorem sum_reports (ps : List Place) :
    (ps.map fun p => if reports plan p then matchNotes plan p.path else 0).sum =
      (((ps.filter (reports plan)).map Place.path).map (matchNotes plan)).sum := by
  induction ps with
  | nil => rfl
  | cons p ps ih =>
      rw [List.map_cons, List.sum_cons, ih]
      by_cases h : reports plan p = true
      · rw [if_pos h, List.filter_cons_of_pos h, List.map_cons, List.map_cons, List.sum_cons]
      · rw [if_neg h, List.filter_cons_of_neg h, zero_add]

theorem sum_troubles (ps : List Place) :
    (ps.map fun p => ((troubles plan p).map (failureNotes plan)).sum).sum =
      ((ps.flatMap (troubles plan)).map (failureNotes plan)).sum := by
  rw [List.map_flatMap, List.flatMap, List.sum_flatten, List.map_map]
  rfl

theorem coe_ite_map {α : Type} (b : Bool) (g : α → Note) (l : List α) :
    (.ofList ((if b then l else []).map g) : Multiset Note) =
      if b then .ofList (l.map g) else 0 := by
  cases b <;> rfl

/-- What is noted of places is what is recorded of them. -/
theorem sum_placeNotes (ps : List Place) :
    (ps.map (placeNotes plan)).sum = (recordOf plan ps).notes := by
  unfold placeNotes
  rw [List.sum_map_add, List.sum_map_add, List.sum_map_add, List.sum_map_add,
    sum_map_singleton, sum_map_singleton, sum_elim, sum_kinds, sum_troubles, sum_failureNotes,
    sum_reports, sum_matchNotes]
  simp only [Record.notes, recordOf, coe_ite_map, List.length_map, List.map_map,
    Function.comp_def]
  abel

/-- The keys from which no walk goes into another. -/
def rootMarks (disk : Disk) (rs : List Path) : List (List Path.Component) :=
  (keptRoots disk rs).map Place.mark

theorem depth_of_mem_keptRoots {disk : Disk} (h : p ∈ keptRoots disk rs) : p.depth = 0 := by
  obtain ⟨path, -, rfl⟩ := List.mem_map.mp (mem_of_mem_keepFirst h)
  rfl

/-! ## Where a search begins -/

theorem firstOfKeys_snd (visited : Visited) (ps : List Place) :
    (firstOfKeys visited ps).2 = (keepFirst ps).filter fun p => p.mark ∉ visited.keys := by
  induction ps generalizing visited with
  | nil => rfl
  | cons p rest ih =>
      rw [firstOfKeys, keepFirst]
      by_cases hold : visited.contains p.key
      · have hmem : p.mark ∈ visited.keys := Visited.contains_iff.mp hold
        rw [Visited.insert, if_pos hold, List.filter_cons_of_neg (by simpa using hmem),
          List.filter_filter]
        simp only [Bool.false_eq_true, if_false, ih]
        refine List.filter_congr ?_
        intro q _
        by_cases hq : q.mark ∈ visited.keys
        · simp [hq]
        · have hne : q.mark ≠ p.mark := by
            intro heq
            exact hq (heq ▸ hmem)
          simp [hq, hne]
      · have hnew : p.mark ∉ visited.keys := by
          intro hmem
          exact hold (Visited.contains_iff.mpr hmem)
        rw [Visited.insert, if_neg hold, List.filter_cons_of_pos (by simpa using hnew),
          List.filter_filter]
        simp only [if_true, ih]
        congr 1
        refine List.filter_congr ?_
        intro q _
        have hkey : p.key.components = p.mark := rfl
        simp only [hkey, List.mem_cons, not_or, Bool.decide_and, ne_eq]
        exact Bool.and_comm ..

/-- The keys that were new are those of the places that were kept. -/
theorem firstOfKeys_fst (visited : Visited) (ps : List Place) :
    (firstOfKeys visited ps).1.keys.Perm
      ((firstOfKeys visited ps).2.map Place.mark ++ visited.keys) := by
  induction ps generalizing visited with
  | nil => exact .refl _
  | cons p rest ih =>
      rw [firstOfKeys]
      by_cases hold : visited.contains p.key
      · rw [Visited.insert, if_pos hold]
        exact ih visited
      · rw [Visited.insert, if_neg hold]
        refine (ih _).trans ?_
        simp only [if_true, List.map_cons, List.cons_append]
        exact List.perm_middle

theorem beginnings_eq (disk : Disk) (search : Search) :
    (search.beginnings disk).2 = keptRoots disk search.roots := by
  rw [beginnings, firstOfKeys_snd, keptRoots]
  exact List.filter_eq_self.mpr fun p _ => by simp [Visited.empty]

theorem keys_beginnings (disk : Disk) (search : Search) :
    (search.beginnings disk).1.keys.Perm ((keptRoots disk search.roots).map Place.mark) := by
  have hperm := firstOfKeys_fst .empty (search.roots.map (Place.root disk))
  rw [← beginnings_eq]
  simpa [beginnings, Visited.empty] using hperm

/-- What a search goes by that has passed its checks. -/
theorem exists_matcher_of_plan {disk : Disk} {search : Search} (h : search.plan disk = .ok plan) :
    0 < search.threads ∧ ∃ matcher, search.effectiveMatcher = .ok matcher ∧
      plan = ⟨disk, matcher, search.typeFilter, search.minDepth, search.maxDepth.getD deepest,
        search.sink, search.stopFlag.isSome, search.keepsPaths, search.keepsFailures⟩ := by
  unfold Search.plan at h
  by_cases hroots : search.roots.isEmpty
  · rw [if_pos hroots] at h
    cases h
  by_cases hthreads : search.threads = 0
  · rw [if_neg hroots, if_pos hthreads] at h
    cases h
  rw [if_neg hroots, if_neg hthreads] at h
  cases hdepths : CommandLine.Configuration.checkDepths search.minDepth search.maxDepth with
  | error e =>
      rw [hdepths] at h
      cases h
  | ok _ =>
      cases hmatcher : search.effectiveMatcher with
      | error e =>
          rw [hdepths, hmatcher] at h
          cases h
      | ok matcher =>
          rw [hdepths, hmatcher] at h
          cases h
          exact ⟨Nat.pos_of_ne_zero hthreads, matcher, rfl, rfl⟩

/-- A search that has passed its checks. -/
theorem plan_eq_ok {disk : Disk} {search : Search} (h : search.plan disk = .ok plan) :
    plan.disk = disk ∧ 0 < search.threads := by
  obtain ⟨hthreads, matcher, -, rfl⟩ := exists_matcher_of_plan h
  exact ⟨rfl, hthreads⟩

/-! ## Records that agree -/

namespace Note

def claimed? : Note → Option (List Path.Component)
  | claimed mark => some mark
  | _ => none

def examined? : Note → Option Place
  | examined p => some p
  | _ => none

def toldMatch? : Note → Option Path
  | toldMatch path => some path
  | _ => none

def keptMatch? : Note → Option Path
  | keptMatch path => some path
  | _ => none

def toldFailure? : Note → Option Failure
  | toldFailure f => some f
  | _ => none

def keptFailure? : Note → Option Failure
  | keptFailure f => some f
  | _ => none

end Note

namespace Record

/-- The records say the same, maybe in another order. -/
structure Agrees (r r' : Record) : Prop where
  matched : r.matched = r'.matched
  paths : r.paths.Perm r'.paths
  files : r.files = r'.files
  dirs : r.dirs = r'.dirs
  errors : r.errors = r'.errors
  failures : r.failures.Perm r'.failures
  toldMatches : r.toldMatches.Perm r'.toldMatches
  toldFailures : r.toldFailures.Perm r'.toldFailures
  examined : r.examined.Perm r'.examined
  visited : r.visited.keys.Perm r'.visited.keys

theorem Agrees.symm {r r' : Record} (h : r.Agrees r') : r'.Agrees r where
  matched := h.matched.symm
  paths := h.paths.symm
  files := h.files.symm
  dirs := h.dirs.symm
  errors := h.errors.symm
  failures := h.failures.symm
  toldMatches := h.toldMatches.symm
  toldFailures := h.toldFailures.symm
  examined := h.examined.symm
  visited := h.visited.symm

theorem Agrees.trans {r₁ r₂ r₃ : Record} (h : r₁.Agrees r₂) (h' : r₂.Agrees r₃) :
    r₁.Agrees r₃ where
  matched := h.matched.trans h'.matched
  paths := h.paths.trans h'.paths
  files := h.files.trans h'.files
  dirs := h.dirs.trans h'.dirs
  errors := h.errors.trans h'.errors
  failures := h.failures.trans h'.failures
  toldMatches := h.toldMatches.trans h'.toldMatches
  toldFailures := h.toldFailures.trans h'.toldFailures
  examined := h.examined.trans h'.examined
  visited := h.visited.trans h'.visited

theorem agrees_of_notes {r r' : Record} (h : r.notes = r'.notes) : r.Agrees r' where
  matched := by
    have hcount := congrArg (Multiset.count .matched) h
    simpa [notes, Multiset.count_replicate] using hcount
  files := by
    have hcount := congrArg (Multiset.count (.counted false)) h
    simpa [notes, Multiset.count_replicate] using hcount
  dirs := by
    have hcount := congrArg (Multiset.count (.counted true)) h
    simpa [notes, Multiset.count_replicate] using hcount
  errors := by
    have hcount := congrArg (Multiset.count .failed) h
    simpa [notes, Multiset.count_replicate] using hcount
  paths := by
    have hsel := congrArg (Multiset.filterMap Note.keptMatch?) h
    simpa [notes, Note.keptMatch?, ← Multiset.coe_replicate, List.filterMap_map,
      Function.comp_def, List.filterMap_replicate] using hsel
  failures := by
    have hsel := congrArg (Multiset.filterMap Note.keptFailure?) h
    simpa [notes, Note.keptFailure?, ← Multiset.coe_replicate, List.filterMap_map,
      Function.comp_def, List.filterMap_replicate] using hsel
  toldMatches := by
    have hsel := congrArg (Multiset.filterMap Note.toldMatch?) h
    simpa [notes, Note.toldMatch?, ← Multiset.coe_replicate, List.filterMap_map,
      Function.comp_def, List.filterMap_replicate] using hsel
  toldFailures := by
    have hsel := congrArg (Multiset.filterMap Note.toldFailure?) h
    simpa [notes, Note.toldFailure?, ← Multiset.coe_replicate, List.filterMap_map,
      Function.comp_def, List.filterMap_replicate] using hsel
  examined := by
    have hsel := congrArg (Multiset.filterMap Note.examined?) h
    simpa [notes, Note.examined?, ← Multiset.coe_replicate, List.filterMap_map,
      Function.comp_def, List.filterMap_replicate] using hsel
  visited := by
    have hsel := congrArg (Multiset.filterMap Note.claimed?) h
    simpa [notes, Note.claimed?, ← Multiset.coe_replicate, List.filterMap_map,
      Function.comp_def, List.filterMap_replicate] using hsel

end Record

/-- What is recorded of places does not depend on their order. -/
theorem recordOf_agrees {qs : List Place} (h : ps.Perm qs) :
    (recordOf plan ps).Agrees (recordOf plan qs) := by
  refine Record.agrees_of_notes ?_
  rw [← sum_placeNotes, ← sum_placeNotes]
  exact (h.map _).sum_eq

end Frontier.Search
