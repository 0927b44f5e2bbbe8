/-
# Ways — how a search can come to a place

A search goes from a place to the places that it holds, through links as well,
so it may come to one key on several ways.  It takes up only what is new, so a
way that it really takes meets no key twice and no root but the one where it
begins.

    `Way plan roots (p :: ps)`    a way to `p`, which came through the places `ps`

How long the way is, is the depth of the place (`Way.depth_eq`).
-/
import Frontier.Proofs.Search.Sequential
import Mathlib

namespace Frontier

/-- Only what is a directory, or a link to one, is classified as a directory. -/
theorem Disk.classify_eq_dir_iff {disk : Disk} {path : Path} :
    disk.classify path = .ok .dir ↔ disk.kind path = .ok .dir := by
  unfold classify
  cases disk.kind path with
  | ok kind => simp
  | error e =>
      dsimp only
      split <;> simp

namespace Search

variable {plan : Plan} {roots : List Path} {p q c : Place} {ps : List Place}

/-- What is held by a place is what a directory lists that is not at the greatest depth. -/
theorem mem_childrenOf_iff :
    c ∈ childrenOf plan p ↔
      plan.disk.kind p.path = .ok .dir ∧ p.depth < plan.maxDepth ∧
        ∃ listing e, plan.disk.list p.path = .ok listing ∧ .ok e ∈ listing ∧
          c = p.ofEntry plan.disk e := by
  constructor
  · intro h
    obtain ⟨listing, e, hlist, he, hc, -⟩ := exists_listing_of_mem_childrenOf h
    unfold childrenOf at h
    split at h
    · next kind hclassify =>
        unfold holdings at h
        split at h
        · next hdescends =>
            simp only [Examination.descends, Bool.and_eq_true, decide_eq_true_eq] at hdescends
            obtain ⟨hdir, hdepth⟩ := hdescends
            obtain rfl : kind = .dir := by simpa [EntryKind.isDir] using hdir
            exact ⟨Disk.classify_eq_dir_iff.mp hclassify, hdepth, listing, e, hlist, he, hc⟩
        · cases h
    · cases h
  · rintro ⟨hdir, hdepth, listing, e, hlist, he, rfl⟩
    have hdescends : Examination.descends plan p .dir = true := by
      simp [Examination.descends, EntryKind.isDir, hdepth]
    rw [childrenOf, Disk.classify_eq_dir_iff.mpr hdir]
    dsimp only
    rw [holdings, if_pos hdescends, listed, hlist]
    exact List.mem_filterMap.mpr ⟨.ok _, List.mem_map.mpr ⟨_, he, rfl⟩, rfl⟩

/-- The places on a way that a search can take, the last one first. -/
inductive Way (plan : Plan) (roots : List Path) : List Place → Prop
  | root {p : Place} : p ∈ keptRoots plan.disk roots → Way plan roots [p]
  | step {p c : Place} {ps : List Place} : Way plan roots (p :: ps) → c ∈ childrenOf plan p →
      c.mark ∉ rootMarks plan.disk roots → (∀ q ∈ p :: ps, q.mark ≠ c.mark) →
        Way plan roots (c :: p :: ps)

namespace Way

theorem before (h : Way plan roots (c :: p :: ps)) : Way plan roots (p :: ps) := by
  cases h
  assumption

theorem depth_eq (h : Way plan roots (p :: ps)) : p.depth = ps.length := by
  induction ps generalizing p with
  | nil =>
      cases h with
      | root hp => exact depth_of_mem_keptRoots hp
  | cons q ps ih =>
      cases h with
      | step hway hchild =>
          rw [depth_of_mem_childrenOf hchild, ih hway, List.length_cons]

/-- No way goes deeper than the limit. -/
theorem depth_le (h : Way plan roots (p :: ps)) : p.depth ≤ plan.maxDepth := by
  cases h with
  | root hp =>
      rw [depth_of_mem_keptRoots hp]
      exact Nat.zero_le _
  | step _ hchild _ _ =>
      rw [depth_of_mem_childrenOf hchild]
      exact (mem_childrenOf_iff.mp hchild).2.1

theorem marks_nodup (h : Way plan roots ps) : (ps.map Place.mark).Nodup := by
  induction h with
  | root => exact List.nodup_singleton _
  | step _ _ _ hnew ih =>
      rw [List.map_cons, List.nodup_cons]
      refine ⟨?_, ih⟩
      intro hmem
      obtain ⟨q, hq, heq⟩ := List.mem_map.mp hmem
      exact hnew q hq heq

/-- Only a root has the mark of a root. -/
theorem eq_of_mark_mem (h : Way plan roots (p :: ps)) (hmark : p.mark ∈ rootMarks plan.disk roots) :
    p ∈ keptRoots plan.disk roots ∧ ps = [] := by
  cases h with
  | root hp => exact ⟨hp, rfl⟩
  | step _ _ hroot _ => exact absurd hmark hroot

end Way

/-- There is one root of each mark. -/
theorem eq_of_mem_keptRoots {disk : Disk} (hp : p ∈ keptRoots disk roots)
    (hq : q ∈ keptRoots disk roots) (h : p.mark = q.mark) : p = q :=
  List.inj_on_of_nodup_map (keepFirst_nodup _) hp hq h

end Search

end Frontier
