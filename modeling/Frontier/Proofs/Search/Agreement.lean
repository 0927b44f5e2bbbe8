/-
# Agreement — a search finds what the sequential search finds

A search that was not cut short has explored its disk (`Explored`).  On a disk without
symbolic links there is one way to a place, so what it has examined are the places of
the walk, and its record is that of the sequential search but for the order.

    what was looked at covers what the walk comes to, and no more   (`Covered.perm_reached`)
    as many bodies broke off as there are places to break off on    (`finds_of_steady`)
    where nobody breaks off nothing is lost                         (`finds_of_runs`)
-/
import Frontier.Proofs.Search.Ledger
import Frontier.Proofs.Search.Verdicts
import Mathlib

namespace Frontier.Search

open Dispatcher
open Dispatcher.Machine (Runs History accepted)

variable {plan : Plan} {disk : Disk} {search : Search} {bystanders : List (List Bool)}
  {reliable : Bool} {m : Machine Place Examination Record} {history : History Place}
  {marks : List (List Path.Component)} {roots : List Path} {p q c : Place} {ps qs : List Place}

/-! ## On a disk without links -/

/-- Down to the greatest depth, a walk goes on to all that it does not stop short of. -/
theorem walk_closed {levels : Nat} (hlevels : plan.maxDepth ≤ p.depth + levels)
    (hq : q ∈ walk plan marks levels p) (hc : c ∈ childrenOf plan q) (hnew : c.mark ∉ marks) :
    c ∈ walk plan marks levels p := by
  induction levels generalizing p with
  | zero =>
      rw [walk, List.mem_singleton] at hq
      subst hq
      rw [childrenOf_of_le hlevels] at hc
      cases hc
  | succ levels ih =>
      have htop (d : Place) : d ∈ walk plan marks levels d := by
        cases levels <;> exact List.mem_cons_self
      rw [walk, List.mem_cons] at hq ⊢
      refine .inr (List.mem_flatMap.mpr ?_)
      rcases hq with rfl | hq
      · exact ⟨c, List.mem_filter.mpr ⟨hc, by simpa using hnew⟩, htop c⟩
      · obtain ⟨d, hd, hq⟩ := List.mem_flatMap.mp hq
        have hdepth := depth_of_mem_childrenOf (List.mem_of_mem_filter hd)
        exact ⟨d, hd, ih (by omega) hq⟩

/-- A walk does not leave what is closed. -/
theorem mem_of_mem_walk {levels : Nat}
    (hclosed : ∀ p ∈ ps, ∀ c ∈ childrenOf plan p, c.mark ∉ marks → c ∈ ps) (hp : p ∈ ps)
    (hq : q ∈ walk plan marks levels p) : q ∈ ps := by
  induction levels generalizing p with
  | zero =>
      rw [walk, List.mem_singleton] at hq
      exact hq ▸ hp
  | succ levels ih =>
      rw [walk, List.mem_cons] at hq
      rcases hq with rfl | hq
      · exact hp
      · obtain ⟨c, hc, hq⟩ := List.mem_flatMap.mp hq
        obtain ⟨hchild, hnew⟩ := List.mem_filter.mp hc
        exact ih (hclosed p hp c hchild (by simpa using hnew)) hq

/-- Without links there is one way to a place, so what is held by a place of a cover is itself in
the cover, and not only a place of the same key. -/
theorem Covered.mem_of_child (h : Covered plan roots ps) (hplain : plan.disk.Plain) (hp : p ∈ ps)
    (hc : c ∈ childrenOf plan p) (hnew : c.mark ∉ rootMarks plan.disk roots) : c ∈ ps := by
  obtain ⟨c', hc', hmark⟩ := List.mem_map.mp (h.closed p hp c hc)
  obtain ⟨before, hway, hbefore⟩ := h.ways c' hc'
  cases hway with
  | root hroot => exact absurd (hmark ▸ List.mem_map_of_mem hroot) hnew
  | @step q _ _ _ hchild _ _ =>
      -- a key is the key of the place that holds it with a name behind: the parents are the same
      obtain ⟨n, -, hname, -, -⟩ := exists_name_of_mem_childrenOf hplain hc
      obtain ⟨n', -, hname', -, -⟩ := exists_name_of_mem_childrenOf hplain hchild
      have hparents : q.mark = p.mark :=
        List.append_inj_left' (hname'.symm.trans (hmark.trans hname)) rfl
      obtain rfl := List.inj_on_of_nodup_map h.nodup (hbefore q List.mem_cons_self) hp hparents
      obtain rfl := List.inj_on_of_nodup_map (nodup_map_childrenOf hplain q) hchild hc hmark
      exact hc'

theorem Way.mem_reached (h : Way plan roots (p :: ps)) : p ∈ reached plan roots := by
  -- the place before lies on a walk, which is deep enough to go on
  induction ps generalizing p with
  | nil =>
      cases h with
      | root hroot =>
          refine List.mem_flatMap.mpr ⟨p, hroot, ?_⟩
          cases plan.maxDepth <;> exact List.mem_cons_self
  | cons q qs ih =>
      cases h with
      | step hway hchild hnew _ =>
          obtain ⟨root, hroot, hq⟩ := List.mem_flatMap.mp (ih hway)
          refine List.mem_flatMap.mpr ⟨root, hroot, walk_closed ?_ hq hchild hnew⟩
          rw [depth_of_mem_keptRoots hroot, zero_add]

/-- On a disk without links there is one cover. -/
theorem Covered.perm_reached (h : Covered plan roots ps) (hplain : plan.disk.Plain) :
    ps.Perm (reached plan roots) := by
  refine (List.perm_ext_iff_of_nodup h.nodup.of_map (reached_nodup hplain roots).of_map).mpr ?_
  intro p
  constructor
  · intro hp
    obtain ⟨before, hway, -⟩ := h.ways p hp
    exact hway.mem_reached
  · intro hp
    obtain ⟨root, hroot, hwalk⟩ := List.mem_flatMap.mp hp
    exact mem_of_mem_walk (fun _ hp _ hc hnew => h.mem_of_child hplain hp hc hnew)
      (h.roots_subset root hroot) hwalk

/-! ## Where the matcher breaks off -/

/-- The place is asked about, and the matcher breaks off on it. -/
def breaksAt (plan : Plan) (p : Place) : Bool :=
  match plan.disk.classify p.path with
  | .ok kind =>
      Examination.isCandidate plan p kind && plan.breaksOn (Entry.ofPath p.path kind p.depth)
  | .error _ => false

theorem breaksAt_of_ok {kind : EntryKind} (h : plan.disk.classify p.path = .ok kind) :
    breaksAt plan p =
      (Examination.isCandidate plan p kind && plan.breaksOn (Entry.ofPath p.path kind p.depth)) := by
  rw [breaksAt, h]

theorem breaksAt_of_error {failure : Failure} (h : plan.disk.classify p.path = .error failure) :
    breaksAt plan p = false := by
  rw [breaksAt, h]

theorem breaksAt_eq_false (h : ∀ e, plan.breaksOn e = false) (p : Place) :
    breaksAt plan p = false := by
  unfold breaksAt
  split
  · rw [h, Bool.and_false]
  · rfl

theorem Plan.Calm.breaksOn_eq_false (h : plan.Calm) (e : Entry) : plan.breaksOn e = false := by
  rw [Plan.breaksOn]
  cases hverdict : plan.matcher e with
  | panic message => exact absurd hverdict (h.matcher e message)
  | accept | reject => rfl

theorem countP_entryOf (plan : Plan) (p : Place) :
    (entryOf plan p).countP (plan.breaksOn ·) = if breaksAt plan p then 1 else 0 := by
  cases hkind : plan.disk.classify p.path with
  | error failure =>
      rw [entryOf_of_error hkind, breaksAt_of_error hkind]
      rfl
  | ok kind =>
      rw [entryOf_of_ok hkind, breaksAt_of_ok hkind, candidate]
      cases Examination.isCandidate plan p kind with
      | false => rfl
      | true =>
          rw [if_pos rfl, Bool.true_and, ← Multiset.cons_zero, Multiset.countP_cons,
            Multiset.countP_zero, zero_add]

theorem countP_sum_entryOf (plan : Plan) (ps : List Place) :
    (ps.map (entryOf plan)).sum.countP (plan.breaksOn ·) = ps.countP (breaksAt plan) := by
  induction ps with
  | nil => rfl
  | cons p ps ih =>
      rw [List.map_cons, List.sum_cons, Multiset.countP_add, ih, countP_entryOf, List.countP_cons,
        add_comm]

/-! ## What a search finds -/

/-- What a search comes to that was not cut short and whose sink never breaks off: what the walk
records, and as many broken bodies as places on which the matcher breaks off. -/
theorem finds_of_steady (hplain : disk.Plain) (hplan : search.plan disk = .ok plan)
    (hsteady : plan.Steady)
    (run : Runs (workload plan) reliable (search.machine disk bystanders) history m)
    (hgoes : m.world.interrupted = false) {result : Except Failure Results}
    (hresult : outcome history m.world = some result) :
    ∃ stats, result = .ok (resultsOf m.world stats) ∧
      m.world.Agrees (sequential plan search.roots) ∧
      stats.submitted = (reached plan search.roots).length ∧
      stats.executed = (reached plan search.roots).length ∧
      stats.panicked = m.world.examined.countP (breaksAt plan) := by
  obtain ⟨rfl, -⟩ := plan_eq_ok hplan
  obtain ⟨stats, rfl, hdrained⟩ := exists_results_of_outcome run hresult
  obtain ⟨hq, hsubmitted, hexecuted⟩ := counts_of_drained run hdrained
  have hexplored := explored_of_runs hsteady.patient rfl run hgoes hresult
  have hperm := hexplored.perm_reached hplain
  -- nothing was passed over, so the jobs are the places that were looked at
  have hjobs : (accepted history).length = (reached plan search.roots).length := by
    have hall := jobs_of_quiescent run hq
    rw [skipped_of_runs run hgoes, List.append_nil] at hall
    rw [← List.length_map Admitted.job, ← hall.length_eq, hperm.length_eq]
  refine ⟨stats, rfl, (hexplored.agrees_of_steady hsteady).trans (recordOf_agrees hperm),
    hsubmitted.trans hjobs, hexecuted.trans hjobs, ?_⟩
  rw [panicked_of_drained hsteady run hdrained, ← countP_sum_entryOf,
    ← judged_of_quiescent hsteady run hq, Multiset.coe_countP]
  simp only [Bool.decide_eq_true]

/-- What a search that was not cut short comes to: its record is the sequential one but for the
order, no place was looked at twice, and each had a job of its own. -/
structure Finds (plan : Plan) (rs : List Path) (record : Record) (results : Results) : Prop where
  results_eq : results = resultsOf record results.dispatch
  agrees : record.Agrees (sequential plan rs)
  once : (record.examined.map Place.mark).Nodup
  submitted : results.dispatch.submitted = (reached plan rs).length
  executed : results.dispatch.executed = (reached plan rs).length
  panicked : results.dispatch.panicked = 0
  completed : results.completed = true

/-- A search that has ended and was not cut short has found what the sequential search finds. -/
theorem finds_of_runs (hplain : disk.Plain) (hplan : search.plan disk = .ok plan)
    (hcalm : plan.Calm)
    (run : Runs (workload plan) reliable (search.machine disk bystanders) history m)
    (huninterrupted : m.world.interrupted = false) {result : Except Failure Results}
    (hresult : outcome history m.world = some result) :
    ∃ results, result = .ok results ∧ Finds plan search.roots m.world results := by
  obtain ⟨stats, rfl, hagrees, hsubmitted, hexecuted, hpanicked⟩ :=
    finds_of_steady hplain hplan hcalm.steady run huninterrupted hresult
  obtain ⟨rfl, -⟩ := plan_eq_ok hplan
  refine ⟨_, rfl, rfl, hagrees, ?_, hsubmitted, hexecuted, ?_, ?_⟩
  · exact (hagrees.examined.map Place.mark).nodup_iff.mpr (reached_nodup hplain search.roots)
  · refine hpanicked.trans (List.countP_eq_zero.mpr fun p _ => ?_)
    rw [breaksAt_eq_false hcalm.breaksOn_eq_false]
    exact Bool.false_ne_true
  · rw [resultsOf, huninterrupted]
    rfl

end Frontier.Search
