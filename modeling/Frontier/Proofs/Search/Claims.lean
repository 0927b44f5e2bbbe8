/-
# Claims — every job is that of a place that was claimed, whatever becomes of the search

Before a job is offered to the dispatcher the key of its place goes into the
visited set, and only if it was not there.  So a place is claimed: the roots
first, then each child whose key is new, by the examination that holds its
directory.

    `Claimed`     no two claims have one key, and each was come to on a way through claims
    `Register`    what is held is claimed; no more jobs are offered and accepted than claims

This is so in every run.  The search may be cut short, jobs may be refused and
bodies may break off; then places that were claimed are not examined, but none
is offered twice.
-/
import Frontier.Proofs.Search.Dues
import Mathlib

namespace Frontier.Search

open Dispatcher
open Dispatcher.Machine (Runs History accepted)

variable {plan : Plan} {roots : List Path} {n : Neighbours} {v v' : Record}
  {s s' : Shared Place} {f : SearchFrame} {fs fs' : Multiset SearchFrame}
  {past past' : History Place} {claims : List Place} {p c : Place} {kind : EntryKind}
  {rest : Listing} {e : DirEntry}

/-! ## Claims -/

/-- Places whose keys are those of the visited set, once each, and which were come to through one
another from the roots. -/
structure Claimed (plan : Plan) (roots : List Path) (visited : Visited) (claims : List Place) :
    Prop where
  keys : visited.keys.Perm (claims.map Place.mark)
  nodup : (claims.map Place.mark).Nodup
  roots_subset : ∀ p ∈ keptRoots plan.disk roots, p ∈ claims
  ways : ∀ p ∈ claims, ∃ ps, Way plan roots (p :: ps) ∧ ∀ q ∈ ps, q ∈ claims

namespace Claimed

/-- A new child of a place that was claimed is come to on the way to that place. -/
theorem way_of_child (h : Claimed plan roots v.visited claims) (hp : p ∈ claims)
    (hchild : c ∈ childrenOf plan p) (hnew : c.mark ∉ v.visited.keys) :
    ∃ ps, Way plan roots (c :: ps) ∧ ∀ q ∈ ps, q ∈ claims := by
  have hunmarked : ∀ q ∈ claims, q.mark ≠ c.mark := by
    intro q hq heq
    exact hnew (h.keys.mem_iff.mpr (heq ▸ List.mem_map_of_mem hq))
  obtain ⟨ps, hway, hps⟩ := h.ways p hp
  have hall : ∀ q ∈ p :: ps, q ∈ claims := by
    intro q hq
    rcases List.mem_cons.mp hq with rfl | hq
    · exact hp
    · exact hps q hq
  refine ⟨p :: ps, .step hway hchild ?_ fun q hq => hunmarked q (hall q hq), hall⟩
  intro hroot
  obtain ⟨q, hq, heq⟩ := List.mem_map.mp hroot
  exact hunmarked q (h.roots_subset q hq) heq

/-- An examination claims the child that it looks at, if its key is new. -/
theorem act (h : Claimed plan roots v.visited claims) {ex : Examination}
    (hlooks : ∀ x ∈ ex.looks plan, x.1 ∈ claims ∧ x.2 ∈ childrenOf plan x.1)
    (hvisited : v'.visited.keys = (ex.claims plan v).map Place.mark ++ v.visited.keys) :
    Claimed plan roots v'.visited (ex.claims plan v ++ claims) where
  keys := by
    rw [hvisited, List.map_append]
    exact h.keys.append_left _
  nodup := by
    rw [List.map_append, List.nodup_append']
    refine ⟨?_, h.nodup, ?_⟩
    · rcases Examination.looks_cases plan ex with hnone | ⟨x, hone⟩
      · simp [Examination.claims, hnone]
      · rw [Examination.claims, hone]
        exact ((List.nodup_singleton x.2).filter _).map_on (by simp)
    · intro mark hnew hold
      obtain ⟨c, hc, rfl⟩ := List.mem_map.mp hnew
      exact Examination.not_mem_of_claims hc (h.keys.mem_iff.mpr hold)
  roots_subset p hp := List.mem_append_right _ (h.roots_subset p hp)
  ways := by
    intro p hp
    have hway : ∃ ps, Way plan roots (p :: ps) ∧ ∀ q ∈ ps, q ∈ claims := by
      rcases List.mem_append.mp hp with hp | hp
      · obtain ⟨x, hx, rfl⟩ := List.mem_map.mp (List.mem_of_mem_filter hp)
        obtain ⟨hparent, hchild⟩ := hlooks x hx
        exact h.way_of_child hparent hchild (Examination.not_mem_of_claims hp)
      · exact h.ways p hp
    obtain ⟨ps, hway, hps⟩ := hway
    exact ⟨ps, hway, fun q hq => List.mem_append_right _ (hps q hq)⟩

/-- At first the roots are claimed. -/
theorem of_machine (disk : Disk) (search : Search) (bystanders : List (List Bool))
    (hdisk : plan.disk = disk) :
    Claimed plan search.roots (search.machine disk bystanders).world.visited
      (keptRoots plan.disk search.roots) := by
  subst hdisk
  refine ⟨keys_beginnings plan.disk search, keepFirst_nodup _, fun _ hp => hp, ?_⟩
  intro p hp
  exact ⟨[], .root hp, by simp⟩

end Claimed

/-! ## One act -/

/-- What is left of a listing are children. -/
theorem Expands.mem_childrenOf (h : Expands plan p kind (.ok e :: rest)) :
    p.ofEntry plan.disk e ∈ childrenOf plan p := by
  obtain ⟨listing, hlist, hsuffix⟩ := h.listed
  have hpart : (.ok e : Except SystemError DirEntry) ∈ listing :=
    hsuffix.subset List.mem_cons_self
  unfold childrenOf
  rw [h.classified]
  dsimp only
  rw [holdings, if_pos h.descends, Search.listed, hlist]
  exact List.mem_filterMap.mpr ⟨.ok _, List.mem_map.mpr ⟨_, hpart, rfl⟩, rfl⟩

namespace Examination

variable {r r' : Record} {ex next : Examination}

/-- The places that an examination goes down from, and that it has claimed and not offered. -/
def minds : Examination → Multiset Place
  | arrive p | skip p | classify p | countKind p _ | list p _ | children p _ _ => {p}
  | prepare p _ c _ | submit p _ c _ => {c} + {p}
  | countFailure _ next | tellFailure _ next | keepFailure _ next => next.minds
  | _ => 0

/-- The place that an examination has claimed and not offered. -/
def offers : Examination → Multiset Place
  | prepare _ _ c _ | submit _ _ c _ => {c}
  | _ => 0

theorem minds_of_finish (hmove : move plan ex = .finish) : ex.minds = 0 := by
  cases makes_of_move hmove <;> rfl

theorem offers_of_finish (hmove : move plan ex = .finish) : ex.offers = 0 := by
  cases makes_of_move hmove <;> rfl

theorem minds_afterVerdict (path : Path) (verdict : Verdict) :
    (afterVerdict path verdict).minds = 0 := by
  cases verdict <;> rfl

/-- An examination that acts has in mind what it had before, and what it claims. -/
theorem Acts.minds (h : Acts plan r ex r' next) :
    ∀ p ∈ next.minds, p ∈ ex.minds ∨ p ∈ ex.claims plan r := by
  intro x hx
  cases h with
  | fresh p kind e rest hnew =>
      rcases Multiset.mem_add.mp hx with hx | hx
      · exact .inr (by rw [claims_of_new hnew, List.mem_singleton, Multiset.mem_singleton.mp hx])
      · exact .inl hx
  | judge =>
      rw [minds_afterVerdict] at hx
      exact absurd hx (Multiset.notMem_zero x)
  | skipFirst | skipNext | unclassified | stay | unlisted | noneLeft | breakMatch | breakFailure =>
      exact absurd hx (Multiset.notMem_zero x)
  | _ => exact .inl hx

theorem offers_afterVerdict (path : Path) (verdict : Verdict) :
    (afterVerdict path verdict).offers = 0 := by
  cases verdict <;> rfl

theorem offers_of_resumes {f : Failure} (h : Resumes plan f next) : next.offers = 0 := by
  cases h <;> rfl

/-- What an examination that acts has to offer afterwards is what it claims. -/
theorem Acts.offers (h : Acts plan r ex r' next) (hex : ex.OnCourse plan) :
    next.offers = (ex.claims plan r : Multiset Place) := by
  cases h with
  | fresh p kind e rest hnew =>
      rw [claims_of_new hnew]
      rfl
  | known p kind e rest hold =>
      rw [claims_of_known hold]
      rfl
  | judge => exact offers_afterVerdict ..
  | keepFailure | discardFailure => exact offers_of_resumes hex
  | _ => rfl

/-- The child that is looked at is one of a place that is held. -/
theorem looks_spec (hex : ex.OnCourse plan) :
    ∀ x ∈ ex.looks plan, x.1 ∈ ex.minds ∧ x.2 ∈ childrenOf plan x.1 := by
  intro x hx
  cases ex with
  | children p kind rest =>
      rcases rest with _ | ⟨_ | e, rest⟩
      · cases hx
      · cases hx
      · obtain rfl := List.mem_singleton.mp hx
        exact ⟨Multiset.mem_singleton_self p, Expands.mem_childrenOf hex⟩
  | _ => cases hx

end Examination

/-! ## The register -/

theorem sum_map_prod {α M N : Type} [AddCommMonoid M] [AddCommMonoid N] (g : α → M) (h : α → N)
    (l : List α) : (l.map fun a => (g a, h a)).sum = ((l.map g).sum, (l.map h).sum) := by
  induction l with
  | nil => rfl
  | cons a l ih => rw [List.map_cons, List.sum_cons, ih]; rfl

/-- The places that are held by examinations or have a job, and those whose job is offered. -/
def custody (plan : Plan) : Burden plan (Multiset Place × Multiset Place) where
  body ex := (ex.minds, ex.offers)
  offered p := ({p}, {p})
  accepted p := ({p}, 0)
  body_arrive _ := rfl
  body_prepare _ _ _ _ := rfl
  body_submit _ _ _ _ := rfl
  body_of_finish hmove :=
    Prod.ext (Examination.minds_of_finish hmove) (Examination.offers_of_finish hmove)
  body_close := rfl
  body_breakOff _ := rfl

theorem sum_custody_offered (ps : List Place) :
    (ps.map (custody plan).offered).sum = ((ps : Multiset Place), (ps : Multiset Place)) := by
  have hplaces := sum_map_singleton id ps
  rw [List.map_id] at hplaces
  exact (sum_map_prod _ _ ps).trans (Prod.ext hplaces hplaces)

theorem sum_custody_accepted (ps : List Place) :
    (ps.map (custody plan).accepted).sum = ((ps : Multiset Place), 0) := by
  have hplaces := sum_map_singleton id ps
  rw [List.map_id] at hplaces
  exact (sum_map_prod _ _ ps).trans (Prod.ext hplaces (List.sum_eq_zero (by simp)))

theorem custody_judge_le (p : Place) (kind : EntryKind) (rest : Listing) :
    (custody plan).body (.judge p kind) ≤ (custody plan).body (.children p kind rest) :=
  ⟨zero_le, le_rfl⟩

/-- Whatever is held is claimed, and no place has its job offered or accepted more often than it is
claimed. -/
structure Register (plan : Plan) (roots : List Path) (v : Record) (s : Shared Place)
    (fs : Multiset SearchFrame) (past : History Place) (claims : List Place) : Prop
    extends Claimed plan roots v.visited claims where
  held : ∀ p ∈ ((custody plan).total s fs).1, p ∈ claims
  offered : ((custody plan).total s fs).2 +
    ((accepted past).map Admitted.job : Multiset Place) ≤ claims

namespace Register

theorem act (h : Register plan roots v s fs past claims) {ex next : Examination}
    {others : Multiset Place × Multiset Place} (hacts : Examination.Acts plan v ex v' next)
    (hex : ex.OnCourse plan) (hbody : (custody plan).total s fs = (custody plan).body ex + others)
    (hbody' : (custody plan).total s' fs' = (custody plan).body next + others) :
    Register plan roots v' s' fs' past (ex.claims plan v ++ claims) := by
  have hheld := h.held
  have hoffered := h.offered
  rw [hbody] at hheld hoffered
  refine ⟨h.toClaimed.act ?_ hacts.visited, ?_, ?_⟩
  · intro x hx
    obtain ⟨hminds, hchild⟩ := Examination.looks_spec hex x hx
    exact ⟨hheld x.1 (Multiset.mem_add.mpr (.inl hminds)), hchild⟩
  · intro p hp
    rw [hbody'] at hp
    rw [List.mem_append]
    rcases Multiset.mem_add.mp hp with hp | hp
    · exact (hacts.minds p hp).symm.imp_right
        fun hold => hheld p (Multiset.mem_add.mpr (.inl hold))
    · exact .inr (hheld p (Multiset.mem_add.mpr (.inr hp)))
  · rw [hbody', ← Multiset.coe_add]
    calc next.offers + others.2 + ((accepted past).map Admitted.job : Multiset Place)
        = (ex.claims plan v : Multiset Place) +
            (others.2 + ((accepted past).map Admitted.job : Multiset Place)) := by
          rw [hacts.offers hex, add_assoc]
      _ ≤ (ex.claims plan v : Multiset Place) + (claims : Multiset Place) := by
          gcongr
          exact le_trans (by gcongr; exact le_add_of_nonneg_left zero_le) hoffered

/-- What only changes hands stays in the register, and what is lost leaves it. -/
theorem hand (h : Register plan roots v s fs past claims) {told : List (Occurrence Place)}
    (hrecord : v' = { v with flag := v'.flag })
    (htotal : (custody plan).total s' fs' +
        ((acceptedIn told).map (custody plan).offered).sum ≤
      (custody plan).total s fs + ((acceptedIn told).map (custody plan).accepted).sum)
    (t : ThreadId) :
    Register plan roots v' s' fs' (past ++ told.map (t, ·)) claims := by
  have hvisited : v'.visited = v.visited := by rw [hrecord]
  rw [sum_custody_offered, sum_custody_accepted] at htotal
  obtain ⟨hheld, hoffered⟩ := Prod.le_def.mp htotal
  refine ⟨by rw [hvisited]; exact h.toClaimed, ?_, ?_⟩
  · intro p hp
    exact h.held p (Multiset.mem_of_le (le_of_add_le_add_right hheld) hp)
  · rw [map_job_accepted, ← Multiset.coe_add]
    calc ((custody plan).total s' fs').2 +
          (((accepted past).map Admitted.job : Multiset Place) + acceptedIn told)
        = ((custody plan).total s' fs').2 + (acceptedIn told : Multiset Place) +
            ((accepted past).map Admitted.job : Multiset Place) := by abel
      _ ≤ ((custody plan).total s fs).2 + ((accepted past).map Admitted.job : Multiset Place) := by
          gcongr
          exact hoffered.trans (add_zero _).le
      _ ≤ claims := h.offered

theorem accepted_subperm (h : Register plan roots v s fs past claims) :
    ((accepted past).map Admitted.job).Subperm claims :=
  Multiset.coe_le.mp ((le_add_of_nonneg_left zero_le).trans h.offered)

/-- No two jobs are accepted with one key. -/
theorem accepted_nodup (h : Register plan roots v s fs past claims) :
    (((accepted past).map Admitted.job).map Place.mark).Nodup := by
  obtain ⟨ps, hperm, hsublist⟩ := h.accepted_subperm
  exact (hperm.map _).nodup_iff.mp (h.nodup.sublist (hsublist.map _))

/-- The place of a job was come to on a way. -/
theorem exists_way (h : Register plan roots v s fs past claims)
    (hp : p ∈ (accepted past).map Admitted.job) : ∃ ps, Way plan roots (p :: ps) :=
  (h.ways p (h.accepted_subperm.subset hp)).imp fun _ hway => hway.1

end Register

section Runs

variable {disk : Disk} {search : Search} {bystanders : List (List Bool)} {reliable : Bool}
  {m : Machine Place Examination Record} {history : History Place}

theorem register_machine (hdisk : plan.disk = disk) :
    Register plan search.roots (search.machine disk bystanders).world
      (search.machine disk bystanders).shared (search.machine disk bystanders).frames []
      (keptRoots plan.disk search.roots) := by
  have htotal : (custody plan).total (search.machine disk bystanders).shared
      (search.machine disk bystanders).frames =
        ((keptRoots plan.disk search.roots : Multiset Place),
          (keptRoots plan.disk search.roots : Multiset Place)) := by
    rw [(custody plan).total_machine, sum_custody_offered, hdisk]
  refine ⟨.of_machine disk search bystanders hdisk, ?_, ?_⟩
  · intro p hp
    rw [htotal] at hp
    exact hp
  · rw [htotal]
    exact (add_zero _).le

/-- Every run has a register of claims. -/
theorem register_of_runs (hdisk : plan.disk = disk)
    (run : Runs (workload plan) reliable (search.machine disk bystanders) history m) :
    ∃ claims, Register plan search.roots m.world m.shared m.frames history claims := by
  refine run.turn_induction (P := fun m past => ∃ claims,
    Register plan search.roots m.world m.shared m.frames past claims)
    ⟨_, register_machine hdisk⟩ ?_
  intro n f fs below above rest r r' told told' past m₁ m₂ run₁ _ hbefore hafter _ hturn hpasses
    _ h
  obtain ⟨claims, hregister⟩ := h
  have hscripted := scripted_of_runs run₁
  have hcourse := onCourse_of_runs run₁
  rw [hbefore] at hregister hscripted hcourse
  rw [hafter]
  rcases (custody plan).step_le custody_judge_le hturn hpasses hscripted with
    ⟨k, held, ex, next, others, hacts, rfl, hnone, hbody, hbody'⟩ | ⟨hrecord, htotal⟩
  · rw [hnone, List.map_nil, List.append_nil]
    exact ⟨_, hregister.act hacts (hcourse _ (Multiset.mem_cons_self ..)) hbody hbody'⟩
  · exact ⟨claims, hregister.hand hrecord htotal n.self⟩

end Runs

end Frontier.Search
