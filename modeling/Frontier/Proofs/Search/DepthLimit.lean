/-
# The depth limit — where it is up to the scheduler what is found

A place is as deep as the way on which it was met first.  Through a link a
search may meet a directory deeper down than where it is, and with several
threads it may meet it there first; if that is at the greatest depth the search
does not go down into it.  So two runs of one search can examine different keys
(`keys_differ_of_link`).

Nothing but this tells them apart if the disk knows where things are.  As long as
no directory lies on one way above the limit and on another one at it, each way is
taken up to its key (`Covered.mark_mem_of_way`), and any two runs examine the same
keys.  So it is in particular where the limit is out of reach
(`limitAlike_of_encard_le`).

The limits of the system can do what the greatest depth does.  Where one way to a
directory has met so many links that the next one is too many, and another way has
not, there need be no greatest depth for two runs to differ
(`keys_differ_of_many_links`).
-/
import Frontier.Proofs.Dispatcher.LatestFirst
import Frontier.Proofs.Search.Exhaustive
import Mathlib

namespace Frontier.Search

open Dispatcher
open Dispatcher.Machine (Runs History)

variable {plan plan' : Plan} {disk disk' : Disk} {roots : List Path} {p : Place}
  {ps qs : List Place}

/-- On all ways to it a directory is above the greatest depth, or on none. -/
def LimitAlike (plan : Plan) (roots : List Path) : Prop :=
  ∀ ⦃p q : Place⦄ ⦃ps qs : List Place⦄, Way plan roots (p :: ps) → Way plan roots (q :: qs) →
    p.mark = q.mark → plan.disk.kind p.path = .ok .dir →
      p.depth < plan.maxDepth → q.depth < plan.maxDepth

/-- So it is where the limit is so deep that no way reaches it. -/
theorem limitAlike_of_encard_le (hlocated : plan.disk.Located (sites plan roots))
    (hfinite : (keys plan.disk roots).encard ≤ plan.maxDepth) : LimitAlike plan roots := by
  intro p q ps qs _ hq _ _ _
  exact hq.depth_lt hlocated hfinite

/-- What covers the roots has the key at the end of each way, on whichever way it was met. -/
theorem Covered.mark_mem_of_way (hlocated : plan.disk.Located (sites plan roots))
    (hlimit : LimitAlike plan roots) (h : Covered plan roots qs) (hway : Way plan roots (p :: ps)) :
    p.mark ∈ qs.map Place.mark := by
  induction ps generalizing p with
  | nil =>
      cases hway with
      | root hp => exact List.mem_map_of_mem (h.roots_subset p hp)
  | cons parent before ih =>
      obtain ⟨q, hq, hmark⟩ := List.mem_map.mp (ih hway.before)
      obtain ⟨qbefore, hqway, -⟩ := h.ways q hq
      have halike := hway.before.alike hlocated hqway hmark.symm
      have hparent := hway.before
      cases hway with
      | step _ hchild _ _ =>
          obtain ⟨hdir, hdepth, -⟩ := mem_childrenOf_iff.mp hchild
          obtain ⟨c, hc, heq⟩ :=
            halike.exists_child (hlimit hparent hqway hmark.symm hdir hdepth) hchild
          rw [← heq]
          exact h.closed q hq c hc

theorem Covered.marks_perm (hlocated : plan.disk.Located (sites plan roots))
    (hlimit : LimitAlike plan roots) (hps : Covered plan roots ps) (hqs : Covered plan roots qs) :
    (ps.map Place.mark).Perm (qs.map Place.mark) := by
  have hmem {ps qs : List Place} (hps : Covered plan roots ps) (hqs : Covered plan roots qs) :
      ∀ mark ∈ ps.map Place.mark, mark ∈ qs.map Place.mark := by
    intro mark hmark
    obtain ⟨p, hp, rfl⟩ := List.mem_map.mp hmark
    obtain ⟨before, hway, -⟩ := hps.ways p hp
    exact hqs.mark_mem_of_way hlocated hlimit hway
  exact (List.perm_ext_iff_of_nodup hps.nodup hqs.nodup).mpr
    fun mark => ⟨hmem hps hqs mark, hmem hqs hps mark⟩

section Runs

variable {search search' : Search} {bystanders bystanders' : List (List Bool)}
  {reliable reliable' : Bool} {m m' : Machine Place Examination Record}
  {history history' : History Place} {result result' : Except Failure Results}

/-- Two searches that begin at the same roots and go as deep examine the same keys, whatever their
schedulers do and however many threads they have, if no directory is above the greatest depth on one
way and at it on another.

The disk knows where things are, and neither sink breaks off where it is told that a part of a
listing could not be read. -/
theorem same_keys_of_limit (hplan : search.plan disk = .ok plan)
    (hplan' : search'.plan disk' = .ok plan') (hreorders : disk.Reorders disk')
    (hroots : search'.roots = search.roots) (hmax : search'.maxDepth = search.maxDepth)
    (hpatient : plan.Patient) (hpatient' : plan'.Patient)
    (hlocated : disk.Located (sites plan search.roots)) (hlimit : LimitAlike plan search.roots)
    (run : Runs (workload plan) reliable (search.machine disk bystanders) history m)
    (run' : Runs (workload plan') reliable' (search'.machine disk' bystanders') history' m')
    (hgoes : m.world.interrupted = false) (hgoes' : m'.world.interrupted = false)
    (hresult : outcome history m.world = some result)
    (hresult' : outcome history' m'.world = some result') :
    (m.world.examined.map Place.mark).Perm (m'.world.examined.map Place.mark) := by
  obtain ⟨-, matcher, -, rfl⟩ := exists_matcher_of_plan hplan
  obtain ⟨-, matcher', -, rfl⟩ := exists_matcher_of_plan hplan'
  have hcovered := (explored_of_runs hpatient rfl run hgoes hresult).toCovered
  have hcovered' := (explored_of_runs hpatient' rfl run' hgoes' hresult').toCovered
  rw [hroots] at hcovered'
  exact hcovered.marks_perm hlocated hlimit
    (hcovered'.of_reorders hreorders (congrArg (Option.getD · deepest) hmax))

end Runs

/-- A search from `r` that does not go deeper than two levels. -/
def shallow (threads : Nat) : Search :=
  { Search.empty with roots := [⟨[114]⟩], threads := threads, maxDepth := some 2 }

def shallowPlan (disk : Disk) : Plan where
  disk := disk
  matcher := fun _ => .accept
  typeFilter := .any
  minDepth := 0
  maxDepth := 2
  sink := none
  watchesFlag := false
  keepsPaths := false
  keepsFailures := false

/-- What one thread comes to. -/
def alone (disk : Disk) : Machine Place Examination Record × History Place :=
  ((shallow 1).machine disk []).settle (workload (shallowPlan disk)) 400

/-- What two threads come to, of which the second one overtakes the first one. -/
def overtaking (disk : Disk) : Machine Place Examination Record × History Place :=
  Machine.overtake (workload (shallowPlan disk)) 400 ((shallow 2).machine disk []) []

theorem runs_alone (disk : Disk) : Runs (workload (shallowPlan disk)) true
    ((shallow 1).machine disk []) (alone disk).2 (alone disk).1 :=
  Machine.runs_settle _ _ _

theorem runs_overtaking (disk : Disk) : Runs (workload (shallowPlan disk)) true
    ((shallow 2).machine disk []) (overtaking disk).2 (overtaking disk).1 :=
  Machine.runs_overtake _ .refl

/-- Of `braided` both examine four keys: all ways to the directory `b` end above the limit. -/
theorem same_keys_of_limit_braided :
    (outcome (alone braided.disk).2 (alone braided.disk).1.world).isSome = true ∧
      (outcome (overtaking braided.disk).2 (overtaking braided.disk).1.world).isSome = true ∧
      (alone braided.disk).1.world.examined.length = 4 ∧
      ((alone braided.disk).1.world.examined.map Place.mark).Perm
        ((overtaking braided.disk).1.world.examined.map Place.mark) := by
  have hlimit : LimitAlike (shallowPlan braided.disk) [⟨[114]⟩] := by
    have habove : ∀ p ∈ braidedPlaces, ∀ q ∈ braidedPlaces, p.mark = q.mark → p.depth < 2 →
        q.depth < 2 := by decide
    intro p q ps qs hp hq hmark _ hdepth
    exact habove p (mem_braidedPlaces rfl hp) q (mem_braidedPlaces rfl hq) hmark hdepth
  have hended : (outcome (alone braided.disk).2 (alone braided.disk).1.world).isSome = true := by
    decide +kernel
  have hended' : (outcome (overtaking braided.disk).2
      (overtaking braided.disk).1.world).isSome = true := by
    decide +kernel
  obtain ⟨result, hresult⟩ := Option.isSome_iff_exists.mp hended
  obtain ⟨result', hresult'⟩ := Option.isSome_iff_exists.mp hended'
  refine ⟨hended, hended', rfl, ?_⟩
  have hplan : (shallow 1).plan braided.disk = .ok (shallowPlan braided.disk) := rfl
  have hplan' : (shallow 2).plan braided.disk = .ok (shallowPlan braided.disk) := rfl
  exact same_keys_of_limit hplan hplan' (.refl _) rfl rfl nofun nofun
    (braided_located.mono (braided_sites rfl)) hlimit (runs_alone _) (runs_overtaking _) rfl rfl
    hresult hresult'

/-- A directory `r` that holds a directory `a` and a directory `d`.  In `a` there is a link `l` to
`d`, in which there is a file `x`. -/
def detour : Volume where
  top := .dir [([114], .dir [([97], .dir [([108], .link [46, 46, 47, 100])]),
    ([100], .dir [([120], .file)])])]
  here := []

/-- One thread examines `r/d/x`.  Of two threads the second one may meet `d` in `r/a/l`, at the
greatest depth, and then `x` is not found. -/
theorem keys_differ_of_link :
    (shallow 1).plan detour.disk = .ok (shallowPlan detour.disk) ∧
      (shallow 2).plan detour.disk = .ok (shallowPlan detour.disk) ∧
      Runs (workload (shallowPlan detour.disk)) true ((shallow 1).machine detour.disk [])
        (alone detour.disk).2 (alone detour.disk).1 ∧
      Runs (workload (shallowPlan detour.disk)) true ((shallow 2).machine detour.disk [])
        (overtaking detour.disk).2 (overtaking detour.disk).1 ∧
      (alone detour.disk).1.world.interrupted = false ∧
      (overtaking detour.disk).1.world.interrupted = false ∧
      (outcome (alone detour.disk).2 (alone detour.disk).1.world).isSome = true ∧
      (outcome (overtaking detour.disk).2 (overtaking detour.disk).1.world).isSome = true ∧
      ∃ mark ∈ (alone detour.disk).1.world.examined.map Place.mark,
        mark ∉ (overtaking detour.disk).1.world.examined.map Place.mark := by
  have hfound : Path.components ⟨[47, 114, 47, 100, 47, 120]⟩ ∈
      (alone detour.disk).1.world.examined.map Place.mark := by decide +kernel
  have hmissed : Path.components ⟨[47, 114, 47, 100, 47, 120]⟩ ∉
      (overtaking detour.disk).1.world.examined.map Place.mark := by decide +kernel
  exact ⟨rfl, rfl, runs_alone _, runs_overtaking _, rfl, rfl, rfl, rfl, _, hfound, hmissed⟩

/-- `tangled` with a directory `s`, in which a link `m` leads to `a` straight away. -/
def forked : Volume where
  top := .dir (tangledEntries ++ [([115], .dir [([109], .link [46, 46, 47, 97])])])
  here := []

theorem forked_tidy : forked.Tidy where
  top := by
    refine .dir (by decide) (by decide) ?_
    rw [List.forall_mem_append, List.forall_mem_singleton]
    exact ⟨tangledEntries_tidy, .dir_singleton (by decide) .link⟩
  here := ⟨_, rfl⟩

/-- A search from `s` and from `r`. -/
def forkedSearch (threads : Nat) : Search :=
  { Search.empty with roots := [⟨[115]⟩, ⟨[114]⟩], threads }

/-- What one thread comes to. -/
def forkedAlone : Machine Place Examination Record × History Place :=
  ((forkedSearch 1).machine forked.disk []).settle (workload (lonePlan none forked.disk)) 400

/-- What two threads come to if the first one has just taken `s` when the second one takes `r`. -/
def forkedOvertaking : Machine Place Examination Record × History Place :=
  let taken := ((forkedSearch 2).machine forked.disk []).settle
    (workload (lonePlan none forked.disk)) 27
  Machine.overtake (workload (lonePlan none forked.disk)) 400 taken.1 taken.2

/-- One thread meets `a` as `s/m`, and from there it gets to `b`.  Of two threads the second one may
meet `a` as `r/l`, and `r/l/l` meets too many links. -/
theorem keys_differ_of_many_links :
    forked.disk.Faithful ∧
      (forkedSearch 1).plan forked.disk = .ok (lonePlan none forked.disk) ∧
      (forkedSearch 2).plan forked.disk = .ok (lonePlan none forked.disk) ∧
      Runs (workload (lonePlan none forked.disk)) true ((forkedSearch 1).machine forked.disk [])
        forkedAlone.2 forkedAlone.1 ∧
      Runs (workload (lonePlan none forked.disk)) true ((forkedSearch 2).machine forked.disk [])
        forkedOvertaking.2 forkedOvertaking.1 ∧
      forkedAlone.1.world.interrupted = false ∧ forkedOvertaking.1.world.interrupted = false ∧
      (outcome forkedAlone.2 forkedAlone.1.world).isSome = true ∧
      (outcome forkedOvertaking.2 forkedOvertaking.1.world).isSome = true ∧
      ∃ mark ∈ forkedAlone.1.world.examined.map Place.mark,
        mark ∉ forkedOvertaking.1.world.examined.map Place.mark := by
  have hfound : Path.components ⟨[47, 98]⟩ ∈ forkedAlone.1.world.examined.map Place.mark := by
    decide +kernel
  have hmissed : Path.components ⟨[47, 98]⟩ ∉
      forkedOvertaking.1.world.examined.map Place.mark := by
    decide +kernel
  exact ⟨forked_tidy.faithful (by decide), rfl, rfl, Machine.runs_settle _ _ _,
    Machine.runs_overtake _ (Machine.runs_settle _ _ _), by decide +kernel, by decide +kernel,
    by decide +kernel, by decide +kernel, _, hfound, hmissed⟩

end Frontier.Search
