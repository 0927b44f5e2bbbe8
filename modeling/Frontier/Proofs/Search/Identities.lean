/-
# Identities — what the key of a place says of its path

The key of a place is made up on the way to it: where a link is met the disk is
asked where it leads, and everywhere else a name is joined to the key of the
directory.  So a key is a guess, and it is right if the disk keeps to one rule
(`Disk.GoesDown`): where a directory lists something that is no link, it is below
the location of the directory, under its own name.

    the path leads somewhere     the key is the location     (`Way.key_eq_of_canonical`)
    it leads nowhere             the key is not looked at further

Each key is claimed once, so what leads somewhere is examined once, whether it is
met under its own name, through links, as a link or as a root.

File trees keep to the rule, whatever their links are like and whatever the
limits of the system cut off (`Volume.Tidy.goesDown`).
-/
import Frontier.Proofs.Search.JobCount
import Mathlib

namespace Frontier

namespace Search

open Dispatcher
open Dispatcher.Machine (Runs History accepted)

variable {plan : Plan} {roots : List Path} {n : Neighbours} {v v' : Record}
  {s s' : Shared Place} {f : SearchFrame} {fs : Multiset SearchFrame} {r : Option Result}
  {told : List (Occurrence Place)} {p : Place} {ps : List Place} {root path k : Path}
  {names : List OsText}

/-! ## The names of a path -/

/-- Directories lead down from a path to another one, and these are the names on the way. -/
inductive Descent (disk : Disk) (root : Path) : List OsText → Path → Prop
  | here : Descent disk root [] root
  | down {names : List OsText} {path : Path} {listing : Listing} {e : DirEntry} :
      Descent disk root names path → disk.kind path = .ok .dir → disk.list path = .ok listing →
        .ok e ∈ listing → Descent disk root (names ++ [e.name]) (path.join e.name)

theorem Descent.path_eq {disk : Disk} (h : Descent disk root names path) :
    path = names.foldl Path.join root := by
  induction h with
  | here => rfl
  | down _ _ _ _ ih => rw [List.foldl_append, ← ih]; rfl

/-- A way goes down from a root, by one name for each place that it comes through. -/
theorem Way.exists_descent (h : Way plan roots (p :: ps)) :
    ∃ root ∈ roots, ∃ names, Descent plan.disk root names p.path ∧ names.length = ps.length := by
  induction ps generalizing p with
  | nil =>
      cases h with
      | root hp =>
          obtain ⟨root, hroot, rfl⟩ := exists_root_of_mem_keptRoots hp
          exact ⟨root, hroot, [], .here, rfl⟩
  | cons q qs ih =>
      obtain ⟨root, hroot, names, hdescent, hlength⟩ := ih h.before
      cases h with
      | step _ hchild _ _ =>
          obtain ⟨hdir, -, listing, e, hlist, he, rfl⟩ := mem_childrenOf_iff.mp hchild
          refine ⟨root, hroot, names ++ [e.name], hdescent.down hdir hlist he, ?_⟩
          rw [List.length_append, List.length_singleton, List.length_cons, hlength]

/-! ## Keys -/

/-- Of places that lead somewhere and have different keys, no two lead to the same location. -/
theorem locations_nodup {disk : Disk} {places : List Place}
    (hkeys : ∀ p ∈ places, ∀ k, disk.canonical p.path = .ok k → p.key = k)
    (hnodup : (places.map Place.mark).Nodup) :
    (places.filterMap fun p => (disk.canonical p.path).toOption).Nodup := by
  have hkey {p : Place} {k : Path} (hp : p ∈ places)
      (hk : (disk.canonical p.path).toOption = some k) : p.key = k := by
    cases hcanonical : disk.canonical p.path with
    | ok location =>
        rw [hcanonical] at hk
        cases hk
        exact hkeys p hp _ hcanonical
    | error err =>
        rw [hcanonical] at hk
        cases hk
  rw [List.Nodup, List.pairwise_filterMap]
  refine (List.pairwise_map.mp hnodup).imp_of_mem ?_
  intro p q hp hq hmarks k hk l hl hkl
  refine hmarks ?_
  rw [Place.mark, Place.mark, hkey hp hk, hkey hq hl, hkl]

/-! ## Refusals -/

/-- The place of a job that is refused was being offered. -/
theorem Turn.mem_custody_of_refused (h : Turn (workload plan) n v s f v' s' fs r told)
    (hp : .event (.refused p) ∈ told) : p ∈ ((custody plan).frame f).1 := by
  cases h with
  | refuse | refuseBare =>
      simp only [List.mem_cons, Occurrence.event.injEq, Event.refused.injEq, List.not_mem_nil,
        or_false] at hp
      rw [hp]
      exact Multiset.mem_singleton_self _
  | handBack | giveUp | release =>
      obtain ⟨_, _, events, hrelease, htold⟩ := s.exists_release_eq
      rw [hrelease] at hp
      rcases htold with rfl | rfl <;> simp at hp
  | _ => simp at hp

section Runs

variable {disk : Disk} {search : Search} {bystanders : List (List Bool)} {reliable : Bool}
  {m : Machine Place Examination Record} {history : History Place}

/-- The place of a job that was refused was come to on a way. -/
theorem exists_way_of_refused (hdisk : plan.disk = disk)
    (run : Runs (workload plan) reliable (search.machine disk bystanders) history m)
    {t : ThreadId} (hp : (t, .event (.refused p)) ∈ history) :
    ∃ ps, Way plan search.roots (p :: ps) := by
  refine run.turn_induction
    (P := fun _ past => ∀ t p, (t, .event (.refused p)) ∈ past →
      ∃ ps, Way plan search.roots (p :: ps)) (fun _ _ => nofun) ?_ t p hp
  intro n f fs below above rest r r' told told' past m₁ m₂ run₁ _ hbefore hafter _ hturn hpasses
    _ h t p hp
  rw [List.mem_append, List.mem_map] at hp
  rcases hp with hp | ⟨o, ho, heq⟩
  · exact h t p hp
  · cases heq
    have hpassed : .event (.refused p) ∉ told' := by
      intro hmem
      have hevent : Event.refused p ∈ told'.filterMap Occurrence.event? :=
        List.mem_filterMap.mpr ⟨_, hmem, rfl⟩
      rw [hpasses.no_event] at hevent
      cases hevent
    have htold := (List.mem_append.mp ho).resolve_right hpassed
    obtain ⟨claims, hregister⟩ := register_of_runs hdisk run₁
    refine (hregister.ways p (hregister.held p ?_)).imp fun _ hway => hway.1
    rw [hbefore, Burden.total, weigh_cons, Prod.fst_add, Prod.fst_add]
    exact Multiset.mem_add.mpr (.inl (Multiset.mem_add.mpr
      (.inl (Turn.mem_custody_of_refused hturn htold))))

/-- What is known of a place that a search has come to. -/
structure Identified (disk : Disk) (search : Search) (p : Place) : Prop where
  path : ∃ root ∈ search.roots, ∃ names, Descent disk root names p.path ∧
    p.path = names.foldl Path.join root ∧ names.length = p.depth
  depth_le : p.depth ≤ search.maxDepth.getD deepest
  key_eq {k : Path} : disk.canonical p.path = .ok k → p.key = k

theorem Way.identified (hplan : search.plan disk = .ok plan) (hdown : disk.GoesDown)
    (h : Way plan search.roots (p :: ps)) : Identified disk search p := by
  obtain ⟨-, matcher, -, rfl⟩ := exists_matcher_of_plan hplan
  obtain ⟨root, hroot, names, hdescent, hlength⟩ := h.exists_descent
  exact ⟨⟨root, hroot, names, hdescent, hdescent.path_eq, hlength.trans h.depth_eq.symm⟩,
    h.depth_le, fun hk => h.key_eq_of_canonical hdown hk⟩

/-- Of every place whose job was accepted or refused, the path is that of a root with as many names
as the place is deep, one for each directory on the way down; no place is deeper than the search
goes, so that the depth of a child is at most that, too; and if the path leads somewhere, the key is
where.  So no two examinations were of what is at one location, on whatever paths it was met.

The disk is only taken to put what it lists below what lists it. -/
theorem keys_identify (hplan : search.plan disk = .ok plan) (hdown : disk.GoesDown)
    (run : Runs (workload plan) reliable (search.machine disk bystanders) history m) :
    (∀ p, p ∈ (accepted history).map Admitted.job ∨
        (∃ t, (t, .event (.refused p)) ∈ history) → Identified disk search p) ∧
      (∀ {number held : Nat} {p : Place} {kind : EntryKind} {rest : Listing},
        .run number held (.children p kind rest) ∈ m.frames →
          p.depth + 1 ≤ search.maxDepth.getD deepest) ∧
      (m.world.examined.filterMap fun p => (disk.canonical p.path).toOption).Nodup := by
  have hdisk := disk_of_plan hplan
  obtain ⟨claims, hregister⟩ := register_of_runs hdisk run
  have hidentified : ∀ p ∈ (accepted history).map Admitted.job, Identified disk search p := by
    intro p hp
    obtain ⟨ps, hway⟩ := hregister.exists_way hp
    exact hway.identified hplan hdown
  refine ⟨?_, ?_, ?_⟩
  · rintro p (hp | ⟨t, hp⟩)
    · exact hidentified p hp
    · obtain ⟨ps, hway⟩ := exists_way_of_refused hdisk run hp
      exact hway.identified hplan hdown
  · intro number held p kind rest hframe
    have hexpands : Expands plan p kind rest := onCourse_of_runs run _ hframe
    obtain ⟨-, matcher, -, rfl⟩ := exists_matcher_of_plan hplan
    have hdescends := hexpands.descends
    simp only [Examination.descends, Bool.and_eq_true, decide_eq_true_eq] at hdescends
    exact hdescends.2
  · -- what was examined are some of the jobs, and no two jobs have one key
    have hexamined : m.world.examined.Subperm ((accepted history).map Admitted.job) := by
      refine Multiset.coe_le.mp ?_
      rw [← jobs_of_runs run, add_assoc]
      exact Multiset.le_add_right _ _
    refine locations_nodup
      (fun p hp k hk => (hidentified p (hexamined.subset hp)).key_eq hk) ?_
    obtain ⟨ps, hperm, hsublist⟩ := hexamined
    exact (hperm.map _).nodup_iff.mp (hregister.accepted_nodup.sublist (hsublist.map _))

end Runs

/-- In `braided` a directory is met under two names and the root as a link in itself.  Four places
are examined, three of which lead somewhere, and to different locations. -/
theorem keys_identify_braided :
    ∃ history m, braidedSearch.plan braided.disk = .ok braidedPlan ∧ braided.disk.GoesDown ∧
      Runs (workload braidedPlan) true (braidedSearch.machine braided.disk []) history m ∧
      m.world.examined.length = 4 ∧
      (∀ p ∈ (accepted history).map Admitted.job, Identified braided.disk braidedSearch p) ∧
      (m.world.examined.filterMap fun p => (braided.disk.canonical p.path).toOption).Nodup := by
  have hrun := Machine.runs_settle (workload braidedPlan) 400
    (braidedSearch.machine braided.disk [])
  obtain ⟨hidentified, -, hnodup⟩ := keys_identify
    (show braidedSearch.plan braided.disk = .ok braidedPlan from rfl) braided_tidy.goesDown hrun
  exact ⟨_, _, rfl, braided_tidy.goesDown, hrun, rfl, fun p hp => hidentified p (.inl hp), hnodup⟩

end Search

end Frontier
