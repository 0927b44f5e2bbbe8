/-
# What is reported — no path twice, but for roots that are dangling links

What tells places apart is a key, and what is printed is a path.  A search
reports no path twice as long as two places with one path always have one key.
There are several ways to a key:

    a root, or a link, that leads somewhere       where it leads
    an entry that is no link                      the key of its directory, with its name
    a link in a directory, that leads nowhere     the same
    a root that leads nowhere                     the path as it was given

The first three agree where the disk knows where things are (`Way.mark_eq`).
The last one does not agree with the third: a dangling link that is a root is
found again by a search of the directory that it is in, under its path and with
another key, and is reported twice (`reports_twice`).

What can be reported goes with the jobs, so that each report is that of an
accepted job (`voices_of_runs`), and no two jobs have one key.
-/
import Frontier.Proofs.Search.JobCount
import Mathlib

namespace Frontier.Search

open Dispatcher
open Dispatcher.Machine (Runs History accepted)

variable {plan : Plan} {disk : Disk} {roots : List Path} {p q : Place} {ps qs : List Place}

/-! ## One path, one key -/

/-- What leads nowhere and is classified is a dangling link. -/
theorem eq_symlink_of_error {path : Path} {err : SystemError} {kind : EntryKind}
    (hkind : disk.kind path = .error err) (h : disk.classify path = .ok kind) :
    kind = .symlink := by
  rw [Disk.classify, hkind] at h
  dsimp only at h
  split at h <;> cases h
  rfl

/-- A dangling link on a way was listed by a directory, if no root is one. -/
theorem Way.exists_before (hroots : ∀ path ∈ roots, plan.disk.classify path ≠ .ok .symlink)
    (h : Way plan roots (p :: ps)) (hkind : plan.disk.classify p.path = .ok .symlink) :
    ∃ q qs, ps = q :: qs := by
  cases h with
  | root hp =>
      obtain ⟨path, hpath, rfl⟩ := exists_root_of_mem_keptRoots hp
      exact absurd hkind (hroots path hpath)
  | step => exact ⟨_, _, rfl⟩

theorem exists_toOption_iff {ε α : Type} {x : Except ε α} :
    (∃ a, x.toOption = some a) ↔ ∃ a, x = .ok a := by
  cases x <;> simp [Except.toOption]

section Located

variable (hlocated : plan.disk.Located (sites plan roots))
include hlocated

/-- Entries under one path that lead nowhere have one key. -/
theorem Way.mark_eq_of_error (hp : Way plan roots (p :: p' :: ps))
    (hq : Way plan roots (q :: q' :: qs)) (hcomponents : p.path.components = q.path.components)
    {err err' : SystemError} (hpkind : plan.disk.kind p.path = .error err)
    (hqkind : plan.disk.kind q.path = .error err') : p.mark = q.mark := by
  obtain ⟨listing, e, hlist, -, rfl, hpkey, hproper, -, hpat⟩ :=
    hp.exists_entry_of_error hlocated hpkind
  obtain ⟨_, e', -, -, rfl, hqkey, hproper', -, hqat⟩ := hq.exists_entry_of_error hlocated hqkind
  have hpaths : p'.path.components ++ [.name e.name] = q'.path.components ++ [.name e'.name] := by
    rw [← Path.components_join _ hproper, ← Path.components_join _ hproper']
    exact hcomponents
  obtain ⟨hdirs, hnames⟩ := List.append_inj' hpaths rfl
  have hdir : plan.disk.kind p'.path = .ok .dir := by
    cases hp with
    | step _ hchild _ _ => exact (mem_childrenOf_iff.mp hchild).1
  -- their directories are under one path, which is at one location however it is spelled
  have hat := hlocated.spelled hp.before.path_mem_sites hq.before.path_mem_sites hdirs hdir
  rw [hpat, hqat, Except.ok.injEq] at hat
  rw [Place.mark, Place.mark, hpkey, hqkey, Path.components_join _ hproper,
    Path.components_join _ hproper', hat, hnames]

/-- However the paths of a set are spelled, they lead to the same, if what they are can be found
out. -/
def SpelledAlike (disk : Disk) (S : Set Path) : Prop :=
  ∀ ⦃path path' : Path⦄ ⦃kind kind' : EntryKind⦄, path ∈ S → path' ∈ S →
    path.components = path'.components → disk.classify path = .ok kind →
      disk.classify path' = .ok kind' →
        (disk.canonical path).toOption = (disk.canonical path').toOption

/-- Places under one path have one key, if what they are can be found out and no root is a dangling
link. -/
theorem Way.mark_eq (hroots : ∀ path ∈ roots, plan.disk.classify path ≠ .ok .symlink)
    (hp : Way plan roots (p :: ps)) (hq : Way plan roots (q :: qs))
    (hcomponents : p.path.components = q.path.components)
    (hsame : (plan.disk.canonical p.path).toOption = (plan.disk.canonical q.path).toOption)
    {kind kind' : EntryKind} (hpclass : plan.disk.classify p.path = .ok kind)
    (hqclass : plan.disk.classify q.path = .ok kind') : p.mark = q.mark := by
  have hleads : (∃ kind, plan.disk.kind p.path = .ok kind) ↔
      ∃ kind, plan.disk.kind q.path = .ok kind := by
    rw [← hlocated.resolves hp.path_mem_sites, ← hlocated.resolves hq.path_mem_sites,
      ← exists_toOption_iff, ← exists_toOption_iff, hsame]
  cases hpkind : plan.disk.kind p.path with
  | ok k =>
      obtain ⟨k', hqkind⟩ := hleads.mp ⟨k, hpkind⟩
      rw [hp.canonical_eq hlocated hpkind, hq.canonical_eq hlocated hqkind] at hsame
      exact congrArg Path.components (Option.some.inj hsame)
  | error err =>
      cases hqkind : plan.disk.kind q.path with
      | ok k' =>
          obtain ⟨k, hok⟩ := hleads.mpr ⟨k', hqkind⟩
          cases hok.symm.trans hpkind
      | error err' =>
          obtain rfl := eq_symlink_of_error hpkind hpclass
          obtain rfl := eq_symlink_of_error hqkind hqclass
          obtain ⟨p', ps', rfl⟩ := hp.exists_before hroots hpclass
          obtain ⟨q', qs', rfl⟩ := hq.exists_before hroots hqclass
          exact hp.mark_eq_of_error hlocated hq hcomponents hpkind hqkind

end Located

/-! ## Reports go with the jobs -/

namespace Examination

variable {ex : Examination}

/-- A place of that kind is reported. -/
def reportsAs (plan : Plan) (p : Place) (kind : EntryKind) : Bool :=
  isCandidate plan p kind && plan.matcher (Entry.ofPath p.path kind p.depth) = .accept

/-- The paths that an examination may still report. -/
def voices (plan : Plan) : Examination → Multiset Path
  | arrive p | skip p | classify p => if reports plan p then {p.path} else 0
  | countKind p kind | list p kind | children p kind _ | prepare p kind _ _ | submit p kind _ _
  | judge p kind => if reportsAs plan p kind then {p.path} else 0
  | countMatch path | tellMatch path | keepMatch path => {path}
  | countFailure _ next | tellFailure _ next | keepFailure _ next => next.voices plan
  | close | breakOff _ | finish => 0

theorem voices_of_finish (hmove : move plan ex = .finish) : ex.voices plan = 0 := by
  cases makes_of_move hmove with
  | finish => rfl
  | pass p kind hnot => simp [voices, reportsAs, hnot]

theorem voices_afterVerdict_le (hcandidate : isCandidate plan p kind = true) :
    (afterVerdict p.path (plan.matcher (Entry.ofPath p.path kind p.depth))).voices plan ≤
      (judge p kind).voices plan := by
  cases hverdict : plan.matcher (Entry.ofPath p.path kind p.depth) with
  | accept => simp [afterVerdict, voices, reportsAs, hcandidate, hverdict]
  | reject | panic => exact zero_le

/-- What an examination that acts keeps, and may still report, it could report before. -/
theorem Acts.voices_le {r r' : Record} {next : Examination} (h : Acts plan r ex r' next) :
    (r'.paths : Multiset Path) + next.voices plan ≤ r.paths + ex.voices plan := by
  cases h with
  | skipFirst | skipNext | unclassified | breakMatch | discardMatch | breakFailure =>
      exact add_le_add le_rfl zero_le
  | @classified p kind hkind =>
      have hreports : reports plan p = reportsAs plan p kind := by
        rw [reports, hkind]
        rfl
      rw [voices, voices, hreports]
  | descend | stay =>
      rw [Record.countKind_eq]
      exact le_rfl
  | judge p kind hcandidate =>
      gcongr
      exact voices_afterVerdict_le hcandidate
  | keepMatch =>
      rw [← Multiset.coe_add, add_assoc]
      gcongr
      exact le_rfl
  | _ => exact le_rfl

end Examination

theorem exists_kind_of_reports (h : reports plan p = true) :
    ∃ kind, plan.disk.classify p.path = .ok kind := by
  unfold reports at h
  split at h
  · exact ⟨_, ‹_›⟩
  · cases h

/-- What may still be reported of the places that are examined or have a job. -/
def voices (plan : Plan) : Burden plan (Multiset Path) where
  body := Examination.voices plan
  offered _ := 0
  accepted p := if reports plan p then {p.path} else 0
  body_arrive _ := rfl
  body_prepare _ _ _ _ := rfl
  body_submit _ _ _ _ := (zero_add _).symm
  body_of_finish := Examination.voices_of_finish
  body_close := rfl
  body_breakOff _ := rfl

theorem voices_ignoresRefusal (plan : Plan) : (voices plan).IgnoresRefusal :=
  ⟨fun _ => rfl, fun _ _ _ => rfl⟩

/-- The places of accepted jobs that are reported. -/
def toReport (plan : Plan) (history : History Place) : List Place :=
  ((accepted history).map Admitted.job).filter (reports plan)

theorem sum_voices_accepted (ps : List Place) :
    (ps.map (voices plan).accepted).sum =
      ((ps.filter (reports plan)).map Place.path : Multiset Path) := by
  induction ps with
  | nil => rfl
  | cons p ps ih =>
      rw [List.map_cons, List.sum_cons, ih, List.filter_cons]
      by_cases hp : reports plan p = true
      · simp [voices, hp]
      · simp [voices, hp]

/-- What is reported, and what may still be, stays within what is to be reported of the accepted
jobs. -/
theorem voices_turn {n : Neighbours} {v v' : Record} {s s' : Shared Place} {f : SearchFrame}
    {fs below above rest : Multiset SearchFrame} {r r' : Option Result}
    {told told' : List (Occurrence Place)} {past : History Place}
    (h : (v.paths : Multiset Path) + (voices plan).total s (f ::ₘ (below + rest)) ≤
      (toReport plan past).map Place.path)
    (hturn : Turn (workload plan) n v s f v' s' fs r told)
    (hpasses : Passes r below above r' told')
    (hscripted : ∀ g ∈ f ::ₘ (below + rest), Scripted g) (t : ThreadId) :
    (v'.paths : Multiset Path) + (voices plan).total s' (fs + (above + rest)) ≤
      (toReport plan (past ++ (told ++ told').map (t, ·))).map Place.path := by
  rw [toReport, map_job_accepted, List.filter_append, List.map_append, ← Multiset.coe_add,
    ← sum_voices_accepted (acceptedIn _)]
  rcases (voices plan).step hturn hpasses hscripted (.inl (voices_ignoresRefusal plan)) with
    ⟨k, held, ex, next, others, hacts, rfl, hnone, hbody, hbody'⟩ | ⟨hrecord, hbalance⟩
  · rw [hnone, hbody']
    rw [hbody] at h
    calc (v'.paths : Multiset Path) + (next.voices plan + others)
        = v'.paths + next.voices plan + others := by rw [add_assoc]
      _ ≤ v.paths + ex.voices plan + others := add_le_add_left hacts.voices_le others
      _ = v.paths + (ex.voices plan + others) := add_assoc _ _ _
      _ ≤ _ := h
      _ = _ := (add_zero _).symm
  · have hoffered : ((acceptedIn (told ++ told')).map (voices plan).offered).sum = 0 :=
      List.sum_eq_zero (by simp [voices])
    rw [hoffered, add_zero] at hbalance
    have hpaths : v'.paths = v.paths := by rw [hrecord]
    rw [hpaths, hbalance, ← add_assoc]
    exact add_le_add_left h _

section Runs

variable {search : Search} {bystanders : List (List Bool)} {reliable : Bool}
  {m : Machine Place Examination Record} {history : History Place}

/-- Whatever is reported is so for a job that was accepted, and only once for each. -/
theorem voices_of_runs
    (run : Runs (workload plan) reliable (search.machine disk bystanders) history m) :
    (m.world.paths : Multiset Path) + (voices plan).total m.shared m.frames ≤
      (toReport plan history).map Place.path := by
  refine run.turn_induction
    (P := fun m past => (m.world.paths : Multiset Path) + (voices plan).total m.shared m.frames ≤
      (toReport plan past).map Place.path) ?_ ?_
  · rw [(voices plan).total_machine]
    have hnone : ((keptRoots disk search.roots).map (voices plan).offered).sum = 0 :=
      List.sum_eq_zero (by simp [voices])
    rw [hnone]
    exact le_rfl
  · intro n f fs below above rest r r' told told' past m₁ m₂ run₁ _ hbefore hafter _ hturn
      hpasses _ h
    have hscripted := scripted_of_runs run₁
    rw [hbefore] at h hscripted
    rw [hafter]
    exact voices_turn h hturn hpasses hscripted n.self

/-- Places with different keys are told apart by whatever decides the key. -/
theorem nodup_map_of_marks {α : Type} {g : Place → α} (hmarks : (ps.map Place.mark).Nodup)
    (hsame : ∀ p ∈ ps, ∀ q ∈ ps, g p = g q → p.mark = q.mark) : (ps.map g).Nodup :=
  hmarks.of_map.map_on fun p hp q hq heq =>
    List.inj_on_of_nodup_map hmarks hp hq (hsame p hp q hq heq)

/-- What tells apart the paths of places that are reported tells the reports apart. -/
theorem nodup_paths_of_runs (hlocated : plan.disk.Located (sites plan search.roots))
    (hroots : ∀ path ∈ search.roots, plan.disk.classify path ≠ .ok .symlink)
    (run : Runs (workload plan) reliable (search.machine plan.disk bystanders) history m)
    {α : Type} {g : Path → α} (hspelled : ∀ {path path' : Path}, g path = g path' →
      path.components = path'.components)
    (hsame : ∀ {path path' : Path} {kind kind' : EntryKind}, path ∈ sites plan search.roots →
      path' ∈ sites plan search.roots → g path = g path' → plan.disk.classify path = .ok kind →
        plan.disk.classify path' = .ok kind' →
          (plan.disk.canonical path).toOption = (plan.disk.canonical path').toOption) :
    (m.world.paths.map g).Nodup := by
  obtain ⟨claims, hregister⟩ := register_of_runs rfl run
  have hmarks : ((toReport plan history).map Place.mark).Nodup :=
    hregister.accepted_nodup.sublist (List.filter_sublist.map _)
  have hnodup : ((toReport plan history).map (g ∘ Place.path)).Nodup := by
    refine nodup_map_of_marks hmarks ?_
    intro p hp q hq heq
    obtain ⟨hpjob, hpreports⟩ := List.mem_filter.mp hp
    obtain ⟨hqjob, hqreports⟩ := List.mem_filter.mp hq
    obtain ⟨ps, hpway⟩ := hregister.exists_way hpjob
    obtain ⟨qs, hqway⟩ := hregister.exists_way hqjob
    obtain ⟨kind, hpkind⟩ := exists_kind_of_reports hpreports
    obtain ⟨kind', hqkind⟩ := exists_kind_of_reports hqreports
    exact hpway.mark_eq hlocated hroots hqway (hspelled heq)
      (hsame hpway.path_mem_sites hqway.path_mem_sites heq hpkind hqkind) hpkind hqkind
  have hle : (m.world.paths : Multiset Path) ≤ (toReport plan history).map Place.path :=
    (le_add_of_nonneg_right zero_le).trans (voices_of_runs run)
  refine Multiset.coe_nodup.mp (Multiset.nodup_of_le ?_ (Multiset.coe_nodup.mpr hnodup))
  rw [← List.map_map]
  exact Multiset.map_le_map hle

/-- A search whose roots are no dangling links reports no path twice.  Nor does it report two
spellings of one path, where it does not matter how a path is spelled. -/
theorem reports_once (hplan : search.plan disk = .ok plan)
    (hlocated : disk.Located (sites plan search.roots))
    (hroots : ∀ path ∈ search.roots, disk.classify path ≠ .ok .symlink)
    (run : Runs (workload plan) reliable (search.machine disk bystanders) history m)
    {results : Results} (hresult : outcome history m.world = some (.ok results)) :
    results.paths.Nodup ∧
      (SpelledAlike disk (sites plan search.roots) →
        (results.paths.map Path.components).Nodup) := by
  obtain rfl := disk_of_plan hplan
  obtain ⟨stats, heq, -⟩ := exists_results_of_outcome run hresult
  obtain rfl := Except.ok.inj heq
  constructor
  · rw [← List.map_id (resultsOf m.world stats).paths]
    refine nodup_paths_of_runs hlocated hroots run (congrArg Path.components) ?_
    intro path path' _ _ _ _ (heq : path = path') _ _
    rw [heq]
  · intro hspelled
    exact nodup_paths_of_runs hlocated hroots run id
      fun hpath hpath' heq hkind hkind' => hspelled hpath hpath' heq hkind hkind'

end Runs

/-- A search on two threads that keeps the paths it reports. -/
def keepingSearch (roots : List Path) : Search :=
  { Search.empty with roots := roots, threads := 2, keepsPaths := true }

def keepingPlan (disk : Disk) : Plan where
  disk := disk
  matcher := fun _ => .accept
  typeFilter := .any
  minDepth := 0
  maxDepth := deepest
  sink := none
  watchesFlag := false
  keepsPaths := true
  keepsFailures := false

/-- What two threads come to that take turns. -/
def keeping (disk : Disk) (roots : List Path) : Machine Place Examination Record × History Place :=
  ((keepingSearch roots).machine disk []).settle (workload (keepingPlan disk)) 400

theorem runs_keeping (disk : Disk) (roots : List Path) : Runs (workload (keepingPlan disk)) true
    ((keepingSearch roots).machine disk []) (keeping disk roots).2 (keeping disk roots).1 :=
  Machine.runs_settle _ _ _

theorem exists_results_of_map {α : Type} {o : Option (Except Failure Results)} {g : Results → α}
    {a : α} (h : (o.bind Except.toOption).map g = some a) :
    ∃ results, o = some (.ok results) ∧ g results = a := by
  rcases o with _ | _ | results
  · cases h
  · cases h
  · exact ⟨results, rfl, Option.some.inj h⟩

/-- Of `braided` four paths are reported, a dangling link among them. -/
theorem reports_once_braided :
    ∃ results, outcome (keeping braided.disk [⟨[114]⟩]).2
        (keeping braided.disk [⟨[114]⟩]).1.world = some (.ok results) ∧
      results.paths.length = 4 ∧ results.paths.Nodup ∧
        (results.paths.map Path.components).Nodup := by
  have hroots : ∀ path ∈ [⟨[114]⟩], braided.disk.classify path ≠ .ok .symlink := by decide +kernel
  have hpaths : ∀ path ∈ braidedPaths, ∀ path' ∈ braidedPaths,
      path.components = path'.components →
        (braided.disk.canonical path).toOption = (braided.disk.canonical path').toOption := by
    decide +kernel
  have hsites : sites (keepingPlan braided.disk) [⟨[114]⟩] ⊆ {p | p ∈ braidedPaths} :=
    braided_sites rfl
  have hended : ((outcome (keeping braided.disk [⟨[114]⟩]).2
      (keeping braided.disk [⟨[114]⟩]).1.world).bind Except.toOption).map (·.paths.length) =
        some 4 := by
    decide +kernel
  obtain ⟨results, hresult, hlength⟩ := exists_results_of_map hended
  have hplan : (keepingSearch [⟨[114]⟩]).plan braided.disk = .ok (keepingPlan braided.disk) := rfl
  obtain ⟨hnodup, hcomponents⟩ := reports_once hplan (braided_located.mono hsites) hroots
    (runs_keeping _ _) hresult
  exact ⟨results, hresult, hlength, hnodup, hcomponents fun path path' _ _ hpath hpath' heq _ _ =>
    hpaths path (hsites hpath) path' (hsites hpath') heq⟩

/-! ## Roots that are dangling links -/

/-- A directory `r` with a link `l` that leads nowhere. -/
def broken : Volume where
  top := .dir [([114], .dir [([108], .link [103])])]
  here := []

/-- A search of `r/l` and of `r` reports `r/l` twice. -/
theorem reports_twice :
    ∃ history m results,
      (keepingSearch [⟨[114, 47, 108]⟩, ⟨[114]⟩]).plan broken.disk =
        .ok (keepingPlan broken.disk) ∧
      Runs (workload (keepingPlan broken.disk)) true
        ((keepingSearch [⟨[114, 47, 108]⟩, ⟨[114]⟩]).machine broken.disk []) history m ∧
      outcome history m.world = some (.ok results) ∧
      results.paths = [⟨[114, 47, 108]⟩, ⟨[114]⟩, ⟨[114, 47, 108]⟩] ∧ ¬results.paths.Nodup := by
  have hended : ((outcome (keeping broken.disk [⟨[114, 47, 108]⟩, ⟨[114]⟩]).2
      (keeping broken.disk [⟨[114, 47, 108]⟩, ⟨[114]⟩]).1.world).bind Except.toOption).map
        (·.paths) = some [⟨[114, 47, 108]⟩, ⟨[114]⟩, ⟨[114, 47, 108]⟩] := by
    decide +kernel
  obtain ⟨results, hresult, hpaths⟩ := exists_results_of_map hended
  refine ⟨_, _, results, rfl, runs_keeping _ _, hresult, hpaths, ?_⟩
  rw [hpaths]
  decide

end Frontier.Search
