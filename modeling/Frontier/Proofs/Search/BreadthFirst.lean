/-
# Breadth first — a search with one thread takes the shortest ways

The keys of a disk form a graph: a directory leads to the keys of what it holds.
Links make it a graph with cycles.  `distances disk roots mark` are the lengths
of all ways from the key of a root to a key, and a search with one thread finds
the least of them:

    it is met no later than on any of these ways         (`exists_of_steps`)
    the depth of a place is the length of one            (`Way.steps`)

So the keys that are examined are just those at a distance within the limit,
each once and at a depth that is its distance, in the order of their depths.
The sink is told of matches in this order (`told_of_runs`), because a job has
told of its match before the next place is looked at.

The graph is that of the keys, and a search goes along paths.  Where a path meets
too many links, or a sink breaks off, it may not come to what is near
(`search_falls_short`).
-/
import Frontier.Proofs.Search.Exhaustive
import Frontier.Proofs.Search.Levels
import Mathlib

namespace Frontier.Search

open Dispatcher
open Dispatcher.Machine (Runs History accepted)

variable {plan : Plan} {disk : Disk} {roots : List Path} {n : Nat} {k : Path} {p q c : Place}
  {ps : List Place} {mark : List Path.Component} {v v' : Record} {s s' : Shared Place}
  {f g : SearchFrame} {fs gs : Multiset SearchFrame} {r : Option Result}
  {told : List (Occurrence Place)}

/-! ## Distances -/

/-- A key that so many steps lead to, from the key of a root and from that of a directory to the key
of what it holds. -/
inductive Steps (disk : Disk) (roots : List Path) : Nat → Path → Prop
  | root {path : Path} : path ∈ roots → Steps disk roots 0 (Place.root disk path).key
  | held {n : Nat} {k : Path} {listing : Listing} {e : DirEntry} : Steps disk roots n k →
      disk.kind k = .ok .dir → disk.list k = .ok listing → .ok e ∈ listing →
        Steps disk roots (n + 1) (Place.childKey disk ⟨k, k, 0⟩ e)

/-- How many steps may lead to a key.  Keys are told apart by their components. -/
def distances (disk : Disk) (roots : List Path) (mark : List Path.Component) : Set Nat :=
  {n | ∃ k, Steps disk roots n k ∧ k.components = mark}

theorem Steps.keyed (h : Steps disk roots n k) : Keyed disk roots k := by
  induction h with
  | root hpath => exact .root hpath
  | held _ hdir hlist he ih => exact .held ih hdir hlist he

theorem Keyed.exists_steps (h : Keyed disk roots k) : ∃ n, Steps disk roots n k := by
  induction h with
  | root hpath => exact ⟨0, .root hpath⟩
  | held _ hdir hlist he ih =>
      obtain ⟨n, hn⟩ := ih
      exact ⟨n + 1, .held hn hdir hlist he⟩

/-- Some number of steps leads to each key, and to nothing else. -/
theorem mem_keys_iff : mark ∈ keys disk roots ↔ (distances disk roots mark).Nonempty := by
  constructor
  · rintro ⟨k, hk, rfl⟩
    obtain ⟨n, hn⟩ := hk.exists_steps
    exact ⟨n, k, hn, rfl⟩
  · rintro ⟨n, k, hk, rfl⟩
    exact ⟨k, hk.keyed, rfl⟩

/-- A place on a way is as many steps from a root as it is deep. -/
theorem Way.steps (hlocated : plan.disk.Located (sites plan roots)) (h : Way plan roots (p :: ps)) :
    Steps plan.disk roots p.depth p.key := by
  rw [h.depth_eq]
  induction ps generalizing p with
  | nil =>
      cases h with
      | root hp =>
          obtain ⟨path, hpath, rfl⟩ := exists_root_of_mem_keptRoots hp
          exact .root hpath
  | cons q qs ih =>
      obtain ⟨-, hdir, listing, e, hlist, he, hkey⟩ := h.exists_entry hlocated
      rw [hkey]
      exact .held (ih h.before) hdir hlist he

/-! ## Places that are closed level by level -/

/-- Places that cover the roots, with each place what it holds, and that at most one level below. -/
structure Spreads (plan : Plan) (roots : List Path) (ps : List Place) : Prop extends
    Covered plan roots ps where
  next : ∀ p ∈ ps, ∀ c ∈ childrenOf plan p, ∃ q ∈ ps, q.mark = c.mark ∧ q.depth ≤ p.depth + 1

namespace Spreads

variable (h : Spreads plan roots ps)
  (hlocated : plan.disk.Located (sites plan roots ∪ keySites plan.disk roots))
include h hlocated

/-- A key is met no later than any number of steps leads to it, if the limit allows for them. -/
theorem exists_of_steps (hlimit : n ≤ plan.maxDepth ∨ ∀ p ∈ ps, p.depth < plan.maxDepth)
    (hk : Steps plan.disk roots n k) : ∃ p ∈ ps, p.mark = k.components ∧ p.depth ≤ n := by
  induction hk with
  | @root path hpath =>
      obtain ⟨q, hq, hmark⟩ := exists_mem_keepFirst (List.mem_map_of_mem hpath)
      exact ⟨q, h.roots_subset q hq, hmark, (depth_of_mem_keptRoots hq).le⟩
  | @held n k listing e hk hdir hlist he ih =>
      obtain ⟨p, hp, hmark, hdepth⟩ := ih (hlimit.imp_left Nat.le_of_succ_le)
      have habove : p.depth < plan.maxDepth := by
        rcases hlimit with hlimit | hall
        · omega
        · exact hall p hp
      obtain ⟨before, hway, -⟩ := h.ways p hp
      have hchild : (⟨k, k, 0⟩ : Place).ofEntry plan.disk e ∈ childrenOf plan ⟨k, k, 0⟩ :=
        mem_childrenOf_iff.mpr ⟨hdir, Nat.zero_lt_of_lt habove, listing, e, hlist, he, rfl⟩
      obtain ⟨c, hc, heq⟩ :=
        (hway.alike_key hlocated hk.keyed hdir hmark).exists_child habove hchild
      obtain ⟨q, hq, hqmark, hqdepth⟩ := h.next p hp c hc
      exact ⟨q, hq, hqmark.trans heq, by omega⟩

/-- The depth of a place is the least number of steps to its key. -/
theorem isLeast (hp : p ∈ ps) : IsLeast (distances plan.disk roots p.mark) p.depth := by
  obtain ⟨before, hway, -⟩ := h.ways p hp
  refine ⟨⟨p.key, hway.steps (hlocated.mono Set.subset_union_left), rfl⟩, ?_⟩
  rintro n ⟨k, hk, hmark⟩
  by_contra hless
  have hdepth := hway.depth_le
  obtain ⟨q, hq, hqmark, hqdepth⟩ := h.exists_of_steps hlocated (.inl (by omega)) hk
  obtain rfl : q = p := List.inj_on_of_nodup_map h.nodup hq hp (hqmark.trans hmark)
  exact hless hqdepth

/-- The keys that were met are those at a distance within the limit. -/
theorem mem_marks_iff {limit : Option Nat} (hmax : plan.maxDepth = limit.getD deepest)
    (hfinite : limit = none → (keys plan.disk roots).encard ≤ deepest) :
    mark ∈ ps.map Place.mark ↔
      ∃ d, IsLeast (distances plan.disk roots mark) d ∧ ∀ most, limit = some most → d ≤ most := by
  constructor
  · intro hmark
    obtain ⟨p, hp, rfl⟩ := List.mem_map.mp hmark
    obtain ⟨before, hway, -⟩ := h.ways p hp
    refine ⟨p.depth, h.isLeast hlocated hp, ?_⟩
    rintro most rfl
    exact hway.depth_le.trans_eq hmax
  · rintro ⟨d, ⟨⟨k, hk, rfl⟩, -⟩, hmost⟩
    have hlimit : d ≤ plan.maxDepth ∨ ∀ p ∈ ps, p.depth < plan.maxDepth := by
      cases limit with
      | some most => exact .inl ((hmost most rfl).trans_eq hmax.symm)
      | none =>
          refine .inr fun p hp => ?_
          obtain ⟨before, hway, -⟩ := h.ways p hp
          refine hway.depth_lt (hlocated.mono Set.subset_union_left) ?_
          rw [hmax]
          exact hfinite rfl
    obtain ⟨p, hp, hmark, -⟩ := h.exists_of_steps hlocated hlimit hk
    exact List.mem_map.mpr ⟨p, hp, hmark⟩

end Spreads

/-! ## What the sink is told -/

/-- The sink may still be told of the place that the examination deals with. -/
def Examination.Untold : Examination → Prop
  | countKind .. | list .. | children .. | prepare .. | submit .. | judge .. | countMatch _
  | tellMatch _ => True
  | countFailure _ next | tellFailure _ next | keepFailure _ next => next.Untold
  | _ => False

/-- So it is with the examination of a frame. -/
def Untold : SearchFrame → Prop
  | .run _ _ ex => ex.Untold
  | .submitting .. => True
  | _ => False

/-- What a turn does to the matches that the sink was told of. -/
inductive TellChange (v : Record) (f : SearchFrame) (v' : Record) (fs : Multiset SearchFrame) :
    Prop
  | keeps : v'.toldMatches = v.toldMatches → v'.examined = v.examined →
      (∀ g ∈ fs, Untold g → Untold f) → TellChange v f v' fs
  | examines {k held : Nat} {p : Place} : f = .run k held (.classify p) →
      v'.toldMatches = v.toldMatches → v'.examined = v.examined ++ [p] → TellChange v f v' fs
  | tells {k held : Nat} {path : Path} : f = .run k held (.tellMatch path) →
      v'.toldMatches = v.toldMatches ++ [path] → v'.examined = v.examined →
      (∀ g ∈ fs, ¬Untold g) → TellChange v f v' fs

theorem Examination.Acts.tellChange {w w' : Record} {ex next : Examination}
    (h : Acts plan w ex w' next) (k held : Nat) :
    TellChange w (.run k held ex) w' {.run k held next} := by
  have hkeeps (htold : w'.toldMatches = w.toldMatches) (hexamined : w'.examined = w.examined)
      (hnext : next.Untold → ex.Untold) :
      TellChange w (.run k held ex) w' {.run k held next} :=
    .keeps htold hexamined (by simpa [Search.Untold] using hnext)
  cases h with
  | classified | unclassified => exact .examines rfl rfl rfl
  | tellMatch | breakMatch => exact .tells rfl rfl rfl (by simp [Search.Untold, Untold])
  | descend | stay =>
      exact hkeeps (by rw [Record.countKind_eq]) (by rw [Record.countKind_eq]) fun _ => trivial
  | breakFailure => exact hkeeps rfl rfl False.elim
  | passOver | look | skipFirst | skipNext | keepMatch | discardMatch | countFailure | muteFailure
  | tellFailure | keepFailure | discardFailure => exact hkeeps rfl rfl id
  | _ => exact hkeeps rfl rfl fun _ => trivial

theorem Turn.tellChange {n : Neighbours} (h : Turn (workload plan) n v s f v' s' fs r told)
    (hscripted : Scripted f) : TellChange v f v' fs := by
  cases h with
  | act hmove => exact (Examination.acts_of_move hmove v).tellChange _ _
  | wait hmove | ask hmove | dropInside hmove => cases Examination.makes_of_move hmove
  | closeInside hmove =>
      cases Examination.makes_of_move hmove
      exact .keeps rfl rfl (by simp [Untold, Examination.Untold])
  | submit hmove | cloneInside hmove =>
      cases Examination.makes_of_move hmove
      exact .keeps rfl rfl fun _ _ _ => trivial
  | pop hp => exact .keeps rfl rfl (by simp [Untold, workload, Examination.Untold])
  | finish | panic | shed =>
      exact .keeps rfl rfl (forall_mem_ended (fun _ h => absurd h id) fun h => absurd h id)
  | takeRegistry | join =>
      exact .keeps rfl rfl (forall_mem_joining (fun _ _ h => absurd h id) fun h => absurd h id)
  | touch =>
      cases OnScript.asks hscripted with
      | touch value values => exact .keeps rfl rfl (by simp [Untold])
  | _ => exact .keeps rfl rfl (by simp [Untold])

theorem Receives.untold {q : Result} (h : Receives q g gs r told) (hscripted : Scripted g) :
    ∀ f ∈ gs, Untold f → Untold g := by
  cases h with
  | submitBody => exact fun _ _ _ => trivial
  | startBody => exact absurd hscripted id
  | _ => simp [Untold]

theorem not_untold_of_idle (hbaton : baton f = 0) : ¬Untold f := by
  cases f with
  | run | submitting => cases slots_eq_zero hbaton
  | _ => exact id

/-- The sink was told of matches in the order in which their places were examined, and not yet of
the place that is dealt with. -/
def ToldInOrder (v : Record) (fs : Multiset SearchFrame) : Prop :=
  ∃ reported : List Place, v.toldMatches = reported.map Place.path ∧
    reported.Sublist v.examined ∧ ∀ f ∈ fs, Untold f → reported.Sublist v.examined.dropLast

theorem ToldInOrder.turn {below above rest : Multiset SearchFrame} {r' : Option Result}
    {told' : List (Occurrence Place)} (h : ToldInOrder v (f ::ₘ (below + rest)))
    (hchange : TellChange v f v' fs) (habout : About v.examined f)
    (hsingle : Single f (below + rest)) (hscripted : ∀ g ∈ below + rest, Scripted g)
    (hpasses : Passes r below above r' told') : ToldInOrder v' (fs + (above + rest)) := by
  obtain ⟨reported, htold, hexamined, huntold⟩ := h
  have hothers {P : Prop} (hP : ∀ g ∈ below + rest, Untold g → P) :
      ∀ g ∈ above + rest, Untold g → P :=
    hpasses.forall_others (fun hg hbelow hkeeps f hf hf' =>
      hkeeps (Receives.untold hg (hscripted _ (by simp [hbelow])) f hf hf')) hP
  cases hchange with
  | keeps htold' hexamined' hfs =>
      refine ⟨reported, htold'.trans htold, by rwa [hexamined'], ?_⟩
      intro g hg hg'
      rw [hexamined']
      rcases Multiset.mem_add.mp hg with hg | hg
      · exact huntold f (Multiset.mem_cons_self ..) (hfs g hg hg')
      · exact hothers (fun g hg => huntold g (Multiset.mem_cons_of_mem hg)) g hg hg'
  | @examines k held p hf htold' hexamined' =>
      refine ⟨reported, htold'.trans htold, ?_, ?_⟩
      · rw [hexamined']
        exact hexamined.trans (List.sublist_append_left _ _)
      · intro g _ _
        rw [hexamined', List.dropLast_concat]
        exact hexamined
  | @tells k held path hf htold' hexamined' hfs =>
      subst hf
      obtain ⟨p, hlast, rfl⟩ := Option.map_eq_some_iff.mp
        (show v.examined.getLast?.map Place.path = some path from habout)
      have hsplit : v.examined.dropLast ++ [p] = v.examined :=
        List.dropLast_append_getLast? p hlast
      refine ⟨reported ++ [p], ?_, ?_, ?_⟩
      · rw [htold', htold, List.map_append]
        rfl
      · rw [hexamined', ← hsplit]
        exact (huntold _ (Multiset.mem_cons_self ..) trivial).append_right [p]
      · intro g hg hg'
        rcases Multiset.mem_add.mp hg with hg | hg
        · exact absurd hg' (hfs g hg)
        · exact hothers (fun g hg hg' => absurd hg' (not_untold_of_idle (hsingle.slots rfl g hg)))
            g hg hg'

section Runs

variable {search : Search} {bystanders : List (List Bool)} {reliable : Bool}
  {m : Machine Place Examination Record} {history : History Place}

/-- As long as a search with one thread goes on, its sink is told of matches in order. -/
theorem told_of_runs (hone : search.threads = 1)
    (run : Runs (workload plan) reliable (search.machine disk bystanders) history m)
    (hgoes : m.world.interrupted = false) : ToldInOrder m.world m.frames := by
  refine goes_on_induction (P := fun m _ => ToldInOrder m.world m.frames) run hgoes
    ⟨[], rfl, .slnil, fun _ _ _ => List.nil_sublist _⟩ ?_
  intro n f fs below above rest r r' told told' past m₁ m₂ run₁ _ hgoes₁ _ hbefore hafter hturn
    hpasses _ h
  have hscripted := scripted_of_runs run₁
  have habout := about_of_runs hone run₁ hgoes₁
  rw [hbefore] at h hscripted habout
  rw [hafter]
  have hmem : f ∈ f ::ₘ (below + rest) := Multiset.mem_cons_self ..
  exact h.turn (Turn.tellChange hturn (hscripted f hmem)) (habout f hmem)
    (single_of_runs hone run₁ hbefore) (fun g hg => hscripted g (Multiset.mem_cons_of_mem hg))
    hpasses

/-- A search that was not cut short has examined what its places hold, level by level. -/
theorem spreads_of_runs (hone : search.threads = 1) (hpatient : plan.Patient)
    (run : Runs (workload plan) reliable (search.machine plan.disk bystanders) history m)
    (hgoes : m.world.interrupted = false) {result : Except Failure Results}
    (hresult : outcome history m.world = some result) :
    Spreads plan search.roots m.world.examined := by
  obtain ⟨stats, -, hdrained⟩ := exists_results_of_outcome run hresult
  obtain ⟨hq, -, -⟩ := counts_of_drained run hdrained
  exact ⟨(explored_of_runs hpatient rfl run hgoes hresult).toCovered, fun p hp c hc =>
    exists_child_of_runs hone hpatient rfl run hgoes hq hp hc⟩

/-- The places that were examined are those of a breadth-first search: each key at a distance within
the limit, once and at its distance, in the order of the distances.  The sink was told of matches in
this order. -/
structure BreadthFirst (disk : Disk) (search : Search) (record : Record) : Prop where
  mem_iff : ∀ mark, mark ∈ record.examined.map Place.mark ↔
    ∃ d, IsLeast (distances disk search.roots mark) d ∧
      ∀ most, search.maxDepth = some most → d ≤ most
  once : (record.examined.map Place.mark).Nodup
  depth_isLeast : ∀ p ∈ record.examined, IsLeast (distances disk search.roots p.mark) p.depth
  sorted : record.examined.Pairwise (·.depth ≤ ·.depth)
  told : ∃ reported : List Place, reported.Sublist record.examined ∧
    record.toldMatches = reported.map Place.path ∧ reported.Pairwise (·.depth ≤ ·.depth)

end Runs

/-- A search from `r` on one thread that tells a sink of the matches and does not go deeper than one
level. -/
def tellingSearch : Search :=
  { Search.empty with roots := [⟨[114]⟩], threads := 1, maxDepth := some 1, sink := some .quiet }

def tellingPlan : Plan where
  disk := braided.disk
  matcher := fun _ => .accept
  typeFilter := .any
  minDepth := 0
  maxDepth := 1
  sink := some .quiet
  watchesFlag := false
  keepsPaths := false
  keepsFailures := false

/-- A search with one thread was not cut short and came to its end, and has not examined a key at a
distance within the limit. -/
def FallsShort (search : Search) (disk : Disk) : Prop :=
  ∃ plan history m, search.threads = 1 ∧ search.plan disk = .ok plan ∧
    Runs (workload plan) true (search.machine disk []) history m ∧
    m.world.interrupted = false ∧ (outcome history m.world).isSome = true ∧
    ∃ mark d, IsLeast (distances disk search.roots mark) d ∧
      (∀ most, search.maxDepth = some most → d ≤ most) ∧
      mark ∉ m.world.examined.map Place.mark

theorem lone_fallsShort {sink : Option Sink} {k : Path} (hk : Keyed disk [⟨[114]⟩] k)
    (hgoes : (loneRun sink disk).1.world.interrupted = false)
    (hended : (outcome (loneRun sink disk).2 (loneRun sink disk).1.world).isSome = true)
    (hmissed : k.components ∉ (loneRun sink disk).1.world.examined.map Place.mark) :
    FallsShort (lone sink) disk := by
  have hsome : (distances disk [⟨[114]⟩] k.components).Nonempty := mem_keys_iff.mp ⟨k, hk, rfl⟩
  exact ⟨lonePlan sink disk, _, _, rfl, rfl, runs_loneRun _ _, hgoes, hended, k.components, _,
    ⟨Nat.sInf_mem hsome, fun _ hd => Nat.sInf_le hd⟩, nofun, hmissed⟩

end Frontier.Search
