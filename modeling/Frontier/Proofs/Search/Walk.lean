/-
# The walk — what a search finds, said without jobs

On a disk without symbolic links a search is a walk down from its roots: keep
the first root of each key, go down from each of them through the directories
that can be listed, not below the greatest depth, and do not go into what is a
root itself.  `walk` is this definition.

A place is known by its *mark*, the components of its key.  A walk that goes
down from a root only extends the mark by names, and it stops short of the
other roots; so it comes to every place once, and two walks never to the same.

    mark of a child     = mark of the place, then its name          (`mark_ofEntry`)
    mark of a descendant = mark of the root, then the way down      (`WayDown`)
    no mark is met twice                                            (`reached_nodup`)
-/
import Frontier.Proofs.Search.Plain
import Mathlib

namespace Frontier

/-- What a place is known by. -/
def Place.mark (p : Place) : List Path.Component := p.key.components

namespace Search

/-- The failure that an attempt came to. -/
def failure? {α : Type} : Except Failure α → Option Failure
  | .ok _ => none
  | .error f => some f

section Definition

variable (plan : Plan)

/-- A part of the listing of a place: another place, or why it could not be read. -/
def partOf (p : Place) : Except SystemError DirEntry → Except Failure Place
  | .ok e => .ok (p.ofEntry plan.disk e)
  | .error e => .error (.ofSystem p.path e)

/-- What listing a place comes to. -/
def listed (p : Place) : List (Except Failure Place) :=
  match plan.disk.list p.path with
  | .ok listing => listing.map (partOf plan p)
  | .error e => [.error (.ofSystem p.path e)]

/-- What a place of that kind holds. -/
def holdings (p : Place) (kind : EntryKind) : List (Except Failure Place) :=
  if Examination.descends plan p kind then listed plan p else []

/-- What a place is, if that can be found out. -/
def kindOf? (p : Place) : Option EntryKind := (plan.disk.classify p.path).toOption

/-- The places that a place holds. -/
def childrenOf (p : Place) : List Place :=
  match plan.disk.classify p.path with
  | .ok kind => (holdings plan p kind).filterMap Except.toOption
  | .error _ => []

/-- What goes wrong with a place. -/
def troubles (p : Place) : List Failure :=
  match plan.disk.classify p.path with
  | .ok kind => (holdings plan p kind).filterMap failure?
  | .error f => [f]

/-- The place is reported: it is deep enough, of a kind that is reported, and its entry matches. -/
def reports (p : Place) : Bool :=
  match plan.disk.classify p.path with
  | .ok kind =>
      Examination.isCandidate plan p kind &&
        plan.matcher (Entry.ofPath p.path kind p.depth) = .accept
  | .error _ => false

/-- The places of a walk down from a place, so many levels deep, that does not go into what is
marked as a root. -/
def walk (roots : List (List Path.Component)) : Nat → Place → List Place
  | 0, p => [p]
  | levels + 1, p =>
      p :: ((childrenOf plan p).filter fun c => c.mark ∉ roots).flatMap (walk roots levels)

/-- The first place of each key. -/
def keepFirst : List Place → List Place
  | [] => []
  | p :: rest => p :: (keepFirst rest).filter fun q => q.mark ≠ p.mark

/-- The roots from which a search goes down: the first of each key. -/
def keptRoots (disk : Disk) (roots : List Path) : List Place :=
  keepFirst (roots.map (Place.root disk))

/-- The places that a search of these roots comes to. -/
def reached (roots : List Path) : List Place :=
  (keptRoots plan.disk roots).flatMap
    (walk plan ((keptRoots plan.disk roots).map Place.mark) plan.maxDepth)

end Definition

variable {plan : Plan} {roots : List (List Path.Component)} {p q c : Place} {kind : EntryKind}

/-! ## One level -/

theorem holdings_of_le (h : plan.maxDepth ≤ p.depth) : holdings plan p kind = [] := by
  have hlt : ¬p.depth < plan.maxDepth := Nat.not_lt.mpr h
  simp [holdings, Examination.descends, hlt]

theorem childrenOf_of_le (h : plan.maxDepth ≤ p.depth) : childrenOf plan p = [] := by
  unfold childrenOf
  split
  · rw [holdings_of_le h, List.filterMap_nil]
  · rfl

/-- A place is held by a place that is listed. -/
theorem exists_listing_of_mem_childrenOf (h : c ∈ childrenOf plan p) :
    ∃ listing e, plan.disk.list p.path = .ok listing ∧ .ok e ∈ listing ∧
      c = p.ofEntry plan.disk e ∧
        childrenOf plan p = listing.filterMap fun part =>
          part.toOption.map (p.ofEntry plan.disk) := by
  unfold childrenOf at h ⊢
  split at h
  · unfold holdings at h ⊢
    split at h
    · next hdescends =>
        rw [if_pos hdescends]
        unfold listed at h ⊢
        split at h
        · next listing hlist =>
            have hmap : (listing.map (partOf plan p)).filterMap Except.toOption =
                listing.filterMap fun part => part.toOption.map (p.ofEntry plan.disk) := by
              rw [List.filterMap_map]
              congr 1
              funext part
              cases part <;> rfl
            rw [hmap] at h ⊢
            obtain ⟨part, hpart, hc⟩ := List.mem_filterMap.mp h
            cases part with
            | error e => cases hc
            | ok e => exact ⟨listing, e, hlist, hpart, (Option.some.inj hc).symm, rfl⟩
        · simp [Except.toOption] at h
    · cases h
  · cases h

theorem depth_of_mem_childrenOf (h : c ∈ childrenOf plan p) : c.depth = p.depth + 1 := by
  obtain ⟨_, e, -, -, rfl, -⟩ := exists_listing_of_mem_childrenOf h
  rfl

theorem mark_ofEntry {e : DirEntry} (hlink : e.isLink = false) (hproper : Path.Proper e.name)
    (disk : Disk) (p : Place) : (p.ofEntry disk e).mark = p.mark ++ [.name e.name] := by
  have hkey : (p.ofEntry disk e).key = p.key.join e.name := by
    simp [Place.ofEntry, Place.child, Place.childKey, hlink]
  rw [Place.mark, hkey, Path.components_join p.key hproper, Place.mark]

/-- A child is a place with one name more. -/
theorem exists_name_of_mem_childrenOf (hplain : plan.disk.Plain) (h : c ∈ childrenOf plan p) :
    ∃ n, Path.Proper n ∧ c.mark = p.mark ++ [.name n] ∧ c.path = p.path.join n ∧
      c.depth = p.depth + 1 := by
  obtain ⟨listing, e, hlist, he, rfl, -⟩ := exists_listing_of_mem_childrenOf h
  have hproper := hplain.proper hlist he
  exact ⟨e.name, hproper, mark_ofEntry (hplain.not_link hlist he) hproper _ p, rfl, rfl⟩

theorem nodup_map_childrenOf (hplain : plan.disk.Plain) (p : Place) :
    ((childrenOf plan p).map Place.mark).Nodup := by
  cases hall : childrenOf plan p with
  | nil => exact List.nodup_nil
  | cons c rest =>
      have hc : c ∈ childrenOf plan p := by rw [hall]; exact List.mem_cons_self
      obtain ⟨listing, -, hlist, -, -, heq⟩ := exists_listing_of_mem_childrenOf hc
      rw [← hall, heq, List.map_filterMap]
      have hmarks : (listing.filterMap fun part =>
          (part.toOption.map (p.ofEntry plan.disk)).map Place.mark) =
          (namesOf listing).map fun n => p.mark ++ [.name n] := by
        rw [namesOf, List.map_filterMap]
        refine List.filterMap_congr ?_
        intro part hpart
        cases part with
        | error e => rfl
        | ok e =>
            exact congrArg some
              (mark_ofEntry (hplain.not_link hlist hpart) (hplain.proper hlist hpart) _ p)
      rw [hmarks]
      refine (hplain.names_nodup hlist).map ?_
      intro m n hmn
      simpa using hmn

/-! ## The way down -/

/-- A way of names leads from one place down to another, and on it there is no root. -/
structure WayDown (roots : List (List Path.Component)) (p q : Place) (names : List OsText) :
    Prop where
  mark : q.mark = p.mark ++ names.map .name
  path : q.path = p.path.joinAll names
  depth : q.depth = p.depth + names.length
  between : ∀ ns, ns ≠ [] → ns <+: names → p.mark ++ ns.map .name ∉ roots

theorem WayDown.refl (roots : List (List Path.Component)) (p : Place) : WayDown roots p p [] where
  mark := by simp
  path := rfl
  depth := rfl
  between ns hne hinit := absurd (List.prefix_nil.mp hinit) hne

/-- The way that begins with a child. -/
theorem WayDown.cons {n : OsText} {names : List OsText} (hmark : c.mark = p.mark ++ [.name n])
    (hpath : c.path = p.path.join n) (hdepth : c.depth = p.depth + 1) (hnew : c.mark ∉ roots)
    (h : WayDown roots c q names) : WayDown roots p q (n :: names) where
  mark := by
    rw [h.mark, hmark, List.append_assoc]
    rfl
  path := by
    rw [h.path, hpath]
    rfl
  depth := by
    rw [h.depth, hdepth, List.length_cons]
    omega
  between := by
    intro ns hne hinit
    cases ns with
    | nil => exact absurd rfl hne
    | cons m rest =>
        obtain ⟨rfl, hrest⟩ := List.cons_prefix_cons.mp hinit
        have heq : p.mark ++ (m :: rest).map .name = c.mark ++ rest.map .name := by
          rw [hmark, List.append_assoc]
          rfl
        rw [heq]
        by_cases hnil : rest = []
        · rw [hnil, List.map_nil, List.append_nil]
          exact hnew
        · exact h.between rest hnil hrest

/-- A walk goes down by names and stops short of roots. -/
theorem exists_wayDown (hplain : plan.disk.Plain) {levels : Nat}
    (h : q ∈ walk plan roots levels p) : ∃ names, WayDown roots p q names := by
  induction levels generalizing p with
  | zero =>
      rw [walk, List.mem_singleton] at h
      subst h
      exact ⟨[], .refl roots q⟩
  | succ levels ih =>
      rw [walk, List.mem_cons] at h
      rcases h with rfl | h
      · exact ⟨[], .refl roots q⟩
      · obtain ⟨c, hc, hq⟩ := List.mem_flatMap.mp h
        obtain ⟨hchild, hnew⟩ := List.mem_filter.mp hc
        obtain ⟨n, -, hmark, hpath, hdepth⟩ := exists_name_of_mem_childrenOf hplain hchild
        obtain ⟨names, hway⟩ := ih hq
        exact ⟨n :: names, hway.cons hmark hpath hdepth (by simpa using hnew)⟩

/-! ## No mark is met twice -/

theorem walk_nodup (hplain : plan.disk.Plain) (roots : List (List Path.Component)) (levels : Nat)
    (p : Place) : ((walk plan roots levels p).map Place.mark).Nodup := by
  induction levels generalizing p with
  | zero => exact List.nodup_singleton _
  | succ levels ih =>
      rw [walk, List.map_cons, List.nodup_cons, List.map_flatMap, List.nodup_flatMap]
      refine ⟨?_, fun c _ => ih c, ?_⟩
      · -- the marks further down are longer
        intro hmem
        obtain ⟨c, hc, hmark⟩ := List.mem_flatMap.mp hmem
        obtain ⟨q, hq, heq⟩ := List.mem_map.mp hmark
        obtain ⟨n, -, hmarkc, -, -⟩ :=
          exists_name_of_mem_childrenOf hplain (List.mem_of_mem_filter hc)
        obtain ⟨names, hway⟩ := exists_wayDown hplain hq
        have hlength := congrArg List.length (heq.symm.trans hway.mark)
        rw [hmarkc] at hlength
        simp only [List.length_append, List.length_singleton] at hlength
        omega
      · -- two children have marks of one length that differ
        have hpairwise := (nodup_map_childrenOf hplain p).sublist
          ((List.filter_sublist (p := fun c => decide (c.mark ∉ roots))).map Place.mark)
        refine (List.pairwise_map.mp hpairwise).imp_of_mem ?_
        intro c c' hc hc' hne x hx hx'
        obtain ⟨q, hq, rfl⟩ := List.mem_map.mp hx
        obtain ⟨q', hq', heq⟩ := List.mem_map.mp hx'
        obtain ⟨names, hway⟩ := exists_wayDown hplain hq
        obtain ⟨names', hway'⟩ := exists_wayDown hplain hq'
        obtain ⟨n, -, hmark, -, -⟩ :=
          exists_name_of_mem_childrenOf hplain (List.mem_of_mem_filter hc)
        obtain ⟨n', -, hmark', -, -⟩ :=
          exists_name_of_mem_childrenOf hplain (List.mem_of_mem_filter hc')
        rw [hway.mark, hway'.mark] at heq
        refine hne (List.append_inj_left heq.symm ?_)
        rw [hmark, hmark', List.length_append, List.length_append]
        rfl

theorem mem_of_mem_keepFirst {ps : List Place} (h : p ∈ keepFirst ps) : p ∈ ps := by
  induction ps with
  | nil => exact h
  | cons q rest ih =>
      rw [keepFirst, List.mem_cons] at h
      rcases h with rfl | h
      · exact List.mem_cons_self
      · exact List.mem_cons_of_mem _ (ih (List.mem_of_mem_filter h))

theorem keepFirst_nodup (ps : List Place) : ((keepFirst ps).map Place.mark).Nodup := by
  induction ps with
  | nil => exact List.nodup_nil
  | cons p rest ih =>
      rw [keepFirst, List.map_cons, List.nodup_cons]
      refine ⟨?_, ih.sublist (List.filter_sublist.map _)⟩
      intro hmem
      obtain ⟨q, hq, heq⟩ := List.mem_map.mp hmem
      have hne := (List.mem_filter.mp hq).2
      simp [heq] at hne

/-- Two walks that come to one mark go down from one root. -/
theorem mark_eq_of_wayDown {r r' : Place} {names names' : List OsText}
    (h : WayDown roots r q names) (h' : WayDown roots r' p names') (heq : q.mark = p.mark)
    (hr' : r'.mark ∈ roots) (hle : r.mark.length ≤ r'.mark.length) : r.mark = r'.mark := by
  have hmark : r.mark ++ names.map .name = r'.mark ++ names'.map .name := by
    rw [← h.mark, ← h'.mark, heq]
  have hinit : r.mark <+: r'.mark :=
    List.prefix_of_prefix_length_le ⟨_, hmark⟩ ⟨_, rfl⟩ hle
  obtain ⟨way, hway⟩ := hinit
  rw [← hway, List.append_assoc, List.append_cancel_left_eq] at hmark
  obtain ⟨ns, hns, hwayns⟩ : ∃ ns, ns <+: names ∧ way = ns.map .name := by
    have : way <+: names.map .name := ⟨_, hmark.symm⟩
    obtain ⟨ns, hinit, hmap⟩ := List.prefix_map_iff.mp this
    exact ⟨ns, hinit, hmap⟩
  by_cases hnil : ns = []
  · rw [hnil, List.map_nil] at hwayns
    rw [← hway, hwayns, List.append_nil]
  · refine absurd hr' ?_
    rw [← hway, hwayns]
    exact h.between ns hnil hns

/-- A search comes to no mark twice. -/
theorem reached_nodup (hplain : plan.disk.Plain) (rs : List Path) :
    ((reached plan rs).map Place.mark).Nodup := by
  rw [reached, List.map_flatMap, List.nodup_flatMap]
  refine ⟨fun r _ => walk_nodup hplain _ _ r, ?_⟩
  refine (List.pairwise_map.mp (keepFirst_nodup _)).imp_of_mem ?_
  intro r r' hr hr' hne x hx hx'
  obtain ⟨q, hq, rfl⟩ := List.mem_map.mp hx
  obtain ⟨q', hq', heq⟩ := List.mem_map.mp hx'
  obtain ⟨names, hway⟩ := exists_wayDown hplain hq
  obtain ⟨names', hway'⟩ := exists_wayDown hplain hq'
  rcases Nat.le_total r.mark.length r'.mark.length with hle | hle
  · exact hne (mark_eq_of_wayDown hway hway' heq.symm (List.mem_map_of_mem hr') hle)
  · exact hne (mark_eq_of_wayDown hway' hway heq (List.mem_map_of_mem hr) hle).symm

end Search

end Frontier
