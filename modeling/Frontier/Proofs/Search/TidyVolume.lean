/-
# Tidy volumes — file trees that know where things are

That a disk knows where things are (`Disk.Located`) is what a search relies on
where there are links.  Volumes do: links may go round in circles, lead out of
what is searched, or lead nowhere.  All that is asked of a volume is that it is
*tidy*, which every file tree is that a system can hold: names fit, differ where
they stand together, and the current directory is one (`Volume.located`).

Limits of the system are another matter.  A path can be too long, or meet too
many links, where another one to the same directory does not; and it can lead to
where no path does that is short enough, so that it has no location.  `Within`
says of a set of paths that the limits do not decide where they lead.

Two things do not depend on limits: what has a location is found there
(`Tidy.truthful`), and what is listed is below what lists it (`Tidy.goesDown`).
Where all that a volume holds is at a short path, there is a location for all
that there is (`Tidy.canonical_iff`).  Even then limits may matter: in `tangled`,
which is small, a directory is come to on one path that meets too many links and
on another one that does not.
-/
import Frontier.Proofs.Search.Locations
import Frontier.Proofs.Search.Plain
import Frontier.Proofs.Search.Resolution
import Mathlib

namespace Frontier

/-! ## Tidy volumes -/

namespace Volume

/-- A name that a volume can hold. -/
structure Fit (name : OsText) : Prop extends Path.Proper name where
  zero_notMem : 0 ∉ name
  short : name.length ≤ longestName

instance (name : OsText) : Decidable (Fit name) :=
  decidable_of_iff (Path.Proper name ∧ 0 ∉ name ∧ name.length ≤ longestName)
    ⟨fun h => ⟨h.1, h.2.1, h.2.2⟩, fun h => ⟨h.toProper, h.zero_notMem, h.short⟩⟩

end Volume

open Volume (Fit)

/-- A file tree in which directories hold names that fit, each of them once. -/
inductive Node.Tidy : Node → Prop
  | file : Tidy .file
  | special : Tidy .special
  | link {target : OsText} : Tidy (.link target)
  | dir {entries : List (OsText × Node)} : (entries.map Prod.fst).Nodup →
      (∀ e ∈ entries, Fit e.1) → (∀ e ∈ entries, Tidy e.2) → Tidy (.dir entries)

namespace Node.Tidy

variable {n m : Node} {names : List OsText} {entries : List (OsText × Node)}

theorem dir_singleton {name : OsText} (hfit : Fit name) (h : n.Tidy) :
    (Node.dir [(name, n)]).Tidy :=
  .dir (List.nodup_singleton _) (List.forall_mem_singleton.mpr hfit)
    (List.forall_mem_singleton.mpr h)

theorem at? (h : n.Tidy) (hat : n.at? names = some m) : m.Tidy ∧ ∀ name ∈ names, Fit name := by
  induction names generalizing n with
  | nil =>
      rw [at?_nil] at hat
      cases hat
      exact ⟨h, nofun⟩
  | cons name names ih =>
      cases h with
      | file | special | link => cases hat
      | dir _ hfit hall =>
          rw [Node.at?] at hat
          split at hat
          · next k hfind =>
            have hmem := mem_of_find? hfind
            obtain ⟨hm, hnames⟩ := ih (hall _ hmem) hat
            exact ⟨hm, List.forall_mem_cons.mpr ⟨hfit _ hmem, hnames⟩⟩
          · cases hat

theorem find?_eq (h : (Node.dir entries).Tidy) {name : OsText} (hmem : (name, n) ∈ entries) :
    find? entries name = some n ∧ Fit name := by
  cases h with
  | dir hnodup hfit _ =>
      refine ⟨?_, hfit _ hmem⟩
      obtain ⟨m, hm⟩ : ∃ m, find? entries name = some m := by
        rw [find?, ← Option.isSome_iff_exists, Option.isSome_map, List.find?_isSome]
        exact ⟨_, hmem, beq_self_eq_true name⟩
      have heq := List.inj_on_of_nodup_map hnodup (mem_of_find? hm) hmem rfl
      rw [hm, (Prod.mk.inj heq).2]

end Node.Tidy

/-! ## The ways down a tree -/

namespace Node

mutual

/-- The ways down to all that is in a file tree, one for each entry. -/
def ways : Node → List (List OsText)
  | .dir entries => waysInto entries
  | _ => []

/-- The ways down through entries. -/
def waysInto : List (OsText × Node) → List (List OsText)
  | [] => []
  | (name, n) :: rest => [name] :: n.ways.map (name :: ·) ++ waysInto rest

end

theorem mem_waysInto {entries : List (OsText × Node)} {name : OsText} {n : Node}
    (h : (name, n) ∈ entries) :
    [name] ∈ waysInto entries ∧ ∀ way ∈ n.ways, name :: way ∈ waysInto entries := by
  induction entries with
  | nil => cases h
  | cons entry rest ih =>
      rw [waysInto]
      rcases List.mem_cons.mp h with rfl | h
      · exact ⟨by simp, fun way hway => by simp [hway]⟩
      · obtain ⟨hname, hbelow⟩ := ih h
        exact ⟨List.mem_append_right _ hname, fun way hway =>
          List.mem_append_right _ (hbelow way hway)⟩

/-- Whatever is found below the top of a file tree is at the end of one of its ways. -/
theorem mem_ways_of_at? {n m : Node} {names : List OsText} (hnames : names ≠ [])
    (h : n.at? names = some m) : names ∈ n.ways := by
  induction names generalizing n with
  | nil => exact absurd rfl hnames
  | cons name rest ih =>
      cases n with
      | dir entries =>
          rw [Node.at?] at h
          split at h
          · next k hfind =>
            obtain ⟨hname, hbelow⟩ := mem_waysInto (mem_of_find? hfind)
            rw [ways]
            cases rest with
            | nil => exact hname
            | cons next rest => exact hbelow _ (ih (List.cons_ne_nil _ _) h)
          · cases h
      | _ => cases h

end Node

namespace Volume

variable {v : Volume} {location l : List OsText} {entries : List (OsText × Node)} {p q : Path}

theorem segments_pathTo {name : OsText} {names : List OsText}
    (hnames : ∀ n ∈ name :: names, Path.Proper n) :
    Path.segments (pathTo (name :: names)).text = [] :: name :: names := by
  have htext (n : OsText) (ns : List OsText) : (pathTo (n :: ns)).text =
      Path.separator :: (n ++ ns.flatMap (Path.separator :: ·)) := rfl
  induction names generalizing name with
  | nil =>
      rw [htext, Path.segments, if_pos rfl]
      rw [List.flatMap_nil, List.append_nil,
        Path.segments_of_notMem (hnames name List.mem_cons_self).separator_notMem]
  | cons next names ih =>
      have hnext := ih fun n hn => hnames n (List.mem_cons_of_mem _ hn)
      rw [htext, Path.segments, if_pos rfl, List.cons_inj_right] at hnext
      rw [htext, Path.segments, if_pos rfl, List.flatMap_cons, List.cons_append,
        Path.segments_append, hnext,
        Path.segments_of_notMem (hnames name List.mem_cons_self).separator_notMem]
      rfl

theorem length_pathTo_le (names : List OsText) (name : OsText) :
    (pathTo names).text.length ≤ (pathTo (names ++ [name])).text.length := by
  cases names with
  | nil => simp [pathTo]
  | cons first rest => simp [pathTo]

/-- A tidy file tree whose current directory is one. -/
structure Tidy (v : Volume) : Prop where
  top : v.top.Tidy
  here : ∃ entries, v.top.at? v.here = some (.dir entries)

/-! ## Limits -/

/-- The limits of the system do not decide where a path leads: it is not too long, the location that
it leads to is not too far down, and if too many links are met on it, then links without end. -/
structure InReach (v : Volume) (p : Path) : Prop where
  short : p.text.length ≤ longestPath
  near {l : List OsText} : v.resolve true p = .ok l → (pathTo l).text.length ≤ longestPath
  endless {last : Bool} : v.resolve last p = .error .tooManyLinks →
    ∀ links, v.follow last links (origin v.here p.text) (Path.segments p.text) =
      .error .tooManyLinks

/-- So it is with the paths of a set, and with what directories there hold. -/
structure Within (v : Volume) (S : Set Path) : Prop where
  itself {p : Path} : p ∈ S → v.InReach p
  held {p : Path} {listing : Search.Listing} {e : DirEntry} : p ∈ S → v.disk.list p = .ok listing →
    .ok e ∈ listing → v.InReach (p.join e.name)

/-- The path is not too long, does not lead too far down, and does not meet too many links. -/
def Near (v : Volume) (p : Path) : Prop :=
  p.text.length ≤ longestPath ∧
    (∀ l ∈ (v.resolve true p).toOption, (pathTo l).text.length ≤ longestPath) ∧
      ∀ last, v.resolve last p ≠ .error .tooManyLinks

instance (v : Volume) (p : Path) : Decidable (v.Near p) :=
  inferInstanceAs (Decidable (_ ∧ (∀ l ∈ (v.resolve true p).toOption, _) ∧
    ∀ last, v.resolve last p ≠ .error .tooManyLinks))

theorem Near.inReach (h : v.Near p) : v.InReach p :=
  ⟨h.1, fun hl => h.2.1 _ (by rw [hl]; rfl), fun hlinks => absurd hlinks (h.2.2 _)⟩

/-- Of a list of paths it can be found out. -/
theorem within_of_list {paths : List Path}
    (h : ∀ p ∈ paths, v.Near p ∧ ∀ e ∈ v.disk.entries p, v.Near (p.join e.name)) :
    v.Within {p | p ∈ paths} where
  itself hp := (h _ hp).1.inReach
  held hp hlist he := ((h _ hp).2 _ ((Disk.mem_entries hlist).mpr he)).inReach

/-! ## What a volume answers -/

theorem pathTo?_eq_ok_iff {k : Path} :
    pathTo? l = .ok k ↔ (pathTo l).text.length ≤ longestPath ∧ k = pathTo l := by
  rw [pathTo?]
  split
  · next hshort => simp [hshort, eq_comm]
  · next hlong => simp [hlong]

/-- A path has a location where it leads somewhere that is not too far down. -/
theorem canonical_eq_ok_iff {k : Path} : v.disk.canonical p = .ok k ↔
    ∃ l, v.resolve true p = .ok l ∧ (pathTo l).text.length ≤ longestPath ∧ k = pathTo l := by
  have hbind : v.disk.canonical p = (v.resolve true p).bind pathTo? := rfl
  rw [hbind]
  cases v.resolve true p with
  | error e => exact ⟨nofun, fun ⟨_, h, _⟩ => nomatch h⟩
  | ok l =>
      constructor
      · intro h
        exact ⟨l, rfl, pathTo?_eq_ok_iff.mp h⟩
      · rintro ⟨l', heq, h⟩
        cases heq
        exact pathTo?_eq_ok_iff.mpr h

theorem canonical_congr (h : v.resolve true p = v.resolve true q) :
    v.disk.canonical p = v.disk.canonical q :=
  congrArg (Except.bind · pathTo?) h

theorem node_of_resolve {last : Bool} {n : Node} (h : v.resolve last p = .ok l)
    (hat : v.top.at? l = some n) : v.node last p = .ok n := by
  rw [node, h]
  simp [Bind.bind, Except.bind, hat]

theorem resolve_of_node {last : Bool} {n : Node} (h : v.node last p = .ok n) :
    ∃ l, v.resolve last p = .ok l ∧ v.top.at? l = some n := by
  rw [node] at h
  cases hresolve : v.resolve last p with
  | error e =>
      rw [hresolve] at h
      cases h
  | ok l =>
      rw [hresolve] at h
      cases hat : v.top.at? l with
      | none => simp [Bind.bind, Except.bind, hat] at h
      | some m =>
          refine ⟨l, rfl, ?_⟩
          simpa [Bind.bind, Except.bind, hat] using h

namespace Tidy

variable (h : v.Tidy)
include h

theorem exists_top : ∃ entries, v.top = .dir entries := by
  obtain ⟨entries, hat⟩ := h.here
  cases hhere : v.here with
  | nil =>
      rw [hhere, Node.at?_nil] at hat
      exact ⟨entries, Option.some.inj hat⟩
  | cons name names =>
      rw [hhere] at hat
      obtain ⟨entries', hat'⟩ : ∃ entries', v.top.at? [] = some (.dir entries') :=
        Node.exists_dir_of_at?_append (List.cons_ne_nil name names) hat
      rw [Node.at?_nil] at hat'
      exact ⟨entries', Option.some.inj hat'⟩

theorem settled_top : v.Settled [] := by
  obtain ⟨entries, htop⟩ := h.exists_top
  exact ⟨_, by rw [htop, Node.at?_nil], rfl⟩

/-- What is found is not a link, and at a location that names spell. -/
theorem settled (hp : v.resolve true p = .ok l) : v.Settled l ∧ ∀ n ∈ l, Fit n := by
  obtain ⟨-, -, hfollow⟩ := follow_of_resolve hp
  have horigin : v.Settled (origin v.here p.text) := by
    rw [origin]
    split
    · exact h.settled_top
    · obtain ⟨entries, hat⟩ := h.here
      exact ⟨_, hat, rfl⟩
  obtain ⟨n, hat, hlink⟩ := settled_of_follow h.settled_top horigin hfollow
  exact ⟨⟨n, hat, hlink⟩, (h.top.at? hat).2⟩

/-- A location is at itself. -/
theorem resolve_pathTo (hp : v.resolve true p = .ok l)
    (hshort : (pathTo l).text.length ≤ longestPath) : v.resolve true (pathTo l) = .ok l := by
  obtain ⟨⟨node, hat, hlink⟩, hfit⟩ := h.settled hp
  have hproper : ∀ n ∈ l, Path.Proper n := fun n hn => (hfit n hn).toProper
  cases l with
  | nil =>
      obtain ⟨entries, htop⟩ := h.exists_top
      have hdir : v.top.at? [] = some (.dir entries) := by rw [htop, Node.at?_nil]
      refine (resolve_eq (by decide) (List.cons_ne_nil _ _) hshort).trans ?_
      exact (follow_solid v true mostLinks [] [[]] []).trans (follow_end hdir)
  | cons name names =>
      have hzero : 0 ∉ (pathTo (name :: names)).text := by
        intro hmem
        obtain ⟨n, hn, hzero⟩ := List.mem_flatMap.mp hmem
        exact (hfit n hn).zero_notMem (List.mem_of_ne_of_mem (by decide) hzero)
      rw [resolve_eq hzero (List.cons_ne_nil _ _) hshort, segments_pathTo hproper]
      refine follow_of_arrived ?_
      rw [walk_blank (.inl rfl) (List.cons_ne_nil _ _)]
      exact walk_names (fun n hn => ⟨hproper n hn, (hfit n hn).short⟩) hat hlink

/-- What is listed is there, under a name that fits. -/
theorem exists_of_list {listing : Search.Listing} {e : DirEntry}
    (hlist : v.disk.list p = .ok listing) (he : .ok e ∈ listing) :
    ∃ l entries n, v.resolve true p = .ok l ∧ v.top.at? l = some (.dir entries) ∧
      Node.find? entries e.name = some n ∧ isLinkNode n = e.isLink ∧ Fit e.name := by
  have hlist' : (v.node true p).bind listNode = .ok listing := hlist
  cases hnode : v.node true p with
  | error err =>
      rw [hnode] at hlist'
      cases hlist'
  | ok n =>
      rw [hnode] at hlist'
      obtain ⟨l, hl, hat⟩ := resolve_of_node hnode
      cases n with
      | dir entries =>
          cases hlist'
          obtain ⟨⟨name, m⟩, hmem, heq⟩ := List.mem_map.mp he
          cases heq
          obtain ⟨hfind, hfit⟩ := (h.top.at? hat).1.find?_eq hmem
          exact ⟨l, entries, m, hl, hat, hfind, rfl, hfit⟩
      | _ => cases hlist'

end Tidy

theorem kind_of_resolve {n : Node} (h : v.resolve true p = .ok l) (hat : v.top.at? l = some n) :
    v.disk.kind p = .ok (kindOf n) := by
  have hmap : v.disk.kind p = (v.node true p).map kindOf := rfl
  rw [hmap, node_of_resolve h hat]
  rfl

theorem resolve_of_kind {kind : EntryKind} (h : v.disk.kind p = .ok kind) :
    ∃ l n, v.resolve true p = .ok l ∧ v.top.at? l = some n ∧ kindOf n = kind := by
  have hmap : (v.node true p).map kindOf = .ok kind := h
  cases hnode : v.node true p with
  | error e =>
      rw [hnode] at hmap
      cases hmap
  | ok n =>
      rw [hnode] at hmap
      cases hmap
      obtain ⟨l, hl, hat⟩ := resolve_of_node hnode
      exact ⟨l, n, hl, hat, rfl⟩

theorem node_congr {last : Bool} (h : v.resolve last p = v.resolve last q) :
    v.node last p = v.node last q := by
  rw [node, node, h]

theorem isLink_congr (h : v.node false p = v.node false q) : v.disk.isLink p = v.disk.isLink q := by
  rw [disk]
  dsimp only
  rw [h]

theorem pathTo_injective {names names' : List OsText} (h : ∀ n ∈ names, Path.Proper n)
    (h' : ∀ n ∈ names', Path.Proper n) (heq : pathTo names = pathTo names') : names = names' := by
  have hcomponents := congrArg Path.components heq
  rw [components_pathTo h, components_pathTo h', List.cons_inj_right] at hcomponents
  have hinj : Function.Injective Path.Component.name := fun _ _ h => Path.Component.name.inj h
  exact List.map_injective_iff.mpr hinj hcomponents

/-- In one directory a name resolves to the same, on whichever path the directory is. -/
theorem resolve_join_eq {last : Bool} {name : OsText} (hp : v.resolve true p = .ok l)
    (hq : v.resolve true q = .ok l) (hname : Fit name) (hpin : v.InReach (p.join name))
    (hqin : v.InReach (q.join name)) :
    v.resolve last (p.join name) = v.resolve last (q.join name) := by
  obtain ⟨used, -, hpon⟩ := resolve_join hp
  obtain ⟨used', -, hqon⟩ := resolve_join hq
  obtain ⟨hpleft, hpall⟩ := hpon last name hname.toProper hname.zero_notMem
  obtain ⟨hqleft, hqall⟩ := hqon last name hname.toProper hname.zero_notMem
  have hpleft := hpleft hpin.short
  have hqleft := hqleft hqin.short
  by_cases hpend : v.resolve last (p.join name) = .error .tooManyLinks
  · rw [hpend, hqleft, ← hpall]
    exact (hpin.endless hpend _).symm
  by_cases hqend : v.resolve last (q.join name) = .error .tooManyLinks
  · rw [hqend, hpleft, ← hqall]
    exact hqin.endless hqend _
  rw [hpleft] at hpend ⊢
  rw [hqleft] at hqend ⊢
  rcases Nat.le_total (mostLinks - used) (mostLinks - used') with hle | hle
  · exact (follow_mono hpend hle).symm
  · exact follow_mono hqend hle

namespace Tidy

variable (h : v.Tidy)
include h

/-- Paths with one key lead to one location. -/
theorem exists_of_canonical {k : Path} (hp : v.disk.canonical p = .ok k)
    (hq : v.disk.canonical q = .ok k) :
    ∃ l n, v.resolve true p = .ok l ∧ v.resolve true q = .ok l ∧ v.top.at? l = some n := by
  obtain ⟨l, hl, -, rfl⟩ := canonical_eq_ok_iff.mp hp
  obtain ⟨l', hl', -, heq⟩ := canonical_eq_ok_iff.mp hq
  obtain ⟨⟨n, hat, -⟩, hfit⟩ := h.settled hl
  obtain ⟨-, hfit'⟩ := h.settled hl'
  obtain rfl := pathTo_injective (fun n hn => (hfit n hn).toProper)
    (fun n hn => (hfit' n hn).toProper) heq
  exact ⟨l, n, hl, hl', hat⟩

theorem list_eq_of_canonical {k : Path} (hp : v.disk.canonical p = .ok k)
    (hq : v.disk.canonical q = .ok k) : v.disk.list p = v.disk.list q := by
  obtain ⟨l, n, hpl, hql, hat⟩ := h.exists_of_canonical hp hq
  have hlist (p : Path) : v.disk.list p = (v.node true p).bind listNode := rfl
  rw [hlist, hlist, node_congr (hpl.trans hql.symm)]

/-- What is listed and is no link is found where it is listed. -/
theorem resolve_join_of_list {listing : Search.Listing} {e : DirEntry}
    (hl : v.resolve true p = .ok l) (hlist : v.disk.list p = .ok listing) (he : .ok e ∈ listing)
    (hlink : e.isLink = false) {l' : List OsText} (hl' : v.resolve true (p.join e.name) = .ok l') :
    l' = l ++ [e.name] := by
  obtain ⟨l₀, entries, n, hl₀, hat, hfind, hn, hfit⟩ := h.exists_of_list hlist he
  obtain rfl : l = l₀ := Except.ok.inj (hl.symm.trans hl₀)
  -- from the directory there is one name to go, and it is not that of a link
  obtain ⟨used, hused, hon⟩ := resolve_join hl
  obtain ⟨-, hall⟩ := hon true e.name hfit.toProper hfit.zero_notMem
  obtain ⟨-, -, hfollow⟩ := follow_of_resolve hl'
  rw [← Nat.add_sub_cancel' hused, hall] at hfollow
  have hwalk : v.walk true l [e.name] = .ok (.arrived (l ++ [e.name])) :=
    walk_names (List.forall_mem_singleton.mpr ⟨hfit.toProper, hfit.short⟩)
      ((Node.at?_concat hat e.name).trans hfind) (hn.trans hlink)
  rw [follow_of_arrived hwalk] at hfollow
  cases hfollow
  rfl

/-- A tidy volume goes down, whatever links there are on a path. -/
theorem goesDown : v.disk.GoesDown := by
  intro path location listing e _ hlist he hlink hlocation
  obtain ⟨l, -, -, hl, -, -, -, hfit⟩ := h.exists_of_list hlist he
  obtain ⟨l', hl', hshort, rfl⟩ := canonical_eq_ok_iff.mp hlocation
  obtain rfl := h.resolve_join_of_list hl hlist he hlink hl'
  have hproper : ∀ name ∈ l, Path.Proper name := fun name hname =>
    ((h.settled hl).2 name hname).toProper
  exact ⟨pathTo l, canonical_eq_ok_iff.mpr ⟨l, hl, (length_pathTo_le l e.name).trans hshort, rfl⟩,
    (pathTo_join hproper hfit.toProper).symm⟩

/-- What is at a location is what each path leads to that has the location. -/
theorem truthful : v.disk.Truthful := by
  intro path location hlocation
  obtain ⟨l, hl, hshort, rfl⟩ := canonical_eq_ok_iff.mp hlocation
  have hitself : v.disk.canonical (pathTo l) = .ok (pathTo l) :=
    canonical_eq_ok_iff.mpr ⟨l, h.resolve_pathTo hl hshort, hshort, rfl⟩
  obtain ⟨⟨n, hat, -⟩, -⟩ := h.settled hl
  exact ⟨hitself, (kind_of_resolve (h.resolve_pathTo hl hshort) hat).trans
    (kind_of_resolve hl hat).symm, h.list_eq_of_canonical hitself hlocation⟩

/-- Where all that a volume holds is at a short path, what there is has a location. -/
theorem canonical_iff (hshort : ∀ way ∈ v.top.ways, (pathTo way).text.length ≤ longestPath) :
    (∃ k, v.disk.canonical p = .ok k) ↔ ∃ kind, v.disk.kind p = .ok kind := by
  constructor
  · rintro ⟨k, hk⟩
    obtain ⟨l, hl, -⟩ := canonical_eq_ok_iff.mp hk
    obtain ⟨⟨n, hat, -⟩, -⟩ := h.settled hl
    exact ⟨_, kind_of_resolve hl hat⟩
  · rintro ⟨kind, hkind⟩
    obtain ⟨l, n, hl, hat, -⟩ := resolve_of_kind hkind
    refine ⟨_, canonical_eq_ok_iff.mpr ⟨l, hl, ?_, rfl⟩⟩
    cases l with
    | nil => decide
    | cons name names => exact hshort _ (Node.mem_ways_of_at? (List.cons_ne_nil _ _) hat)

theorem faithful (hshort : ∀ way ∈ v.top.ways, (pathTo way).text.length ≤ longestPath) :
    v.disk.Faithful :=
  ⟨h.truthful, h.goesDown, fun _ => h.canonical_iff hshort⟩

end Tidy

/-- A tidy volume knows where things are, as far as its limits do not matter. -/
theorem located {S : Set Path} (h : v.Tidy) (hwithin : v.Within S) : v.disk.Located S := by
  constructor
  case resolves =>
    intro p hp
    constructor
    · rintro ⟨k, hk⟩
      obtain ⟨l, hl, -⟩ := canonical_eq_ok_iff.mp hk
      obtain ⟨⟨n, hat, -⟩, -⟩ := h.settled hl
      exact ⟨_, kind_of_resolve hl hat⟩
    · rintro ⟨kind, hkind⟩
      obtain ⟨l, n, hl, -⟩ := resolve_of_kind hkind
      exact ⟨_, canonical_eq_ok_iff.mpr ⟨l, hl, (hwithin.itself hp).near hl, rfl⟩⟩
  case normal =>
    intro p k hp hk
    obtain ⟨l, hl, -, rfl⟩ := canonical_eq_ok_iff.mp hk
    exact ⟨l, fun n hn => ((h.settled hl).2 n hn).toProper, rfl⟩
  case itself =>
    intro p k hp hk
    exact (h.truthful hk).1
  case same =>
    intro p q k hp hq hpk hqk
    obtain ⟨-, hpkind, hplist⟩ := h.truthful hpk
    obtain ⟨-, hqkind, hqlist⟩ := h.truthful hqk
    exact ⟨hpkind.symm.trans hqkind, hplist.symm.trans hqlist⟩
  case below =>
    intro p q k listing e hp hq hpk hqk hlist he
    obtain ⟨l, -, hpl, hql, -⟩ := h.exists_of_canonical hpk hqk
    obtain ⟨-, -, -, -, -, -, -, hfit⟩ := h.exists_of_list hlist he
    have hpin := hwithin.held hp hlist he
    have hqin := hwithin.held hq ((h.list_eq_of_canonical hpk hqk).symm.trans hlist) he
    have hresolve (last : Bool) : v.resolve last (p.join e.name) = v.resolve last (q.join e.name) :=
      resolve_join_eq hpl hql hfit hpin hqin
    exact ⟨canonical_congr (hresolve true),
      congrArg (Except.map kindOf) (node_congr (hresolve true)),
      isLink_congr (node_congr (hresolve false))⟩
  case entry =>
    intro p k listing e kind hp hk hlist he hlink hkind
    obtain ⟨l, hl, -, rfl⟩ := canonical_eq_ok_iff.mp hk
    obtain ⟨l', n, hl', -, -⟩ := resolve_of_kind hkind
    have hnear := (hwithin.held hp hlist he).near hl'
    obtain rfl := h.resolve_join_of_list hl hlist he hlink hl'
    obtain ⟨-, -, -, -, -, -, -, hfit⟩ := h.exists_of_list hlist he
    refine canonical_eq_ok_iff.mpr ⟨_, hl', hnear, ?_⟩
    exact pathTo_join (fun n hn => ((h.settled hl).2 n hn).toProper) hfit.toProper
  case proper =>
    intro p listing e hp hlist he
    obtain ⟨-, -, -, -, -, -, -, hfit⟩ := h.exists_of_list hlist he
    exact hfit.toProper
  case spelled =>
    intro p q hp hq hcomponents hdir
    obtain ⟨l, n, hl, hat, hn⟩ := resolve_of_kind hdir
    cases n with
    | dir entries =>
        have hql := resolve_of_components hcomponents (hwithin.itself hq).short hl hat
        exact canonical_congr (hql.trans hl.symm)
    | _ => cases hn

end Volume

/-! ## A volume with links -/

namespace Search

variable {plan : Plan} {p : Place} {ps : List Place}

/-- A directory `r` with a link `l` to itself, a link `m` to the directory `b`, which holds a file
`c`, that directory, and a link `x` that leads nowhere. -/
def braided : Volume where
  top := .dir [([114], .dir [([108], .link [46]), ([109], .link [98]),
    ([98], .dir [([99], .file)]), ([120], .link [121])])]
  here := []

/-- The places `r`, `r/m`, `r/b`, `r/x`, `r/m/c` and `r/b/c`, with their keys and depths. -/
def braidedPlaces : List Place :=
  [⟨⟨[114]⟩, ⟨[47, 114]⟩, 0⟩, ⟨⟨[114, 47, 109]⟩, ⟨[47, 114, 47, 98]⟩, 1⟩,
    ⟨⟨[114, 47, 98]⟩, ⟨[47, 114, 47, 98]⟩, 1⟩, ⟨⟨[114, 47, 120]⟩, ⟨[47, 114, 47, 120]⟩, 1⟩,
    ⟨⟨[114, 47, 109, 47, 99]⟩, ⟨[47, 114, 47, 98, 47, 99]⟩, 2⟩,
    ⟨⟨[114, 47, 98, 47, 99]⟩, ⟨[47, 114, 47, 98, 47, 99]⟩, 2⟩]

/-- Their paths and keys, and what `r` holds under its key. -/
def braidedPaths : List Path :=
  braidedPlaces.map Place.path ++ braidedPlaces.map Place.key ++
    [⟨[47, 114, 47, 108]⟩, ⟨[47, 114, 47, 109]⟩]

theorem braided_tidy : braided.Tidy where
  top := by
    refine .dir_singleton (by decide) (.dir (by decide) (by decide) ?_)
    simp only [List.forall_mem_cons]
    exact ⟨.link, .link, .dir_singleton (by decide) .file, .link, nofun⟩
  here := ⟨_, rfl⟩

theorem braided_located : braided.disk.Located {p | p ∈ braidedPaths} :=
  braided.located braided_tidy (Volume.within_of_list (by decide +kernel))

theorem mem_braidedPlaces (hdisk : plan.disk = braided.disk)
    (h : Way plan [⟨[114]⟩] (p :: ps)) : p ∈ braidedPlaces := by
  have hroots : ∀ p ∈ keptRoots braided.disk [⟨[114]⟩], p ∈ braidedPlaces := by decide +kernel
  have hclosed : ∀ p ∈ braidedPlaces, ∀ e ∈ braided.disk.entries p.path,
      p.ofEntry braided.disk e ∈ braidedPlaces ∨
        (p.ofEntry braided.disk e).mark ∈ rootMarks braided.disk [⟨[114]⟩] := by decide +kernel
  refine h.mem_of_closed ?_ ?_
  · rw [hdisk]
    exact hroots
  · rw [hdisk]
    exact hclosed

theorem braided_sites (hdisk : plan.disk = braided.disk) :
    sites plan [⟨[114]⟩] ⊆ {p | p ∈ braidedPaths} := by
  have hplaces : ∀ p ∈ braidedPlaces, p.path ∈ braidedPaths ∧ p.key ∈ braidedPaths := by decide
  rintro x ⟨p, ps, hway, rfl | rfl⟩
  · exact (hplaces p (mem_braidedPlaces hdisk hway)).1
  · exact (hplaces p (mem_braidedPlaces hdisk hway)).2

/-- A path to that name which goes twenty times through the link `z/x` on its way. -/
def roundabout (name : OsText) : OsText :=
  [46, 46, 47, 122] ++ (List.replicate 20 [47, 120]).flatten ++ [47, 46, 46, 47] ++ name

/-- A directory `z` with a link `x` to itself, a directory `a` with a link `l` to `b`, a directory
`b` with a file `c`, and a directory `r` with a link `l` to `a`. -/
def tangledEntries : List (OsText × Node) :=
  [([122], .dir [([120], .link [46])]), ([97], .dir [([108], .link (roundabout [98]))]),
    ([98], .dir [([99], .file)]), ([114], .dir [([108], .link (roundabout [97]))])]

/-- Either link `l` meets twenty others, so they cannot be followed both. -/
def tangled : Volume where
  top := .dir tangledEntries
  here := []

theorem tangledEntries_tidy : ∀ e ∈ tangledEntries, e.2.Tidy := by
  simp only [tangledEntries, List.forall_mem_cons]
  exact ⟨.dir_singleton (by decide) .link, .dir_singleton (by decide) .link,
    .dir_singleton (by decide) .file, .dir_singleton (by decide) .link, nofun⟩

theorem tangled_tidy : tangled.Tidy where
  top := .dir (by decide) (by decide) tangledEntries_tidy
  here := ⟨_, rfl⟩

theorem tangled_faithful : tangled.disk.Faithful := tangled_tidy.faithful (by decide)

end Search

end Frontier
