/-
# Resolution — how a path leads along links

A volume resolves a path part by part.  What one part does is a *move*
(`Volume.move`): from a directory it goes on, meets a link, or fails, and a walk
is a sequence of moves (`walk_cons`).  From what a move does follows

    a walk goes on where its first part stopped       (`walk_append`)
    so does a path, with the links that are left      (`follow_append`)
    leave to follow more links changes nothing        (`follow_mono`)
    parts that stay where they are do not count       (`follow_solid`)
    what is found is there and is not a link          (`settled_of_follow`)

A name is therefore looked for in what the path before it leads to, and it does
not matter which path that is (`resolve_join`).
-/
import Frontier.Proofs.Search.PathJoin
import Frontier.Search.Volume
import Mathlib

namespace Frontier

/-! ## Going down a tree -/

namespace Node

@[simp] theorem at?_nil (n : Node) : n.at? [] = some n := by
  cases n <;> rfl

theorem at?_append (n : Node) (xs ys : List OsText) :
    n.at? (xs ++ ys) = (n.at? xs).bind (·.at? ys) := by
  induction xs generalizing n with
  | nil =>
      rw [at?_nil]
      rfl
  | cons name rest ih =>
      cases n with
      | dir entries =>
          rw [List.cons_append, at?, at?]
          cases find? entries name with
          | none => rfl
          | some m => exact ih m
      | _ => rfl

theorem at?_concat {n : Node} {location : List OsText} {entries : List (OsText × Node)}
    (h : n.at? location = some (.dir entries)) (name : OsText) :
    n.at? (location ++ [name]) = find? entries name := by
  rw [at?_append, h, Option.bind_some, at?]
  cases find? entries name with
  | none => rfl
  | some m => exact at?_nil m

/-- What goes on has a directory before it. -/
theorem exists_dir_of_at?_append {n m : Node} {xs ys : List OsText} (hys : ys ≠ [])
    (h : n.at? (xs ++ ys) = some m) : ∃ entries, n.at? xs = some (.dir entries) := by
  rw [at?_append] at h
  obtain ⟨k, hk, hm⟩ := Option.bind_eq_some_iff.mp h
  obtain ⟨name, rest, rfl⟩ := List.exists_cons_of_ne_nil hys
  cases k with
  | dir entries => exact ⟨entries, hk⟩
  | _ => cases hm

end Node

/-! ## Moves -/

namespace Volume

open Frontier.Path (Blank solid solid_append solid_solid solid_cons_of_blank
  solid_cons_of_not_blank)

variable {v : Volume} {last : Bool} {location l : List OsText} {part : OsText}
  {parts rest : List OsText} {n m : Nat} {entries : List (OsText × Node)}

/-- Where one part of a path leads. -/
inductive Move where
  | goes (location : List OsText)
  /-- Along a link that is there. -/
  | meets (target : OsText)

/-- What one part of a path does. -/
def move (v : Volume) (location : List OsText) (part : OsText) : Except SystemError Move :=
  match v.top.at? location with
  | some (.dir entries) =>
    if part = [] ∨ part = [Path.dot] then .ok (.goes location)
    else if part = [Path.dot, Path.dot] then .ok (.goes location.dropLast)
    else if longestName < part.length then .error .nameTooLong
    else
      match Node.find? entries part with
      | none => .error .missing
      | some (.link target) => .ok (.meets target)
      | some _ => .ok (.goes (location ++ [part]))
  | _ => .error .notDirectory

theorem move_not_dir (h : ∀ entries, v.top.at? location ≠ some (.dir entries)) :
    v.move location part = .error .notDirectory := by
  rw [move]
  split
  · next entries hat => exact absurd hat (h entries)
  · rfl

/-- A walk is made of such moves. -/
theorem walk_cons (v : Volume) (last : Bool) (location : List OsText) (part : OsText)
    (rest : List OsText) : v.walk last location (part :: rest) =
      match v.move location part with
      | .error e => .error e
      | .ok (.goes l) => v.walk last l rest
      | .ok (.meets target) =>
        if last || !rest.isEmpty then .ok (.atLink location target rest)
        else .ok (.arrived (location ++ [part])) := by
  by_cases hdir : ∃ entries, v.top.at? location = some (.dir entries)
  · obtain ⟨entries, hat⟩ := hdir
    simp only [walk, move, hat]
    by_cases hblank : part = [] ∨ part = [Path.dot]
    · rw [if_pos hblank, if_pos hblank]
    rw [if_neg hblank, if_neg hblank]
    by_cases hup : part = [Path.dot, Path.dot]
    · rw [if_pos hup, if_pos hup]
    rw [if_neg hup, if_neg hup]
    by_cases hlong : longestName < part.length
    · rw [if_pos hlong, if_pos hlong]
    rw [if_neg hlong, if_neg hlong]
    cases Node.find? entries part with
    | none => rfl
    | some n =>
        cases n with
        | link target =>
            cases rest with
            | nil => rfl
            | cons => simp
        | _ => rfl
  · rw [move_not_dir (not_exists.mp hdir), walk]
    split
    · next entries hat => exact absurd ⟨entries, hat⟩ hdir
    · rfl

theorem move_blank (hat : v.top.at? location = some (.dir entries)) (h : Blank part) :
    v.move location part = .ok (.goes location) := by
  simp only [move, hat]
  exact if_pos h

theorem move_name (hat : v.top.at? location = some (.dir entries)) (h : Path.Proper part)
    (hlength : part.length ≤ longestName) : v.move location part =
      match Node.find? entries part with
      | none => .error .missing
      | some (.link target) => .ok (.meets target)
      | some _ => .ok (.goes (location ++ [part])) := by
  simp only [move, hat]
  rw [if_neg (not_or.mpr ⟨h.ne_nil, h.ne_here⟩), if_neg h.ne_up, if_neg (Nat.not_lt.mpr hlength)]

/-- A path goes on only from a directory. -/
theorem exists_dir_of_move {move : Move} (h : v.move location part = .ok move) :
    ∃ entries, v.top.at? location = some (.dir entries) := by
  by_contra hnone
  rw [move_not_dir (not_exists.mp hnone)] at h
  cases h

/-- There is something there, and no link. -/
def Settled (v : Volume) (location : List OsText) : Prop :=
  ∃ n, v.top.at? location = some n ∧ isLinkNode n = false

theorem settled_of_move (h : v.move location part = .ok (.goes l)) : v.Settled l := by
  obtain ⟨entries, hat⟩ := exists_dir_of_move h
  simp only [move, hat] at h
  split_ifs at h with hblank hup hlong
  · cases h
    exact ⟨_, hat, rfl⟩
  · cases h
    rcases List.eq_nil_or_concat location with rfl | ⟨before, name, rfl⟩
    · exact ⟨_, hat, rfl⟩
    · rw [List.concat_eq_append] at hat ⊢
      obtain ⟨entries', hat'⟩ := Node.exists_dir_of_at?_append (List.cons_ne_nil _ _) hat
      rw [List.dropLast_concat]
      exact ⟨_, hat', rfl⟩
  · split at h
    · cases h
    · cases h
    · next n hlink hfind =>
      cases h
      refine ⟨n, (Node.at?_concat hat part).trans hfind, ?_⟩
      cases n with
      | link target => exact absurd rfl (hlink target)
      | _ => rfl

/-! ## Walks -/

/-- Where a walk stops that goes on after a first part of its path. -/
def Halt.andThen (v : Volume) (last : Bool) (rest : List OsText) :
    Halt → Except SystemError Halt
  | .arrived l => v.walk last l rest
  | .atLink directory target left => .ok (.atLink directory target (left ++ rest))

/-- A link that a path ends at is followed where more is behind it. -/
theorem walk_append (hrest : rest ≠ []) : v.walk last location (parts ++ rest) =
    (v.walk true location parts).bind (Halt.andThen v last rest) := by
  induction parts generalizing location with
  | nil => rfl
  | cons part parts ih =>
      rw [List.cons_append, walk_cons, walk_cons]
      cases v.move location part with
      | error e => rfl
      | ok move =>
          cases move with
          | goes l => exact ih
          | meets target =>
              have hmore : (parts ++ rest).isEmpty = false := by
                rw [List.isEmpty_eq_false_iff]
                exact List.append_ne_nil_of_right_ne_nil _ hrest
              simp only [hmore, Bool.not_false, Bool.or_true, Bool.true_or, if_true]
              rfl

theorem walk_append_of_atLink {directory left : List OsText} {target : OsText} (last : Bool)
    (hrest : rest ≠ []) (h : v.walk true location parts = .ok (.atLink directory target left)) :
    v.walk last location (parts ++ rest) = .ok (.atLink directory target (left ++ rest)) := by
  rw [walk_append hrest, h]
  rfl

theorem settled_of_walk (h : v.walk true location parts = .ok (.arrived l))
    (hsettled : v.Settled location) : v.Settled l := by
  induction parts generalizing location with
  | nil =>
      cases h
      exact hsettled
  | cons part parts ih =>
      rw [walk_cons] at h
      cases hmove : v.move location part with
      | error e =>
          rw [hmove] at h
          cases h
      | ok move =>
          rw [hmove] at h
          cases move with
          | goes l' => exact ih h (settled_of_move hmove)
          | meets target => cases h

theorem settled_of_atLink {directory left : List OsText} {target : OsText}
    (h : v.walk last location parts = .ok (.atLink directory target left)) :
    v.Settled directory := by
  induction parts generalizing location with
  | nil => cases h
  | cons part parts ih =>
      rw [walk_cons] at h
      cases hmove : v.move location part with
      | error e =>
          rw [hmove] at h
          cases h
      | ok move =>
          rw [hmove] at h
          cases move with
          | goes l' => exact ih h
          | meets target =>
              dsimp only at h
              split at h
              · cases h
                obtain ⟨entries, hat⟩ := exists_dir_of_move hmove
                exact ⟨_, hat, rfl⟩
              · cases h

/-- Names that lead to something lead there without a link on the way. -/
theorem walk_names {names : List OsText} {node : Node}
    (hfit : ∀ name ∈ names, Path.Proper name ∧ name.length ≤ longestName)
    (hat : v.top.at? (location ++ names) = some node) (hlink : isLinkNode node = false) :
    v.walk true location names = .ok (.arrived (location ++ names)) := by
  induction names generalizing location with
  | nil => rw [List.append_nil, walk]
  | cons name names ih =>
      obtain ⟨entries, hdir⟩ := Node.exists_dir_of_at?_append (List.cons_ne_nil _ _) hat
      obtain ⟨hproper, hlength⟩ := hfit name List.mem_cons_self
      rw [List.append_cons] at hat ⊢
      have hmove : v.move location name = .ok (.goes (location ++ [name])) := by
        rw [Node.at?_append, Node.at?_concat hdir] at hat
        obtain ⟨m, hfind, hrest⟩ := Option.bind_eq_some_iff.mp hat
        rw [move_name hdir hproper hlength, hfind]
        cases m with
        | link target =>
            cases names with
            | nil =>
                rw [Node.at?_nil] at hrest
                cases hrest
                cases hlink
            | cons => cases hrest
        | _ => rfl
      rw [walk_cons, hmove]
      exact ih (fun name hname => hfit name (List.mem_cons_of_mem _ hname)) hat

/-! ## Following links -/

section Follow

variable {directory left : List OsText} {target : OsText} {e : SystemError}

theorem follow_of_error (h : v.walk last location parts = .error e) :
    v.follow last n location parts = .error e := by
  rw [follow, h]

theorem follow_of_arrived (h : v.walk last location parts = .ok (.arrived l)) :
    v.follow last n location parts = .ok l := by
  rw [follow, h]

theorem follow_of_atLink (h : v.walk last location parts = .ok (.atLink directory target left)) :
    v.follow last (n + 1) location parts =
      v.follow last n (origin directory target) (Path.segments target ++ left) := by
  rw [follow, h]

theorem follow_zero_of_atLink
    (h : v.walk last location parts = .ok (.atLink directory target left)) :
    v.follow last 0 location parts = .error .tooManyLinks := by
  rw [follow, h]

/-- More is followed from where its first part leads, without the links that were followed. -/
theorem follow_append (h : v.follow true n location parts = .ok l) :
    ∃ used ≤ n, ∀ last m rest, rest ≠ [] →
      v.follow last (used + m) location (parts ++ rest) = v.follow last m l rest := by
  induction n, location, parts using follow.induct v true with
  | case1 n location parts e hwalk =>
      rw [follow_of_error hwalk] at h
      cases h
  | case2 n location parts l' hwalk =>
      rw [follow_of_arrived hwalk] at h
      cases h
      refine ⟨0, Nat.zero_le n, ?_⟩
      intro last m rest hrest
      have hon : v.walk last location (parts ++ rest) = v.walk last l rest := by
        rw [walk_append hrest, hwalk]
        rfl
      rw [Nat.zero_add, follow, follow, hon]
  | case3 location parts directory target left hwalk =>
      rw [follow_zero_of_atLink hwalk] at h
      cases h
  | case4 location parts directory target left hwalk n ih =>
      rw [follow_of_atLink hwalk] at h
      obtain ⟨used, hused, hmore⟩ := ih h
      refine ⟨used + 1, Nat.succ_le_succ hused, ?_⟩
      intro last m rest hrest
      have hon := walk_append_of_atLink last hrest hwalk
      rw [Nat.add_right_comm, follow_of_atLink hon, ← List.append_assoc]
      exact hmore last m rest hrest

/-- What fails, fails with more behind it. -/
theorem follow_append_of_error (hrest : rest ≠ []) (h : v.follow true n location parts = .error e) :
    v.follow last n location (parts ++ rest) = .error e := by
  induction n, location, parts using follow.induct v true with
  | case1 n location parts e' hwalk =>
      rw [follow_of_error hwalk] at h
      cases h
      refine follow_of_error ?_
      rw [walk_append hrest, hwalk]
      rfl
  | case2 n location parts l' hwalk =>
      rw [follow_of_arrived hwalk] at h
      cases h
  | case3 location parts directory target left hwalk =>
      rw [follow_zero_of_atLink hwalk] at h
      cases h
      have hon := walk_append_of_atLink last hrest hwalk
      exact follow_zero_of_atLink hon
  | case4 location parts directory target left hwalk n ih =>
      rw [follow_of_atLink hwalk] at h
      have hon := walk_append_of_atLink last hrest hwalk
      rw [follow_of_atLink hon, ← List.append_assoc]
      exact ih h

/-- With leave to follow more links a path leads to the same, unless they were too many before. -/
theorem follow_mono (h : v.follow last m location parts ≠ .error .tooManyLinks) (hmn : m ≤ n) :
    v.follow last n location parts = v.follow last m location parts := by
  induction m, location, parts using follow.induct v last generalizing n with
  | case1 m location parts e hwalk => rw [follow_of_error hwalk, follow_of_error hwalk]
  | case2 m location parts l hwalk => rw [follow_of_arrived hwalk, follow_of_arrived hwalk]
  | case3 location parts directory target left hwalk =>
      exact absurd (follow_zero_of_atLink hwalk) h
  | case4 location parts directory target left hwalk m ih =>
      obtain ⟨n, rfl⟩ : ∃ k, n = k + 1 := ⟨n - 1, by omega⟩
      rw [follow_of_atLink hwalk] at h
      rw [follow_of_atLink hwalk, follow_of_atLink hwalk]
      exact ih h (Nat.le_of_succ_le_succ hmn)

/-- What is found is there, and it is not a link. -/
theorem settled_of_follow (htop : v.Settled []) (hlocation : v.Settled location)
    (h : v.follow true n location parts = .ok l) : v.Settled l := by
  induction n, location, parts using follow.induct v true with
  | case1 n location parts e hwalk =>
      rw [follow_of_error hwalk] at h
      cases h
  | case2 n location parts l' hwalk =>
      rw [follow_of_arrived hwalk] at h
      cases h
      exact settled_of_walk hwalk hlocation
  | case3 location parts directory target left hwalk =>
      rw [follow_zero_of_atLink hwalk] at h
      cases h
  | case4 location parts directory target left hwalk n ih =>
      rw [follow_of_atLink hwalk] at h
      refine ih ?_ h
      rw [origin]
      split
      · exact htop
      · exact settled_of_atLink hwalk

end Follow

/-! ## Parts that do not count -/

/-- That it is a directory is what the next part asks as well. -/
theorem walk_blank (h : Blank part) (hrest : rest ≠ []) :
    v.walk last location (part :: rest) = v.walk last location rest := by
  obtain ⟨next, rest, rfl⟩ := List.exists_cons_of_ne_nil hrest
  by_cases hdir : ∃ entries, v.top.at? location = some (.dir entries)
  · obtain ⟨entries, hat⟩ := hdir
    rw [walk_cons, move_blank hat h]
  · rw [walk_cons, walk_cons, move_not_dir (not_exists.mp hdir), move_not_dir (not_exists.mp hdir)]

/-- Up to the last part it is the solid ones that count. -/
theorem walk_solid (v : Volume) (last : Bool) (location parts : List OsText) (final : OsText) :
    v.walk last location (parts ++ [final]) = v.walk last location (solid parts ++ [final]) ∨
      ∃ directory target left,
        v.walk last location (parts ++ [final]) =
            .ok (.atLink directory target (left ++ [final])) ∧
          v.walk last location (solid parts ++ [final]) =
            .ok (.atLink directory target (solid left ++ [final])) := by
  induction parts generalizing location with
  | nil => exact .inl rfl
  | cons part parts ih =>
      by_cases hblank : Blank part
      · rw [solid_cons_of_blank hblank, List.cons_append, walk_blank hblank (by simp)]
        exact ih location
      · rw [solid_cons_of_not_blank hblank, List.cons_append, List.cons_append, walk_cons,
          walk_cons]
        cases v.move location part with
        | error e => exact .inl rfl
        | ok move =>
            cases move with
            | goes l => exact ih l
            | meets target => exact .inr ⟨location, target, parts, by simp, by simp⟩

/-- However many links there are, what stands before the last part counts only if it goes
anywhere. -/
theorem follow_solid (v : Volume) (last : Bool) (n : Nat) (location parts : List OsText)
    (final : OsText) : v.follow last n location (parts ++ [final]) =
      v.follow last n location (solid parts ++ [final]) := by
  induction n generalizing location parts with
  | zero =>
      rcases walk_solid v last location parts final with heq | ⟨directory, target, left, h, h'⟩
      · rw [follow, follow, heq]
      · rw [follow_zero_of_atLink h, follow_zero_of_atLink h']
  | succ n ih =>
      rcases walk_solid v last location parts final with heq | ⟨directory, target, left, h, h'⟩
      · rw [follow, follow, heq]
      · rw [follow_of_atLink h, follow_of_atLink h', ← List.append_assoc, ← List.append_assoc,
          ih, ih _ (_ ++ solid left), solid_append, solid_append, solid_solid]

/-- A separator at the end asks for a directory and leads to nothing else. -/
theorem follow_end (hat : v.top.at? location = some (.dir entries)) :
    v.follow true n location [[]] = .ok location := by
  refine follow_of_arrived ?_
  rw [walk_cons, move_blank hat (.inl rfl)]
  rfl

theorem eq_of_follow_end (h : v.follow true n location [[]] = .ok l) : l = location := by
  by_cases hdir : ∃ entries, v.top.at? location = some (.dir entries)
  · obtain ⟨entries, hat⟩ := hdir
    rw [follow_end hat] at h
    cases h
    rfl
  · have hwalk : v.walk true location [[]] = .error .notDirectory := by
      rw [walk_cons, move_not_dir (not_exists.mp hdir)]
    rw [follow_of_error hwalk] at h
    cases h

/-! ## Resolution -/

section Resolve

variable {p q : Path}

theorem resolve_eq (hzero : 0 ∉ p.text) (htext : p.text ≠ [])
    (hshort : p.text.length ≤ longestPath) : v.resolve last p =
      v.follow last mostLinks (origin v.here p.text) (Path.segments p.text) := by
  rw [resolve, if_neg (by simpa using hzero), if_neg htext, if_neg (Nat.not_lt.mpr hshort)]

/-- What resolves is a text that can be resolved. -/
theorem follow_of_resolve (h : v.resolve last p = .ok l) : 0 ∉ p.text ∧ p.text ≠ [] ∧
    v.follow last mostLinks (origin v.here p.text) (Path.segments p.text) = .ok l := by
  rw [resolve] at h
  split_ifs at h with hzero htext hlong
  exact ⟨by simpa using hzero, htext, h⟩

/-- On directories only the components of a path count. -/
theorem resolve_of_components (hcomponents : p.components = q.components)
    (hshort : q.text.length ≤ longestPath) (h : v.resolve true p = .ok l)
    (hat : v.top.at? l = some (.dir entries)) : v.resolve true q = .ok l := by
  obtain ⟨hzero, htext, hfollow⟩ := follow_of_resolve h
  have hsolid : solid (Path.segments p.text) = solid (Path.segments q.text) := by
    rw [← Path.solid_components, ← Path.solid_components, hcomponents]
  have horigin : origin v.here p.text = origin v.here q.text := by
    have habsolute := Path.isAbsolute_eq_of_components hcomponents
    rw [Path.isAbsolute, Path.isAbsolute, Bool.eq_iff_iff, beq_iff_eq, beq_iff_eq] at habsolute
    rw [origin, origin, if_congr habsolute rfl rfl]
  have hzero' : 0 ∉ q.text := by
    rw [Path.mem_text_iff (by decide) (by decide), ← hsolid,
      ← Path.mem_text_iff (by decide) (by decide)]
    exact hzero
  have htext' : q.text ≠ [] := by
    intro hnil
    refine htext (Path.text_eq_nil_of_components (hcomponents.trans ?_))
    rw [Path.components, Path.isAbsolute, hnil]
    rfl
  rw [resolve_eq hzero' htext' hshort]
  -- with one more separator at the end both paths have the same solid parts before the last one
  obtain ⟨used, hused, hmore⟩ := follow_append hfollow
  have hblank := hmore true (mostLinks - used) [[]] (List.cons_ne_nil _ _)
  rw [Nat.add_sub_cancel' hused, follow_end hat, follow_solid, hsolid, ← follow_solid, horigin]
    at hblank
  cases hq : v.follow true mostLinks (origin v.here q.text) (Path.segments q.text) with
  | error e =>
      rw [follow_append_of_error (List.cons_ne_nil _ _) hq] at hblank
      cases hblank
  | ok l' =>
      obtain ⟨used', hused', hmore'⟩ := follow_append hq
      have hblank' := hmore' true (mostLinks - used') [[]] (List.cons_ne_nil _ _)
      rw [Nat.add_sub_cancel' hused', hblank] at hblank'
      rw [eq_of_follow_end hblank'.symm]

/-- A name in what a path leads to is looked for there, with the links that are left. -/
theorem resolve_join (h : v.resolve true p = .ok l) : ∃ used ≤ mostLinks, ∀ last name,
    Path.Proper name → 0 ∉ name →
      ((p.join name).text.length ≤ longestPath →
        v.resolve last (p.join name) = v.follow last (mostLinks - used) l [name]) ∧
      ∀ m, v.follow last (used + m) (origin v.here (p.join name).text)
        (Path.segments (p.join name).text) = v.follow last m l [name] := by
  obtain ⟨hzero, htext, hfollow⟩ := follow_of_resolve h
  obtain ⟨used, hused, hmore⟩ := follow_append hfollow
  refine ⟨used, hused, ?_⟩
  intro last name hproper hname
  have hon (m : Nat) : v.follow last (used + m) (origin v.here (p.join name).text)
      (Path.segments (p.join name).text) = v.follow last m l [name] := by
    obtain ⟨parts, hparts, hbefore⟩ := Path.segments_join htext hproper
    have hsolid : solid (Path.segments p.text) = solid parts := by
      rcases hbefore with hbefore | hbefore
      · rw [hbefore]
      · rw [hbefore, solid_append, solid_cons_of_blank (.inl rfl)]
        exact List.append_nil _
    rw [origin, Path.head?_join htext hproper, ← origin, hparts, follow_solid, ← hsolid,
      ← follow_solid]
    exact hmore last m [name] (List.cons_ne_nil _ _)
  refine ⟨?_, hon⟩
  intro hshort
  have hzero' : 0 ∉ (p.join name).text := by
    intro hmem
    exact (Path.mem_join (by decide) hmem).elim hzero hname
  rw [resolve_eq hzero' (Path.join_ne_nil hproper) hshort, ← hon, Nat.add_sub_cancel' hused]

end Resolve

end Volume

end Frontier
