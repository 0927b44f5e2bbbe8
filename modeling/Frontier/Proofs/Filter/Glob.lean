/-
# Globs — what the expression of a glob matches

A glob goes a long way round: its characters are quoted, the text is read as a
regular expression, the expression gets its meaning, and that is searched for in
a name.  At the end of the way stands what a glob says itself: its parts, one
after another, with anything in between that holds no line feed (`Spells`).

    the text is read as one construct for each character   (`run_globText`)
    and means a sequence of sets and repeated sets         (`ofText_anchoredGlob`)
    whose matches up to the end spell the glob             (`matches_globRegex_iff`)

The search is for a match anywhere, and the two assertions at the ends of the
expression make it one of the whole name.
-/
import Frontier.Filter.NamePattern
import Frontier.Proofs.Regex.Search
import Frontier.Proofs.Regex.Splicing
import Frontier.Proofs.Unicode.Folding
import Mathlib

namespace Frontier

/-- The name consists of the parts, each spelt up to `same`, with runs in between that hold no line
feed: it is `p₀ m₁ p₁ … mₖ pₖ`. -/
inductive Spells (same : Char → Char → Prop) : List (List Char) → List Char → Prop
  | last {p name : List Char} : List.Forall₂ same p name → Spells same [p] name
  | more {p a run name : List Char} {ps : List (List Char)} :
      List.Forall₂ same p a → '\n' ∉ run → Spells same ps name →
      Spells same (p :: ps) (a ++ run ++ name)

/-- The parts of a glob: what stands between its stars. -/
def globParts (glob : List Char) : List (List Char) := glob.splitOn '*'

/-! ## Spelling -/

section Spells

variable {same same' : Char → Char → Prop} {p name : List Char} {ps : List (List Char)} {c : Char}

theorem Spells.ne_nil (h : Spells same ps name) : ps ≠ [] := by
  cases h <;> simp

theorem Spells.mono (h : Spells same ps name) (hsame : ∀ a b, same a b → same' a b) :
    Spells same' ps name := by
  induction h with
  | last hp => exact .last (hp.imp hsame)
  | more hp hrun _ ih => exact .more (hp.imp hsame) hrun ih

theorem globParts_ne_nil (glob : List Char) : globParts glob ≠ [] :=
  List.splitOn_ne_nil '*' glob

theorem globParts_star (glob : List Char) : globParts ('*' :: glob) = [] :: globParts glob :=
  List.splitOn_cons_eq_if_modifyHead '*' glob

theorem globParts_cons (glob : List Char) (hc : c ≠ '*') :
    ∃ p ps, globParts glob = p :: ps ∧ globParts (c :: glob) = (c :: p) :: ps := by
  obtain ⟨p, ps, hparts⟩ := List.exists_cons_of_ne_nil (globParts_ne_nil glob)
  refine ⟨p, ps, hparts, ?_⟩
  rw [globParts, List.splitOn_cons_eq_if_modifyHead, if_neg (by simpa using hc), ← globParts, hparts,
    List.modifyHead_cons]

/-- A star between two globs stands between their parts. -/
theorem globParts_append (glob glob' : List Char) :
    globParts (glob ++ '*' :: glob') = globParts glob ++ globParts glob' := by
  induction glob with
  | nil => exact globParts_star glob'
  | cons c rest ih =>
      by_cases hstar : c = '*'
      · subst hstar
        rw [List.cons_append, globParts_star, ih, globParts_star, List.cons_append]
      · obtain ⟨p, ps, hparts, hcons⟩ := globParts_cons rest hstar
        obtain ⟨p', ps', hparts', hcons'⟩ := globParts_cons (rest ++ '*' :: glob') hstar
        rw [ih, hparts, List.cons_append] at hparts'
        cases hparts'
        rw [List.cons_append, hcons', hcons, List.cons_append]

theorem spells_nil_iff : Spells same [[]] name ↔ name = [] := by
  constructor
  · intro h
    cases h with
    | last hp => exact List.forall₂_nil_left_iff.mp hp
    | more _ _ hrest => cases hrest
  · rintro rfl
    exact .last .nil

/-- Before a part that is empty stands a run. -/
theorem spells_star_iff (hps : ps ≠ []) :
    Spells same ([] :: ps) name ↔
      ∃ run rest, name = run ++ rest ∧ '\n' ∉ run ∧ Spells same ps rest := by
  constructor
  · intro h
    cases h with
    | last => exact absurd rfl hps
    | more hp hrun hrest =>
        obtain rfl := List.forall₂_nil_left_iff.mp hp
        exact ⟨_, _, rfl, hrun, hrest⟩
  · rintro ⟨run, rest, rfl, hrun, hrest⟩
    exact .more (a := []) .nil hrun hrest

/-- A part with one character more is spelt with one character more. -/
theorem spells_cons_iff :
    Spells same ((c :: p) :: ps) name ↔
      ∃ d rest, name = d :: rest ∧ same c d ∧ Spells same (p :: ps) rest := by
  constructor
  · intro h
    cases h with
    | last hp =>
        obtain ⟨d, rest, hd, hrest, rfl⟩ := List.forall₂_cons_left_iff.mp hp
        exact ⟨d, rest, rfl, hd, .last hrest⟩
    | more hp hrun hmore =>
        obtain ⟨d, rest, hd, hrest, rfl⟩ := List.forall₂_cons_left_iff.mp hp
        exact ⟨d, _, rfl, hd, .more hrest hrun hmore⟩
  · rintro ⟨d, rest, rfl, hd, hrest⟩
    cases hrest with
    | last hp => exact .last (.cons hd hp)
    | more hp hrun hmore => exact .more (a := d :: _) (.cons hd hp) hrun hmore

/-- One list of parts after another is spelt with a run in between. -/
theorem spells_append_iff {qs : List (List Char)} (hps : ps ≠ []) (hqs : qs ≠ []) :
    Spells same (ps ++ qs) name ↔
      ∃ a run b, name = a ++ run ++ b ∧ Spells same ps a ∧ '\n' ∉ run ∧ Spells same qs b := by
  constructor
  · intro h
    induction ps generalizing name with
    | nil => exact absurd rfl hps
    | cons p ps ih =>
        rw [List.cons_append] at h
        generalize hall : ps ++ qs = all at h
        cases h with
        | last => exact absurd (List.append_eq_nil_iff.mp hall).2 hqs
        | more hp hrun hrest =>
            subst hall
            cases ps with
            | nil => exact ⟨_, _, _, rfl, .last hp, hrun, hrest⟩
            | cons p' ps =>
                obtain ⟨a, run, b, rfl, ha, hline, hb⟩ := ih (List.cons_ne_nil p' ps) hrest
                refine ⟨_, run, b, ?_, .more hp hrun ha, hline, hb⟩
                simp only [List.append_assoc]
  · rintro ⟨a, run, b, rfl, ha, hrun, hb⟩
    induction ha with
    | last hp => exact .more hp hrun hb
    | more hp hfirst hrest ih =>
        have hmore := Spells.more hp hfirst (ih hrest.ne_nil)
        simp only [List.append_assoc] at hmore ⊢
        exact hmore

/-- A star alone stands for what holds no line feed. -/
theorem spells_star_alone_iff : Spells same (globParts ['*']) name ↔ '\n' ∉ name := by
  rw [globParts_star, spells_star_iff (globParts_ne_nil [])]
  constructor
  · rintro ⟨run, rest, rfl, hrun, hrest⟩
    rw [spells_nil_iff.mp hrest, List.append_nil]
    exact hrun
  · intro hname
    exact ⟨name, [], (List.append_nil name).symm, hname, spells_nil_iff.mpr rfl⟩

end Spells

namespace Regex

/-! ## Reading the text of a glob -/

namespace Reading

variable {r : Reading} {rest : List Char} {c : Char}

/-- A character without a meaning of its own is read as itself. -/
theorem step_plain (hverbose : r.verbose = false) (hleft : r.left = c :: rest)
    (hc : c ∉ metaChars) : r.step = .ok (some (r.push (.literal ⟨c, false⟩) rest)) := by
  simp only [metaChars, List.mem_cons, List.not_mem_nil, or_false, not_or] at hc
  simp only [step, hverbose, skip, hleft, Bool.false_eq_true, if_false]
  split <;> simp_all

/-- Any character that has a meaning of its own loses it behind a backslash. -/
theorem escape_metaChar (hc : c ∈ metaChars) :
    escape false (c :: rest) = .ok (.literal ⟨c, false⟩, rest) := by
  have hchecked : (metaChars.all fun c => !c.isDigit && standsForItself c &&
      decide (c ∉ ['x', 'u', 'U', 'p', 'P', 'b'])) = true := by
    decide
  have hc' := List.all_eq_true.mp hchecked c hc
  simp only [Bool.and_eq_true, Bool.not_eq_true', decide_eq_true_eq, List.mem_cons,
    List.not_mem_nil, or_false, not_or] at hc'
  obtain ⟨⟨hdigit, hself⟩, hx, hu, hU, hp, hP, hb⟩ := hc'
  rw [escape, if_neg (by simp [hdigit]), if_neg hx, if_neg hu, if_neg hU, if_neg hp,
    if_neg hP, if_neg hb, if_pos hself]

theorem step_quoted (hverbose : r.verbose = false) (hleft : r.left = '\\' :: c :: rest)
    (hc : c ∈ metaChars) : r.step = .ok (some (r.push (.literal ⟨c, false⟩) rest)) := by
  simp only [step, hverbose, skip, hleft, Bool.false_eq_true, if_false]
  rw [escape_metaChar hc]
  rfl

end Reading

/-- What the text of a glob is read as, from a point of the glob on. -/
def globExprs : List Char → List Expr
  | [] => []
  | '*' :: rest => .repetition 0 none .dot :: globExprs rest
  | c :: rest => .literal ⟨c, false⟩ :: globExprs rest

theorem globExprs_cons {c : Char} (hc : c ≠ '*') (rest : List Char) :
    globExprs (c :: rest) = .literal ⟨c, false⟩ :: globExprs rest := by
  rw [globExprs]
  simpa using hc

theorem globText_cons {c : Char} (hc : c ≠ '*') (rest : List Char) :
    globText (c :: rest) =
      if c ∈ metaChars then '\\' :: c :: globText rest else c :: globText rest := by
  rw [globText]
  simpa using hc

/-- No text of a glob begins with a question mark, so the star before it keeps its meaning. -/
theorem dropLazyMark_globText (glob : List Char) :
    dropLazyMark (globText glob ++ ['$']) = globText glob ++ ['$'] := by
  cases glob with
  | nil => rfl
  | cons c rest =>
      by_cases hstar : c = '*'
      · subst hstar
        rfl
      · rw [globText_cons hstar]
        split
        · rfl
        · next hc =>
            rw [List.cons_append, dropLazyMark]
            rintro rest' heq
            obtain ⟨rfl, -⟩ := List.cons.inj heq
            exact hc (by decide)

/-- From any point on, the text of a glob is read as one construct for each character. -/
theorem run_globText (glob : List Char) (parts : List Expr) :
    (Reading.mk false [] parts [] (globText glob ++ ['$'])).run =
      .ok (.ofParts (parts.reverse ++ (globExprs glob ++ [.anchor .lineEnd]))) := by
  induction glob generalizing parts with
  | nil =>
      have hend : (Reading.mk false [] parts [] ['$']).run =
          (Reading.mk false [] (.anchor .lineEnd :: parts) [] []).run :=
        Reading.run_of_step rfl Nat.zero_lt_one
      have hdone : (Reading.mk false [] (.anchor .lineEnd :: parts) [] []).run =
          (Reading.mk false [] (.anchor .lineEnd :: parts) [] []).finish :=
        Reading.run_of_done rfl
      rw [globText, List.nil_append, hend, hdone, globExprs, List.nil_append,
        ← List.reverse_cons]
      rfl
  | cons c rest ih =>
      by_cases hstar : c = '*'
      · subst hstar
        have hdot : (Reading.mk false [] parts [] (globText ('*' :: rest) ++ ['$'])).run =
            (Reading.mk false [] (.dot :: parts) [] ('*' :: (globText rest ++ ['$']))).run :=
          Reading.run_of_step rfl (Nat.lt_succ_self _)
        have hrepeat :
            (Reading.mk false [] (.dot :: parts) [] ('*' :: (globText rest ++ ['$']))).run =
              (Reading.mk false [] (.repetition 0 none .dot :: parts) []
                (dropLazyMark (globText rest ++ ['$']))).run :=
          Reading.run_of_step rfl (by rw [dropLazyMark_globText]; exact Nat.lt_succ_self _)
        rw [hdot, hrepeat, dropLazyMark_globText, ih, List.reverse_cons, List.append_assoc]
        rfl
      · have hread : (Reading.mk false [] parts [] (globText (c :: rest) ++ ['$'])).run =
            (Reading.mk false [] (.literal ⟨c, false⟩ :: parts) [] (globText rest ++ ['$'])).run := by
          rw [globText_cons hstar]
          split
          · next hc => exact Reading.run_of_step (Reading.step_quoted rfl rfl hc) (by simp)
          · next hc => exact Reading.run_of_step (Reading.step_plain rfl rfl hc) (by simp)
        rw [hread, ih, globExprs_cons hstar, List.reverse_cons, List.append_assoc]
        rfl

theorem depths_globExprs (glob : List Char) :
    Expr.depths (globExprs glob ++ [.anchor .lineEnd]) ≤ 1 := by
  induction glob with
  | nil => decide
  | cons c rest ih =>
      by_cases hstar : c = '*'
      · subst hstar
        exact max_le le_rfl ih
      · rw [globExprs_cons hstar]
        exact max_le (Nat.zero_le 1) ih

/-- The expression of a glob is the sequence of its constructs between two assertions. -/
theorem ofText_glob (glob : List Char) :
    Expr.ofText (anchoredGlob glob) =
      .ok (.concat (.anchor .lineStart :: (globExprs glob ++ [.anchor .lineEnd]))) := by
  have hstart : (Reading.start (anchoredGlob glob)).run =
      (Reading.mk false [] [.anchor .lineStart] [] (globText glob ++ ['$'])).run :=
    Reading.run_of_step rfl (Nat.lt_succ_self _)
  have hdepths := depths_globExprs glob
  obtain ⟨e, es, hes⟩ : ∃ e es, globExprs glob ++ [Expr.anchor .lineEnd] = e :: es :=
    List.exists_cons_of_ne_nil (by simp)
  rw [hes] at hdepths
  have hdepth : (Expr.concat (.anchor .lineStart :: e :: es)).depth ≤ nestLimit := by
    have heq : (Expr.concat (.anchor .lineStart :: e :: es)).depth =
        max 0 (Expr.depths (e :: es)) + 1 := rfl
    rw [heq, nestLimit]
    omega
  rw [Expr.ofText, hstart, run_globText, hes]
  exact if_pos hdepth

/-! ## Its meaning -/

/-- The set that a character of a glob stands for. -/
def letterSet (ignoreCase : Bool) (c : Char) : CharSet :=
  if ignoreCase then .folded (.single c) else .single c

/-- What a star stands for. -/
def anyRun : Regex := .repeated 0 none (.one (.complement (.single '\n')))

/-- What a glob means, from a point on. -/
def globRegex (ignoreCase : Bool) : List Char → Regex
  | [] => .seq (.look .textEnd) .empty
  | '*' :: rest => .seq anyRun (globRegex ignoreCase rest)
  | c :: rest => .seq (.one (letterSet ignoreCase c)) (globRegex ignoreCase rest)

variable {ignoreCase : Bool}

theorem globRegex_cons {c : Char} (hc : c ≠ '*') (rest : List Char) :
    globRegex ignoreCase (c :: rest) =
      .seq (.one (letterSet ignoreCase c)) (globRegex ignoreCase rest) := by
  rw [globRegex]
  simpa using hc

theorem sequence_cons {f f' f'' : Flags} {e : Expr} {es : List Expr} {r s : Regex}
    (hfirst : e.meaning f = .ok (r, f')) (hrest : Expr.sequence f' es = .ok (s, f'')) :
    Expr.sequence f (e :: es) = .ok (.seq r s, f'') := by
  simp only [Expr.sequence, hfirst, bind, Except.bind, hrest]
  rfl

theorem sequence_globExprs (engine : Engine) (glob : List Char) :
    Expr.sequence (engine.flags ignoreCase) (globExprs glob ++ [.anchor .lineEnd]) =
      .ok (globRegex ignoreCase glob, engine.flags ignoreCase) := by
  induction glob with
  | nil => rfl
  | cons c rest ih =>
      by_cases hstar : c = '*'
      · subst hstar
        exact sequence_cons rfl ih
      · rw [globExprs_cons hstar, globRegex_cons hstar]
        exact sequence_cons rfl ih

/-- The expression of a glob is one, whatever the glob. -/
theorem ofText_anchoredGlob (engine : Engine) (ignoreCase : Bool) (glob : List Char) :
    ofText engine ignoreCase (anchoredGlob glob) =
      .ok (.seq (.look .textStart) (globRegex ignoreCase glob)) := by
  have hmeaning : (Expr.concat (.anchor .lineStart :: (globExprs glob ++ [.anchor .lineEnd]))).meaning
      (engine.flags ignoreCase) =
        .ok (.seq (.look .textStart) (globRegex ignoreCase glob), engine.flags ignoreCase) :=
    sequence_cons rfl (sequence_globExprs engine glob)
  simp only [ofText, ofText_glob, bind, Except.bind, hmeaning]
  rfl

theorem ordered_globRegex (glob : List Char) : (globRegex ignoreCase glob).Ordered := by
  induction glob with
  | nil => exact ⟨trivial, trivial⟩
  | cons c rest ih =>
      by_cases hstar : c = '*'
      · subst hstar
        exact ⟨⟨nofun, trivial⟩, ih⟩
      · rw [globRegex_cons hstar]
        exact ⟨trivial, ih⟩

/-! ## What it matches -/

/-- Two characters are the same, up to case or not. -/
def Same (ignoreCase : Bool) (c d : Char) : Prop :=
  if ignoreCase then Unicode.fold c = Unicode.fold d else c = d

theorem contains_single {c d : Char} : (CharSet.single c).contains d = true ↔ c = d := by
  simp only [CharSet.single, CharSet.contains, Unicode.Ranges.contains, List.any_cons, List.any_nil,
    Bool.or_false, Bool.and_eq_true, decide_eq_true_eq]
  constructor
  · rintro ⟨hle, hge⟩
    exact Char.toNat_inj.mp (le_antisymm hle hge)
  · rintro rfl
    exact ⟨le_rfl, le_rfl⟩

theorem contains_letterSet {c d : Char} :
    (letterSet ignoreCase c).contains d = true ↔ Same ignoreCase c d := by
  cases ignoreCase with
  | false => exact contains_single
  | true =>
      rw [letterSet, if_pos rfl, CharSet.contains, List.any_eq_true]
      simp only [contains_single, exists_eq_right', Unicode.mem_orbit_iff]
      rfl

section Matching

variable {text : Array Char} {s : CharSet} {i j n : Nat}

theorem drop_eq_cons_iff {c : Char} {rest : List Char} :
    text.toList.drop i = c :: rest ↔ text[i]? = some c ∧ text.toList.drop (i + 1) = rest := by
  rw [← Array.getElem?_toList]
  constructor
  · intro h
    have hc : (text.toList.drop i)[0]? = some c := by rw [h]; rfl
    rw [List.getElem?_drop, Nat.add_zero] at hc
    refine ⟨hc, ?_⟩
    rw [← List.drop_drop, h]
    rfl
  · rintro ⟨hc, rfl⟩
    obtain ⟨hi, rfl⟩ := List.getElem?_eq_some_iff.mp hc
    exact List.drop_eq_getElem_cons hi

theorem matches_one_iff :
    Matches text (.one s) i j ↔
      ∃ c, text.toList.drop i = c :: text.toList.drop j ∧ j = i + 1 ∧ s.contains c = true := by
  constructor
  · intro h
    cases h with
    | one hget hc => exact ⟨_, drop_eq_cons_iff.mpr ⟨hget, rfl⟩, rfl, hc⟩
  · rintro ⟨c, hdrop, rfl, hc⟩
    exact .one (drop_eq_cons_iff.mp hdrop).1 hc

/-- Rounds of a set match a run of characters in it. -/
theorem rounds_one_iff :
    Rounds text (.one s) n i j ↔
      ∃ run, text.toList.drop i = run ++ text.toList.drop j ∧ run.length = n ∧ j = i + n ∧
        ∀ c ∈ run, s.contains c = true := by
  induction n generalizing i with
  | zero =>
      constructor
      · intro h
        cases h
        exact ⟨[], rfl, rfl, rfl, nofun⟩
      · rintro ⟨run, -, -, rfl, -⟩
        exact .nil
  | succ n ih =>
      constructor
      · intro h
        cases h with
        | cons hfirst hrest =>
            obtain ⟨c, hc, rfl, hin⟩ := matches_one_iff.mp hfirst
            obtain ⟨run, hrun, hlength, rfl, hall⟩ := ih.mp hrest
            refine ⟨c :: run, by rw [hc, hrun, List.cons_append], by rw [List.length_cons, hlength],
              by omega, ?_⟩
            intro d hd
            rcases List.mem_cons.mp hd with rfl | hd
            · exact hin
            · exact hall d hd
      · rintro ⟨run, hrun, hlength, rfl, hall⟩
        obtain ⟨c, run, rfl⟩ := List.exists_cons_of_length_eq_add_one hlength
        obtain ⟨hget, hdrop⟩ := drop_eq_cons_iff.mp hrun
        refine .cons (.one hget (hall c List.mem_cons_self)) (ih.mpr ⟨run, hdrop, ?_, by omega, ?_⟩)
        · exact Nat.succ.inj hlength
        · exact fun d hd => hall d (List.mem_cons_of_mem c hd)

theorem contains_complement_newline {c : Char} :
    (CharSet.complement (.single '\n')).contains c = true ↔ c ≠ '\n' := by
  rw [CharSet.contains, Bool.not_eq_true', Bool.eq_false_iff, ne_eq, contains_single, eq_comm]

/-- A star matches what holds no line feed. -/
theorem matches_anyRun_iff :
    Matches text anyRun i j ↔
      ∃ run, text.toList.drop i = run ++ text.toList.drop j ∧ j = i + run.length ∧ '\n' ∉ run := by
  constructor
  · intro h
    cases h with
    | repeated _ _ hrounds =>
        obtain ⟨run, hrun, rfl, rfl, hall⟩ := rounds_one_iff.mp hrounds
        exact ⟨run, hrun, rfl, fun hmem => contains_complement_newline.mp (hall _ hmem) rfl⟩
  · rintro ⟨run, hrun, rfl, hline⟩
    refine .repeated (Nat.zero_le run.length) nofun (rounds_one_iff.mpr ⟨run, hrun, rfl, rfl, ?_⟩)
    rintro c hc
    refine contains_complement_newline.mpr ?_
    rintro rfl
    exact hline hc

theorem matches_textEnd_iff :
    Matches text (.look .textEnd) i j ↔ text.toList.drop i = [] ∧ i = j := by
  have hholds : Look.holdsAt .textEnd text i = true ↔ text.toList.drop i = [] := by
    rw [List.drop_eq_nil_iff, Array.length_toList]
    simp [Look.holdsAt, Look.holds]
  constructor
  · intro h
    cases h with
    | look h => exact ⟨hholds.mp h, rfl⟩
  · rintro ⟨h, rfl⟩
    exact .look (hholds.mpr h)

theorem exists_matches_seq_iff {r s : Regex} :
    (∃ j, Matches text (.seq r s) i j) ↔ ∃ k, Matches text r i k ∧ ∃ j, Matches text s k j := by
  constructor
  · rintro ⟨j, h⟩
    cases h with
    | seq hr hs => exact ⟨_, hr, j, hs⟩
  · rintro ⟨k, hr, j, hs⟩
    exact ⟨j, .seq hr hs⟩

/-- From a point of the text on, the rest of a glob matches what it spells. -/
theorem matches_globRegex_iff (glob : List Char) (hi : i ≤ text.size) :
    (∃ j, Matches text (globRegex ignoreCase glob) i j) ↔
      Spells (Same ignoreCase) (globParts glob) (text.toList.drop i) := by
  induction glob generalizing i with
  | nil =>
      rw [show globParts [] = [[]] from rfl, spells_nil_iff]
      refine exists_matches_seq_iff.trans ?_
      constructor
      · rintro ⟨k, hend, -⟩
        exact (matches_textEnd_iff.mp hend).1
      · intro h
        exact ⟨i, matches_textEnd_iff.mpr ⟨h, rfl⟩, i, .empty⟩
  | cons c rest ih =>
      by_cases hstar : c = '*'
      · subst hstar
        rw [globParts_star, spells_star_iff (globParts_ne_nil rest)]
        refine exists_matches_seq_iff.trans ?_
        constructor
        · rintro ⟨k, hrun, hrest⟩
          obtain ⟨run, hdrop, -, hline⟩ := matches_anyRun_iff.mp hrun
          exact ⟨run, _, hdrop, hline, (ih (hrun.le_size hi)).mp hrest⟩
        · rintro ⟨run, left, hdrop, hline, hrest⟩
          have hleft : left = text.toList.drop (i + run.length) := by
            rw [← List.drop_drop, hdrop, List.drop_left]
          have hrun : Matches text anyRun i (i + run.length) :=
            matches_anyRun_iff.mpr ⟨run, hleft ▸ hdrop, rfl, hline⟩
          exact ⟨_, hrun, (ih (hrun.le_size hi)).mpr (hleft ▸ hrest)⟩
      · obtain ⟨p, ps, hparts, hcons⟩ := globParts_cons rest hstar
        rw [hcons, spells_cons_iff, globRegex_cons hstar, exists_matches_seq_iff]
        rw [hparts] at ih
        constructor
        · rintro ⟨k, hone, hrest⟩
          obtain ⟨d, hdrop, -, hd⟩ := matches_one_iff.mp hone
          exact ⟨d, _, hdrop, contains_letterSet.mp hd, (ih (hone.le_size hi)).mp hrest⟩
        · rintro ⟨d, left, hdrop, hd, hrest⟩
          obtain ⟨hget, rfl⟩ := drop_eq_cons_iff.mp hdrop
          have hone : Matches text (.one (letterSet ignoreCase c)) i (i + 1) :=
            .one hget (contains_letterSet.mpr hd)
          exact ⟨_, hone, (ih (hone.le_size hi)).mpr hrest⟩

/-- The first assertion holds at the beginning only. -/
theorem textStart_holdsAt_iff (hi : i ≤ text.size) :
    Look.holdsAt .textStart text i = true ↔ i = 0 := by
  rw [Look.holdsAt, Look.holds]
  split
  · next hzero => simp [hzero]
  · next hne => simp [hne]; omega

/-- The search finds the expression of a glob where the whole text spells the glob. -/
theorem isMatch_glob_iff (glob : List Char) :
    (Regex.seq (.look .textStart) (globRegex ignoreCase glob)).isMatch text = true ↔
      Spells (Same ignoreCase) (globParts glob) text.toList := by
  have hordered : (Regex.seq (.look .textStart) (globRegex ignoreCase glob)).Ordered :=
    ⟨trivial, ordered_globRegex glob⟩
  rw [isMatch_iff hordered]
  constructor
  · rintro ⟨i, j, hi, h⟩
    cases h with
    | seq hstart hrest =>
        cases hstart with
        | look hholds =>
            obtain rfl := (textStart_holdsAt_iff hi).mp hholds
            exact (matches_globRegex_iff glob hi).mp ⟨j, hrest⟩
  · intro h
    obtain ⟨j, hmatch⟩ := (matches_globRegex_iff glob (Nat.zero_le text.size)).mpr h
    exact ⟨0, j, Nat.zero_le _, .seq (.look ((textStart_holdsAt_iff (Nat.zero_le _)).mpr rfl)) hmatch⟩

end Matching

end Regex

/-! ## Patterns for names -/

namespace NamePattern

open Regex (Same)

theorem accepts_glob_iff (ignoreCase : Bool) (glob name : String) :
    (NameMatcher.mk (.seq (.look .textStart)
      (Regex.globRegex ignoreCase glob.toList))).accepts name = true ↔
      Spells (Same ignoreCase) (globParts glob.toList) name.toList :=
  Regex.isMatch_glob_iff glob.toList

theorem compile_name (glob : String) :
    (name glob).compile =
      .ok ⟨.seq (.look .textStart) (Regex.globRegex false glob.toList)⟩ := by
  rw [compile, compileWith, show (name glob).expression = anchoredGlob glob.toList from rfl,
    show (name glob).ignoresCase = false from rfl, Regex.Engine.compile_standard,
    Regex.ofText_anchoredGlob]

/-- Globs are matched exactly: every glob can be compiled, with regard to case or without, and
accepts the names that it spells.  What it accepts with regard to case it accepts without. -/
theorem glob_exact (glob : String) :
    ∃ exact folding : NameMatcher, (name glob).compile = .ok exact ∧
      (iname glob).compile = .ok folding ∧
      (∀ n : String, exact.accepts n = true ↔ Spells (· = ·) (globParts glob.toList) n.toList) ∧
      (∀ n : String, folding.accepts n = true ↔
        Spells (fun c d => Unicode.fold c = Unicode.fold d) (globParts glob.toList) n.toList) ∧
      ∀ n : String, exact.accepts n = true → folding.accepts n = true := by
  have hcompile (p : NamePattern) (hp : p.expression = anchoredGlob glob.toList) :
      p.compile = .ok ⟨.seq (.look .textStart) (Regex.globRegex p.ignoresCase glob.toList)⟩ := by
    rw [compile, compileWith, hp, Regex.Engine.compile_standard, Regex.ofText_anchoredGlob]
  refine ⟨_, _, hcompile (name glob) rfl, hcompile (iname glob) rfl, accepts_glob_iff false glob,
    accepts_glob_iff true glob, ?_⟩
  intro n hexact
  have hspells := (accepts_glob_iff false glob n).mp hexact
  refine (accepts_glob_iff true glob n).mpr (hspells.mono ?_)
  intro a b heq
  exact congrArg Unicode.fold heq

/-- A star between two globs stands for a run without a line feed: the compiled glob accepts what
one glob accepts, such a run, and what the other one accepts.  So a star alone accepts the names
that hold no line feed. -/
theorem star_matches_line (glob glob' : String) :
    ∃ before after both star : NameMatcher, (name glob).compile = .ok before ∧
      (name glob').compile = .ok after ∧ (name (glob ++ "*" ++ glob')).compile = .ok both ∧
      (name "*").compile = .ok star ∧
      (∀ n : String, both.accepts n = true ↔
        ∃ a run b : String, n = a ++ run ++ b ∧ before.accepts a = true ∧ '\n' ∉ run.toList ∧
          after.accepts b = true) ∧
      ∀ n : String, star.accepts n = true ↔ '\n' ∉ n.toList := by
  refine ⟨_, _, _, _, compile_name glob, compile_name glob', compile_name _, compile_name "*", ?_, ?_⟩
  · intro n
    have hparts : globParts (glob ++ "*" ++ glob').toList =
        globParts glob.toList ++ globParts glob'.toList := by
      rw [String.toList_append, String.toList_append, List.append_assoc]
      exact globParts_append glob.toList glob'.toList
    rw [accepts_glob_iff, hparts, spells_append_iff (globParts_ne_nil _) (globParts_ne_nil _)]
    constructor
    · rintro ⟨a, run, b, hname, ha, hrun, hb⟩
      refine ⟨.ofList a, .ofList run, .ofList b, ?_, ?_, ?_, ?_⟩
      · rw [← String.toList_inj]
        simpa using hname
      · exact (accepts_glob_iff false glob _).mpr (by simpa using ha)
      · simpa using hrun
      · exact (accepts_glob_iff false glob' _).mpr (by simpa using hb)
    · rintro ⟨a, run, b, rfl, ha, hrun, hb⟩
      exact ⟨a.toList, run.toList, b.toList, by simp, (accepts_glob_iff false glob a).mp ha, hrun,
        (accepts_glob_iff false glob' b).mp hb⟩
  · intro n
    exact (accepts_glob_iff false "*" n).trans spells_star_alone_iff

/-- A name that holds a line feed is not accepted by a star. -/
theorem star_stops_at_line_feed :
    ∃ empty star : NameMatcher, (name "").compile = .ok empty ∧
      (name ("" ++ "*" ++ "")).compile = .ok star ∧ empty.accepts "" = true ∧
      star.accepts ("" ++ "a\nb" ++ "") = false := by
  refine ⟨_, _, compile_name "", compile_name _, ?_, ?_⟩
  · exact (accepts_glob_iff false "" "").mpr (.last .nil)
  · rw [Bool.eq_false_iff, ne_eq, accepts_glob_iff]
    intro hspells
    exact spells_star_alone_iff.mp hspells (by decide)

end NamePattern

end Frontier
