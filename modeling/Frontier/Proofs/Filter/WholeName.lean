/-
# Whole names — what a regular expression given for names accepts

A regular expression is put into a group between two anchors before it is read.
Where that goes well the compiled pattern accepts the names that the expression
itself can match from their first to their last character, whatever alternatives
and flags it holds (`regex_matches_whole_name`).

All this holds of every engine, whatever properties it knows and however large an
expression it takes.

Whether it goes well is not quite whether the expression is valid:

| the expression alone | in its group |
| :-- | :-- |
| valid, and ends outside a comment | valid, unless it gets too deep or too large |
| valid, and ends inside a comment | the comment swallows the end of the group: a fault |
| at fault for a parenthesis too many | the parenthesis closes the group: anything may come of it |
| at fault for anything else | a fault |

The third row is the one that matters: `a)|(?:b` is no regular expression, but
the pattern is made of it, and accepts a name because it begins with an `a`
(`unopened_group_accepted`).
-/
import Frontier.Proofs.Filter.Glob
import Frontier.Proofs.Regex.Bounds

namespace Frontier

namespace Regex

/-! ## Reading -/

/-- The text goes on in the group that the anchored text opens. -/
theorem run_anchoredRegex (p : List Char) :
    (Reading.start (anchoredRegex p)).run =
      ((Reading.start (p ++ closing)).under [Reading.wholeGroup]).run := by
  have hanchor : (Reading.start (anchoredRegex p)).run =
      (Reading.mk false [] [.anchor .lineStart] [] ('(' :: '?' :: ':' :: (p ++ closing))).run :=
    Reading.run_of_step rfl (Nat.lt_succ_self _)
  have hlt : (p ++ closing).length < ('(' :: '?' :: ':' :: (p ++ closing)).length := by
    simp only [List.length_cons]
    omega
  rw [hanchor]
  exact Reading.run_of_step rfl hlt

/-- A text that is read as an expression is read as that in its group, unless a comment that is open
at its end swallows what stands behind. -/
theorem run_whole {p : List Char} {e : Expr} (h : (Reading.start p).run = .ok e) :
    ((Reading.start (p ++ closing)).run = .error .groupUnopened ∧
        (Reading.start (anchoredRegex p)).run = .ok e.whole) ∨
      (Reading.start (p ++ closing)).run = .ok e ∧
        (Reading.start (anchoredRegex p)).run = .error .groupUnclosed := by
  have hfollows : (Reading.start p).Follows (.start (p ++ closing)) := ⟨rfl, .inl rfl⟩
  obtain ⟨z, z', hfinish, hend, hz, hrun⟩ := Reading.run_spliced h hfollows
  rw [run_anchoredRegex, hrun _ Reading.base_wholeGroup,
    show Reading.start (p ++ closing) = (Reading.start (p ++ closing)).under [] from rfl,
    hrun _ Reading.base_nil]
  exact Reading.run_at_end hfinish hend hz

theorem run_whole_refused {p : List Char} {f : Fault} (h : (Reading.start p).run = .error f)
    (hf : f ≠ .groupUnopened) : ∃ f', (Reading.start (anchoredRegex p)).run = .error f' := by
  have hfollows : (Reading.start p).Follows (.start (p ++ closing)) := ⟨rfl, .inl rfl⟩
  rw [run_anchoredRegex]
  exact Reading.run_refused h hf hfollows Reading.base_wholeGroup (List.cons_ne_nil _ _)

theorem Expr.ofText_eq_ok_iff {p : List Char} {e : Expr} :
    Expr.ofText p = .ok e ↔ (Reading.start p).run = .ok e ∧ e.depth ≤ nestLimit := by
  constructor
  · intro h
    obtain ⟨e', hrun, hdepth⟩ := bind_eq_ok h
    split at hdepth
    · next hle =>
        cases hdepth
        exact ⟨hrun, hle⟩
    · cases hdepth
  · rintro ⟨hrun, hle⟩
    rw [Expr.ofText, hrun]
    exact if_pos hle

theorem Expr.ofText_eq_error {p : List Char} {f : Fault}
    (h : (Reading.start p).run = .error f) : Expr.ofText p = .error f := by
  rw [Expr.ofText, h]
  rfl

theorem ofText_eq_ok_iff {engine : Engine} {ignoreCase : Bool} {p : List Char} {r : Regex} :
    ofText engine ignoreCase p = .ok r ↔
      ∃ e f, Expr.ofText p = .ok e ∧ e.meaning (engine.flags ignoreCase) = .ok (r, f) := by
  constructor
  · intro h
    obtain ⟨e, he, hread⟩ := bind_eq_ok h
    obtain ⟨⟨r', f⟩, hmeaning, hpure⟩ := bind_eq_ok hread
    cases hpure
    exact ⟨e, f, he, hmeaning⟩
  · rintro ⟨e, f, he, hmeaning⟩
    rw [ofText, he]
    show (e.meaning (engine.flags ignoreCase) >>= fun y => pure y.1) = _
    rw [hmeaning]
    rfl

/-- An engine makes of a text what that stands for, if it is not too large. -/
theorem Engine.compile_eq_ok_iff {engine : Engine} {ignoreCase : Bool} {p : List Char} {r : Regex} :
    engine.compile ignoreCase p = .ok r ↔
      ofText engine ignoreCase p = .ok r ∧ engine.admits ignoreCase p = true := by
  constructor
  · intro h
    obtain ⟨r', hr, hsize⟩ := bind_eq_ok h
    split at hsize
    · next hadmits =>
        cases hsize
        exact ⟨hr, hadmits⟩
    · cases hsize
  · rintro ⟨hr, hadmits⟩
    rw [Engine.compile, hr]
    exact if_pos hadmits

/-! ## Depth, meaning and matches -/

theorem depth_whole (e : Expr) : e.whole.depth = e.depth + 2 := by
  simp [Expr.whole, Expr.depth, Expr.depths]

/-- What an expression in its group means. -/
def whole (r : Regex) : Regex := .seq (.look .textStart) (.seq r (.seq (.look .textEnd) .empty))

/-- Flags that are set in the expression end with its group, so the anchors are those of the text. -/
theorem meaning_whole (engine : Engine) (ignoreCase : Bool) (e : Expr) :
    e.whole.meaning (engine.flags ignoreCase) =
      (e.meaning (engine.flags ignoreCase)).map fun y => (whole y.1, engine.flags ignoreCase) := by
  have hgroup : (Expr.group [] e).meaning (engine.flags ignoreCase) =
      (e.meaning (engine.flags ignoreCase)).map fun y => (y.1, engine.flags ignoreCase) := by
    rw [Expr.meaning]
    show e.meaning (engine.flags ignoreCase) >>= _ = _
    cases e.meaning (engine.flags ignoreCase) <;> rfl
  show Expr.sequence (engine.flags ignoreCase) [.anchor .lineStart, .group [] e, .anchor .lineEnd] = _
  cases hmeaning : e.meaning (engine.flags ignoreCase) with
  | error f =>
      have hrest : Expr.sequence (engine.flags ignoreCase) [.group [] e, .anchor .lineEnd] = .error f := by
        rw [Expr.sequence, hgroup, hmeaning]
        rfl
      show Expr.sequence (engine.flags ignoreCase) [.group [] e, .anchor .lineEnd] >>= _ = _
      rw [hrest]
      rfl
  | ok y =>
      rw [hmeaning] at hgroup
      exact sequence_cons rfl (sequence_cons hgroup (sequence_cons rfl rfl))

section Matching

variable {text : Array Char} {r : Regex}

/-- An expression in its group is found where it matches the whole text. -/
theorem isMatch_whole_iff (hr : r.Ordered) :
    (whole r).isMatch text = true ↔ Matches text r 0 text.size := by
  have hordered : (whole r).Ordered := ⟨trivial, hr, trivial, trivial⟩
  rw [isMatch_iff hordered]
  constructor
  · rintro ⟨i, j, hi, h⟩
    cases h with
    | seq hstart hrest =>
        cases hstart with
        | look hholds =>
            obtain rfl := (textStart_holdsAt_iff hi).mp hholds
            cases hrest with
            | @seq _ _ _ k _ hmatch hend =>
                cases hend with
                | seq hlook _ =>
                    obtain ⟨hdrop, -⟩ := matches_textEnd_iff.mp hlook
                    rw [List.drop_eq_nil_iff, Array.length_toList] at hdrop
                    rwa [le_antisymm (hmatch.le_size hi) hdrop] at hmatch
  · intro h
    have hstart : Look.holdsAt .textStart text 0 = true :=
      (textStart_holdsAt_iff (Nat.zero_le _)).mpr rfl
    have hend : Matches text (.look .textEnd) text.size text.size := by
      refine matches_textEnd_iff.mpr ⟨?_, rfl⟩
      rw [List.drop_eq_nil_iff, Array.length_toList]
    exact ⟨0, text.size, Nat.zero_le _, .seq (.look hstart) (.seq h (.seq hend .empty))⟩

end Matching

/-- Where an expression is valid and so is the anchored one, that means the expression in its
group. -/
theorem ofText_whole {engine : Engine} {ignoreCase : Bool} {p : List Char} {r r' : Regex}
    (h : ofText engine ignoreCase p = .ok r)
    (h' : ofText engine ignoreCase (anchoredRegex p) = .ok r') : r' = whole r := by
  obtain ⟨e, f, he, hmeaning⟩ := ofText_eq_ok_iff.mp h
  obtain ⟨e', f', he', hmeaning'⟩ := ofText_eq_ok_iff.mp h'
  obtain ⟨hrun, -⟩ := Expr.ofText_eq_ok_iff.mp he
  obtain ⟨hrun', -⟩ := Expr.ofText_eq_ok_iff.mp he'
  rcases run_whole hrun with ⟨-, hwhole⟩ | ⟨-, hrefused⟩
  · rw [hrun'] at hwhole
    obtain rfl := Except.ok.inj hwhole
    rw [meaning_whole, hmeaning] at hmeaning'
    cases hmeaning'
    rfl
  · rw [hrun'] at hrefused
    cases hrefused

/-- The expression can stand in a group between two anchors. -/
structure Enclosable (engine : Engine) (ignoreCase : Bool) (p : List Char) : Prop where
  valid : ∃ r, ofText engine ignoreCase p = .ok r
  /-- The group and the sequence around it make two levels more. -/
  room : ∀ e, Expr.ofText p = .ok e → e.depth + 2 ≤ nestLimit
  /-- No comment is open at its end, where a parenthesis would be a part of the comment. -/
  closed : ∀ e, Expr.ofText (p ++ closing) ≠ .ok e
  /-- It is not too large, with the group around it. -/
  small : engine.admits ignoreCase (anchoredRegex p) = true

section Enclosable

variable {engine : Engine} {ignoreCase : Bool} {p : List Char} {r : Regex}

theorem Enclosable.anchored (h : Enclosable engine ignoreCase p) :
    ∃ r, engine.compile ignoreCase (anchoredRegex p) = .ok r := by
  obtain ⟨r, hr⟩ := h.valid
  obtain ⟨e, f, he, hmeaning⟩ := ofText_eq_ok_iff.mp hr
  obtain ⟨hrun, hle⟩ := Expr.ofText_eq_ok_iff.mp he
  rcases run_whole hrun with ⟨-, hwhole⟩ | ⟨hopen, -⟩
  · refine ⟨whole r, Engine.compile_eq_ok_iff.mpr ⟨?_, h.small⟩⟩
    refine ofText_eq_ok_iff.mpr ⟨e.whole, engine.flags ignoreCase, ?_, ?_⟩
    · exact Expr.ofText_eq_ok_iff.mpr ⟨hwhole, by rw [depth_whole]; exact h.room e he⟩
    · rw [meaning_whole, hmeaning]
      rfl
  · exact absurd (Expr.ofText_eq_ok_iff.mpr ⟨hopen, hle⟩) (h.closed e)

/-- Only an expression that can stand in the group is valid there, unless it closes the group. -/
theorem enclosable_of_anchored (h : engine.compile ignoreCase (anchoredRegex p) = .ok r)
    (hunopened : Expr.ofText p ≠ .error .groupUnopened) : Enclosable engine ignoreCase p := by
  obtain ⟨hread, hadmits⟩ := Engine.compile_eq_ok_iff.mp h
  obtain ⟨e', f', he', hmeaning'⟩ := ofText_eq_ok_iff.mp hread
  obtain ⟨hrun', hle'⟩ := Expr.ofText_eq_ok_iff.mp he'
  cases hrun : (Reading.start p).run with
  | error fault =>
      have hfault : fault ≠ .groupUnopened := by
        rintro rfl
        exact hunopened (Expr.ofText_eq_error hrun)
      obtain ⟨fault', hrefused⟩ := run_whole_refused hrun hfault
      cases hrun'.symm.trans hrefused
  | ok e =>
      rcases run_whole hrun with ⟨hclosed, hwhole⟩ | ⟨-, hrefused⟩
      · obtain rfl := Except.ok.inj (hrun'.symm.trans hwhole)
        rw [depth_whole] at hle'
        have he : Expr.ofText p = .ok e := Expr.ofText_eq_ok_iff.mpr ⟨hrun, by omega⟩
        refine ⟨?_, ?_, ?_, hadmits⟩
        · rw [meaning_whole] at hmeaning'
          cases hmeaning : e.meaning (engine.flags ignoreCase) with
          | error fault =>
              rw [hmeaning] at hmeaning'
              cases hmeaning'
          | ok y => exact ⟨y.1, ofText_eq_ok_iff.mpr ⟨e, y.2, he, hmeaning⟩⟩
        · intro e' he'
          obtain rfl := Except.ok.inj (he.symm.trans he')
          exact hle'
        · intro e' hopen
          cases (Expr.ofText_eq_error hclosed).symm.trans hopen
      · cases hrun'.symm.trans hrefused

end Enclosable

end Regex

/-! ## Patterns for names -/

namespace NamePattern

variable {engine : Regex.Engine}

theorem compileWith_eq_ok_iff {p : NamePattern} {m : NameMatcher} :
    p.compileWith engine = .ok m ↔ engine.compile p.ignoresCase p.expression = .ok m.regex := by
  rw [compileWith]
  cases engine.compile p.ignoresCase p.expression with
  | error fault => constructor <;> intro h <;> cases h
  | ok r =>
      constructor
      · intro h
        cases h
        rfl
      · intro h
        cases h
        rfl

theorem compileWith_error {p : NamePattern} {failure : Failure}
    (h : p.compileWith engine = .error failure) :
    ∃ fault : Regex.Fault, failure = .invalidPattern p.source fault.report := by
  rw [compileWith] at h
  cases hread : engine.compile p.ignoresCase p.expression with
  | error fault =>
      rw [hread] at h
      cases h
      exact ⟨fault, rfl⟩
  | ok r =>
      rw [hread] at h
      cases h

/-- A pattern that is made of a valid expression accepts what that matches from end to end. -/
theorem accepts_iff_matches {p : NamePattern} {source : List Char} {r : Regex} {m : NameMatcher}
    (hp : p.expression = anchoredRegex source)
    (hr : Regex.ofText engine p.ignoresCase source = .ok r) (hm : p.compileWith engine = .ok m)
    (n : String) :
    m.accepts n = true ↔ Regex.Matches n.toList.toArray r 0 n.toList.length := by
  obtain ⟨hread, -⟩ := Regex.Engine.compile_eq_ok_iff.mp (compileWith_eq_ok_iff.mp hm)
  rw [hp] at hread
  rw [NameMatcher.accepts, Regex.ofText_whole hr hread,
    Regex.isMatch_whole_iff (Regex.ofText_ordered hr), List.size_toArray]

/-- A regular expression matches whole names: where it is valid and the pattern can be made of it,
the pattern accepts the names that the expression matches from the first to the last position, and
no others.  The case of letters counts for both or for neither.  So it is with every engine,
whatever a `\p` finds there and however large an expression may be. -/
theorem regex_matches_whole_name (engine : Regex.Engine) (source : String) :
    (∀ r m, Regex.ofText engine false source.toList = .ok r →
      (regex source).compileWith engine = .ok m → ∀ n : String, m.accepts n = true ↔
        Regex.Matches n.toList.toArray r 0 n.toList.length) ∧
    ∀ r m, Regex.ofText engine true source.toList = .ok r →
      (iregex source).compileWith engine = .ok m → ∀ n : String, m.accepts n = true ↔
        Regex.Matches n.toList.toArray r 0 n.toList.length := by
  refine ⟨?_, ?_⟩
  · intro r m hr hm
    exact accepts_iff_matches (p := regex source) rfl hr hm
  · intro r m hr hm
    exact accepts_iff_matches (p := iregex source) rfl hr hm

theorem exists_ok_of_any {ε α : Type} {x : Except ε α} {p : α → Bool}
    (h : x.toOption.any p = true) : ∃ a, x = .ok a ∧ p a = true := by
  cases x with
  | error e => cases h
  | ok a => exact ⟨a, rfl, h⟩

/-- The second alternative matches to the end of a name, and no alternative to the end of its first
line only. -/
theorem whole_name_of_alternatives :
    ∃ r m s k, Regex.ofText .standard false "(?m)a|ab$".toList = .ok r ∧
      (regex "(?m)a|ab$").compileWith .standard = .ok m ∧
      Regex.ofText .standard true "(?m)a|ab$".toList = .ok s ∧
      (iregex "(?m)a|ab$").compileWith .standard = .ok k ∧ m.accepts "ab" = true ∧
      Regex.Matches "ab".toList.toArray r 0 "ab".toList.length ∧
      ¬ Regex.Matches "AB\na".toList.toArray s 0 "AB\na".toList.length := by
  obtain ⟨r, hr, -⟩ := exists_ok_of_any (x := Regex.ofText .standard false "(?m)a|ab$".toList)
    (p := fun _ => true) (by decide +kernel)
  obtain ⟨s, hs, -⟩ := exists_ok_of_any (x := Regex.ofText .standard true "(?m)a|ab$".toList)
    (p := fun _ => true) (by decide +kernel)
  obtain ⟨m, hm, hexact⟩ := exists_ok_of_any (x := (regex "(?m)a|ab$").compileWith .standard)
    (p := fun m => m.accepts "ab") (by decide +kernel)
  obtain ⟨k, hk, hfolding⟩ := exists_ok_of_any (x := (iregex "(?m)a|ab$").compileWith .standard)
    (p := fun m => !m.accepts "AB\na") (by decide +kernel)
  have hwhole := regex_matches_whole_name .standard "(?m)a|ab$"
  refine ⟨r, m, s, k, hr, hm, hs, hk, hexact, (hwhole.1 r m hr hm "ab").mp hexact, ?_⟩
  intro hmatches
  rw [(hwhole.2 s k hs hk "AB\na").mpr hmatches] at hfolding
  cases hfolding

/-- A regular expression that has no parenthesis too many makes a pattern just when it is valid and
can stand in the group that is put around it; and what makes none is named in the failure.  So it is
with every engine. -/
theorem regex_compiles_iff (engine : Regex.Engine) (source : String) :
    (Regex.Expr.ofText source.toList ≠ .error .groupUnopened →
      ((∃ m, (regex source).compileWith engine = .ok m) ↔
          Regex.Enclosable engine false source.toList) ∧
        ((∃ m, (iregex source).compileWith engine = .ok m) ↔
          Regex.Enclosable engine true source.toList)) ∧
    (∀ failure, (regex source).compileWith engine = .error failure →
      ∃ fault : Regex.Fault, failure = .invalidPattern source fault.report) ∧
    ∀ failure, (iregex source).compileWith engine = .error failure →
      ∃ fault : Regex.Fault, failure = .invalidPattern source fault.report := by
  have hiff (p : NamePattern) (hp : p.expression = anchoredRegex source.toList)
      (hunopened : Regex.Expr.ofText source.toList ≠ .error .groupUnopened) :
      (∃ m, p.compileWith engine = .ok m) ↔
        Regex.Enclosable engine p.ignoresCase source.toList := by
    simp only [compileWith_eq_ok_iff, hp]
    constructor
    · rintro ⟨m, hm⟩
      exact Regex.enclosable_of_anchored hm hunopened
    · intro h
      obtain ⟨r, hr⟩ := h.anchored
      exact ⟨⟨r⟩, hr⟩
  refine ⟨?_, fun _ => compileWith_error (p := regex source),
    fun _ => compileWith_error (p := iregex source)⟩
  intro hunopened
  exact ⟨hiff (regex source) rfl hunopened, hiff (iregex source) rfl hunopened⟩

example : ((regex "(?x)a # b").compile.toOption.isNone &&
    (Regex.ofText .standard false "(?x)a # b".toList).toOption.isSome) = true := by
  decide +kernel

/-- One branch of an alternation may be a group, but the group has to be closed. -/
theorem enclosable_unless_unclosed :
    Regex.Enclosable .standard false "a|(b)".toList ∧
      ¬ Regex.Enclosable .standard true "a|(b".toList ∧
      ∃ fault : Regex.Fault, (iregex "a|(b").compileWith .standard =
        .error (.invalidPattern "a|(b" fault.report) := by
  have hunopened (source : String)
      (hchecked : (Regex.Expr.ofText source.toList matches .error .groupUnopened) = false) :
      Regex.Expr.ofText source.toList ≠ .error .groupUnopened := by
    intro h
    rw [h] at hchecked
    cases hchecked
  have hclosed := regex_compiles_iff .standard "a|(b)"
  have hopen := regex_compiles_iff .standard "a|(b"
  obtain ⟨m, hm, -⟩ := exists_ok_of_any (x := (regex "a|(b)").compileWith .standard)
    (p := fun _ => true) (by decide +kernel)
  have hnone : ((iregex "a|(b").compileWith .standard).toOption.isNone = true := by
    decide +kernel
  refine ⟨(hclosed.1 (hunopened "a|(b)" (by decide +kernel))).1.mp ⟨m, hm⟩, ?_, ?_⟩
  · intro henclosable
    obtain ⟨k, hk⟩ := (hopen.1 (hunopened "a|(b" (by decide +kernel))).2.mpr henclosable
    rw [hk] at hnone
    cases hnone
  · cases hfailure : (iregex "a|(b").compileWith .standard with
    | ok k =>
        rw [hfailure] at hnone
        cases hnone
    | error failure =>
        obtain ⟨fault, rfl⟩ := hopen.2.2 failure hfailure
        exact ⟨fault, rfl⟩

/-- A parenthesis too many closes the group: the expression is no regular expression, but the
pattern made of it accepts a name for its beginning. -/
theorem unopened_group_accepted :
    (∀ r, Regex.ofText .standard false "a)|(?:b".toList ≠ .ok r) ∧
      ∃ m, (regex "a)|(?:b").compile = .ok m ∧ m.accepts "ax" = true := by
  refine ⟨?_, exists_ok_of_any (by decide +kernel)⟩
  intro r hr
  have hnone : (Regex.ofText .standard false "a)|(?:b".toList).toOption.isNone = true := by
    decide +kernel
  rw [hr] at hnone
  cases hnone

end NamePattern

end Frontier
