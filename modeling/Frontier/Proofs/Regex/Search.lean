/-
# Search — the search for a match finds one where there is one

`Matches` says what an expression can match, and `isMatch` computes with sets of
positions.  The two agree:

    the ends of a set of starts are those of its members    (`reaches_ends`)
    a search succeeds iff some part of the text matches     (`isMatch_iff`)

A repetition without an upper bound is computed in as many rounds as the text
has characters.  That is enough, because a round that matches nothing can be
left out and any other one moves on (`Rounds.exists_le`).
-/
import Frontier.Regex.Basic
import Mathlib.Data.Nat.Bitwise
import Mathlib.Logic.Function.Iterate

namespace Frontier.Regex

variable {text : Array Char} {r s : Regex} {m : Positions} {i j k n : Nat}

/-! ## Sets of positions -/

namespace Positions

theorem testBit_select (p : Nat → Bool) (m : Positions) (n i : Nat) :
    (select p m n).testBit i = (decide (i < n) && (m.testBit i && p i)) := by
  induction n with
  | zero => simp [select]
  | succ n ih =>
      have hlt : i < n + 1 ↔ i < n ∨ i = n := by omega
      rw [select]
      split
      · next hn =>
          rw [Nat.testBit_or, ih, Nat.one_shiftLeft, Nat.testBit_two_pow]
          by_cases hi : n = i
          · subst hi
            simp [hn]
          · simp [hi, hlt, Ne.symm hi]
      · next hn =>
          rw [ih]
          by_cases hi : i = n
          · subst hi
            simp [hn]
          · simp [hlt, hi]

theorem testBit_below (n i : Nat) : (below n).testBit i = decide (i < n) := by
  rw [below, Nat.one_shiftLeft, Nat.testBit_two_pow_sub_one]

/-- A set that comes out unchanged would do so in all further rounds. -/
theorem iterate_eq (f : Positions → Positions) (n : Nat) (m : Positions) :
    iterate f n m = f^[n] m := by
  induction n generalizing m with
  | zero => rfl
  | succ n ih =>
      rw [iterate]
      split
      · next hfixed => rw [Function.iterate_fixed hfixed]
      · rw [ih, Function.iterate_succ_apply]

end Positions

/-! ## Matching moves on -/

theorem Rounds.add_iff {a b : Nat} :
    Rounds text r (a + b) i j ↔ ∃ k, Rounds text r a i k ∧ Rounds text r b k j := by
  induction a generalizing i with
  | zero =>
      rw [Nat.zero_add]
      constructor
      · exact fun h => ⟨i, .nil, h⟩
      · rintro ⟨k, hnil, h⟩
        cases hnil
        exact h
  | succ a ih =>
      rw [Nat.succ_add]
      constructor
      · intro h
        cases h with
        | cons hfirst hrest =>
            obtain ⟨k, ha, hb⟩ := ih.mp hrest
            exact ⟨k, .cons hfirst ha, hb⟩
      · rintro ⟨k, ha, hb⟩
        cases ha with
        | cons hfirst hrest => exact .cons hfirst (ih.mpr ⟨k, hrest, hb⟩)

theorem Rounds.le_of (hr : ∀ {i j}, Matches text r i j → i ≤ j) (h : Rounds text r n i j) :
    i ≤ j := by
  induction n generalizing i with
  | zero =>
      cases h
      exact le_rfl
  | succ n ih =>
      cases h with
      | cons hfirst hrest => exact (hr hfirst).trans (ih hrest)

theorem Matches.le (h : Matches text r i j) : i ≤ j := by
  induction r generalizing i j with
  | empty | look l =>
      cases h
      exact le_rfl
  | one s =>
      cases h
      exact Nat.le_succ i
  | seq r s ihr ihs =>
      cases h with
      | seq hr hs => exact (ihr hr).trans (ihs hs)
  | alt r s ihr ihs =>
      cases h with
      | left hr => exact ihr hr
      | right hs => exact ihs hs
  | repeated least most r ih =>
      cases h with
      | repeated _ _ hrounds => exact hrounds.le_of ih

theorem Rounds.le_size_of (hr : ∀ {i j}, Matches text r i j → i ≤ text.size → j ≤ text.size)
    (h : Rounds text r n i j) (hi : i ≤ text.size) : j ≤ text.size := by
  induction n generalizing i with
  | zero =>
      cases h
      exact hi
  | succ n ih =>
      cases h with
      | cons hfirst hrest => exact ih hrest (hr hfirst hi)

/-- A match that begins in the text ends in it. -/
theorem Matches.le_size (h : Matches text r i j) (hi : i ≤ text.size) : j ≤ text.size := by
  induction r generalizing i j with
  | empty | look l =>
      cases h
      exact hi
  | one s =>
      cases h with
      | one hget _ =>
          obtain ⟨hlt, -⟩ := Array.getElem?_eq_some_iff.mp hget
          exact hlt
  | seq r s ihr ihs =>
      cases h with
      | seq hr hs => exact ihs hs (ihr hr hi)
  | alt r s ihr ihs =>
      cases h with
      | left hr => exact ihr hr hi
      | right hs => exact ihs hs hi
  | repeated least most r ih =>
      cases h with
      | repeated _ _ hrounds => exact hrounds.le_size_of ih hi

/-- Rounds that match nothing can be left out, so there need be no more rounds than characters. -/
theorem Rounds.exists_le (h : Rounds text r n i j) : ∃ k ≤ j - i, Rounds text r k i j := by
  induction n generalizing i with
  | zero =>
      cases h
      exact ⟨0, Nat.zero_le _, .nil⟩
  | succ n ih =>
      cases h with
      | @cons _ _ _ i' _ hfirst hrest =>
          -- a first round that matches nothing ends where the others begin
          obtain ⟨k, hk, hrounds⟩ := ih hrest
          have hle : i' ≤ j := hrounds.le_of fun h => h.le
          rcases hfirst.le.eq_or_lt with rfl | hlt
          · exact ⟨k, hk, hrounds⟩
          · exact ⟨k + 1, by omega, .cons hfirst hrounds⟩

/-! ## The ends of a set of starts -/

/-- The bounds of each repetition are in order. -/
def Ordered : Regex → Prop
  | empty | one _ | look _ => True
  | seq r s | alt r s => r.Ordered ∧ s.Ordered
  | repeated least most r => (∀ bound, most = some bound → least ≤ bound) ∧ r.Ordered

/-- The positions lie in the text. -/
def Positions.Within (text : Array Char) (m : Positions) : Prop :=
  ∀ i, m.testBit i = true → i ≤ text.size

/-- `f` computes the ends that `r` can reach. -/
def Reaches (text : Array Char) (r : Regex) (f : Positions → Positions) : Prop :=
  ∀ m, m.Within text → ∀ j,
    (f m).testBit j = true ↔ ∃ i, m.testBit i = true ∧ Matches text r i j

section Reaches

variable {f : Positions → Positions}

theorem Reaches.within (hf : Reaches text r f) (hm : m.Within text) : (f m).Within text := by
  intro j hj
  obtain ⟨i, hi, hmatch⟩ := (hf m hm j).mp hj
  exact hmatch.le_size (hm i hi)

/-- So many rounds lead to the ends of so many rounds. -/
theorem Reaches.testBit_iterate (hf : Reaches text r f) (hm : m.Within text) (n j : Nat) :
    (f^[n] m).testBit j = true ↔ ∃ i, m.testBit i = true ∧ Rounds text r n i j := by
  induction n generalizing m with
  | zero =>
      constructor
      · exact fun h => ⟨j, h, .nil⟩
      · rintro ⟨i, hi, hnil⟩
        cases hnil
        exact hi
  | succ n ih =>
      rw [Function.iterate_succ_apply, ih (hf.within hm)]
      constructor
      · rintro ⟨k, hk, hrounds⟩
        obtain ⟨i, hi, hmatch⟩ := (hf m hm k).mp hk
        exact ⟨i, hi, .cons hmatch hrounds⟩
      · rintro ⟨i, hi, hrounds⟩
        cases hrounds with
        | @cons _ _ _ k _ hfirst hrest => exact ⟨k, (hf m hm k).mpr ⟨i, hi, hfirst⟩, hrest⟩

/-- Rounds that keep what they begin with lead to the ends of so many rounds or fewer. -/
theorem Reaches.testBit_closure (hf : Reaches text r f) (hm : m.Within text) (n j : Nat) :
    ((fun m => m ||| f m)^[n] m).testBit j = true ↔
      ∃ i, m.testBit i = true ∧ ∃ k ≤ n, Rounds text r k i j := by
  induction n generalizing m with
  | zero =>
      constructor
      · exact fun h => ⟨j, h, 0, le_rfl, .nil⟩
      · rintro ⟨i, hi, k, hk, hrounds⟩
        obtain rfl := Nat.le_zero.mp hk
        cases hrounds
        exact hi
  | succ n ih =>
      have hnext : (m ||| f m).Within text := by
        intro i hi
        rw [Nat.testBit_or, Bool.or_eq_true] at hi
        exact hi.elim (hm i) (hf.within hm i)
      rw [Function.iterate_succ_apply, ih hnext]
      constructor
      · rintro ⟨i, hi, k, hk, hrounds⟩
        rw [Nat.testBit_or, Bool.or_eq_true] at hi
        rcases hi with hi | hi
        · exact ⟨i, hi, k, hk.trans (Nat.le_succ n), hrounds⟩
        · obtain ⟨i', hi', hfirst⟩ := (hf m hm i).mp hi
          exact ⟨i', hi', k + 1, Nat.succ_le_succ hk, .cons hfirst hrounds⟩
      · rintro ⟨i, hi, k, hk, hrounds⟩
        cases hrounds with
        | nil => exact ⟨j, by simp [Nat.testBit_or, hi], 0, Nat.zero_le n, .nil⟩
        | @cons _ k _ i' _ hfirst hrest =>
            have hi' : (f m).testBit i' = true := (hf m hm i').mpr ⟨i, hi, hfirst⟩
            exact ⟨i', by simp [Nat.testBit_or, hi'], k, Nat.le_of_succ_le_succ hk, hrest⟩

/-- So many rounds may follow the least number: as many as the bounds allow, or as there is room
for. -/
def extraRounds (text : Array Char) (least : Nat) : Option Nat → Nat
  | some bound => bound - least
  | none => text.size

theorem matches_repeated_iff {least : Nat} {most : Option Nat}
    (hbounds : ∀ bound, most = some bound → least ≤ bound) (hi : i ≤ text.size) :
    Matches text (.repeated least most r) i j ↔
      ∃ k, Rounds text r least i k ∧
        ∃ n ≤ extraRounds text least most, Rounds text r n k j := by
  constructor
  · intro h
    cases h with
    | @repeated _ _ _ n _ _ hleast hmost hrounds =>
        obtain ⟨extra, rfl⟩ := Nat.exists_eq_add_of_le hleast
        obtain ⟨k, hbefore, hafter⟩ := Rounds.add_iff.mp hrounds
        cases most with
        | some bound =>
            have hle := hmost bound rfl
            exact ⟨k, hbefore, extra, by rw [extraRounds]; omega, hafter⟩
        | none =>
            -- without a bound there may be many rounds, but not many that match something
            obtain ⟨n, hn, hshort⟩ := hafter.exists_le
            have hj : j ≤ text.size := hrounds.le_size_of (fun h => h.le_size) hi
            exact ⟨k, hbefore, n, by rw [extraRounds]; omega, hshort⟩
  · rintro ⟨k, hbefore, n, hn, hafter⟩
    refine .repeated (Nat.le_add_right least n) ?_ (Rounds.add_iff.mpr ⟨k, hbefore, hafter⟩)
    rintro bound rfl
    have hle := hbounds bound rfl
    rw [extraRounds] at hn
    omega

theorem Reaches.repeated {least : Nat} {most : Option Nat} (hf : Reaches text r (r.ends text))
    (hbounds : ∀ bound, most = some bound → least ≤ bound) :
    Reaches text (.repeated least most r) ((Regex.repeated least most r).ends text) := by
  intro m hm j
  have hwithin : ((r.ends text)^[least] m).Within text := by
    intro k hk
    obtain ⟨i, hi, hrounds⟩ := (hf.testBit_iterate hm least k).mp hk
    exact hrounds.le_size_of (fun h => h.le_size) (hm i hi)
  have hends : (Regex.repeated least most r).ends text m =
      (fun m => m ||| r.ends text m)^[extraRounds text least most] ((r.ends text)^[least] m) := by
    rw [← Positions.iterate_eq, ← Positions.iterate_eq]
    rfl
  rw [hends, hf.testBit_closure hwithin]
  constructor
  · rintro ⟨k, hk, n, hn, hafter⟩
    obtain ⟨i, hi, hbefore⟩ := (hf.testBit_iterate hm least k).mp hk
    exact ⟨i, hi, (matches_repeated_iff hbounds (hm i hi)).mpr ⟨k, hbefore, n, hn, hafter⟩⟩
  · rintro ⟨i, hi, hmatch⟩
    obtain ⟨k, hbefore, n, hn, hafter⟩ := (matches_repeated_iff hbounds (hm i hi)).mp hmatch
    exact ⟨k, (hf.testBit_iterate hm least k).mpr ⟨i, hi, hbefore⟩, n, hn, hafter⟩

end Reaches

/-- The ends that are computed for a set of starts are those of matches that start in it. -/
theorem reaches_ends (hr : r.Ordered) : Reaches text r (r.ends text) := by
  induction r with
  | empty =>
      intro m _ j
      constructor
      · exact fun h => ⟨j, h, .empty⟩
      · rintro ⟨i, hi, hmatch⟩
        cases hmatch
        exact hi
  | one s =>
      intro m _ j
      rw [ends, Nat.testBit_shiftLeft, Positions.testBit_select]
      constructor
      · intro h
        obtain ⟨hj, -, hi, hany⟩ := by simpa using h
        obtain ⟨c, hget, hc⟩ := Option.any_eq_true .. |>.mp hany
        have hmatch : Matches text (.one s) (j - 1) (j - 1 + 1) := .one hget hc
        rw [Nat.sub_add_cancel hj] at hmatch
        exact ⟨j - 1, hi, hmatch⟩
      · rintro ⟨i, hi, hmatch⟩
        cases hmatch with
        | one hget hc =>
            obtain ⟨hlt, -⟩ := Array.getElem?_eq_some_iff.mp hget
            simp only [ge_iff_le, Nat.le_add_left, decide_true, Nat.add_sub_cancel, hlt, hi, hget,
              Option.any_some, hc, Bool.and_self]
  | look l =>
      intro m hm j
      rw [ends, Positions.testBit_select]
      constructor
      · intro h
        obtain ⟨-, hi, hholds⟩ := by simpa using h
        exact ⟨j, hi, .look hholds⟩
      · rintro ⟨i, hi, hmatch⟩
        cases hmatch with
        | look hholds => simp [hi, hholds, Nat.lt_succ_of_le (hm j hi)]
  | seq r s ihr ihs =>
      intro m hm j
      rw [ends, ihs hr.2 _ ((ihr hr.1).within hm) j]
      constructor
      · rintro ⟨k, hk, hs⟩
        obtain ⟨i, hi, hrk⟩ := (ihr hr.1 m hm k).mp hk
        exact ⟨i, hi, .seq hrk hs⟩
      · rintro ⟨i, hi, hmatch⟩
        cases hmatch with
        | @seq _ _ _ k _ hrk hs => exact ⟨k, (ihr hr.1 m hm k).mpr ⟨i, hi, hrk⟩, hs⟩
  | alt r s ihr ihs =>
      intro m hm j
      rw [ends, Nat.testBit_or, Bool.or_eq_true, ihr hr.1 m hm j, ihs hr.2 m hm j]
      constructor
      · rintro (⟨i, hi, h⟩ | ⟨i, hi, h⟩)
        · exact ⟨i, hi, .left h⟩
        · exact ⟨i, hi, .right h⟩
      · rintro ⟨i, hi, hmatch⟩
        cases hmatch with
        | left h => exact .inl ⟨i, hi, h⟩
        | right h => exact .inr ⟨i, hi, h⟩
  | repeated least most r ih => exact (ih hr.2).repeated hr.1

/-- A search succeeds where some part of the text matches, and only there. -/
theorem isMatch_iff (hr : r.Ordered) :
    r.isMatch text = true ↔ ∃ i j, i ≤ text.size ∧ Matches text r i j := by
  have hwithin : (Positions.below (text.size + 1)).Within text := by
    intro i hi
    rw [Positions.testBit_below, decide_eq_true_eq] at hi
    exact Nat.le_of_lt_succ hi
  have hstart (i : Nat) : (Positions.below (text.size + 1)).testBit i = true ↔ i ≤ text.size := by
    rw [Positions.testBit_below, decide_eq_true_eq, Nat.lt_succ_iff]
  rw [isMatch, bne_iff_ne]
  constructor
  · intro hne
    obtain ⟨j, hj⟩ := Nat.exists_testBit_of_ne_zero hne
    obtain ⟨i, hi, hmatch⟩ := (reaches_ends hr _ hwithin j).mp hj
    exact ⟨i, j, (hstart i).mp hi, hmatch⟩
  · rintro ⟨i, j, hi, hmatch⟩ hzero
    have hj := (reaches_ends hr _ hwithin j).mpr ⟨i, (hstart i).mpr hi, hmatch⟩
    rw [hzero, Nat.zero_testBit] at hj
    cases hj

end Frontier.Regex
