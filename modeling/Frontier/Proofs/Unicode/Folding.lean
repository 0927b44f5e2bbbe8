/-
# Folding — the orbit of a character is its class up to case

`orbit c` is computed from the table by running it backwards.  It holds the
characters that fold like `c`, all of them and no others (`mem_orbit_iff`).
What the table has to be like for that:

    each run takes characters to characters      (`runs_valid`)
    no character is in two runs                  (`runs_apart`)
    what a run folds to is in no run             (`runs_miss`)

The three are checked on the ends of the runs, not on the characters in them.
-/
import Frontier.Unicode.Fold
import Mathlib

namespace Frontier.Unicode

variable {r r' : FoldRun} {n t : Nat} {c d : Char}

namespace FoldRun

theorem image?_eq_some_iff :
    r.image? n = some t ↔
      (r.first ≤ n ∧ n ≤ r.last ∧ (n - r.first) % r.step = 0) ∧ ((n : Int) + r.shift).toNat = t := by
  unfold image?
  split
  · next h => simp [h]
  · next h => simp [h]

/-! ## The table -/

/-- What the first character of the run folds to. -/
def low (r : FoldRun) : Nat := ((r.first : Int) + r.shift).toNat

/-- What the last character of the run folds to. -/
def high (r : FoldRun) : Nat := ((r.last : Int) + r.shift).toNat

/-- The numbers from `first` to `last` are characters. -/
def IsBlock (first last : Nat) : Prop := last < 0xD800 ∨ 0xDFFF < first ∧ last < 0x110000

/-- The run takes characters to characters. -/
structure Valid (r : FoldRun) : Prop where
  nonneg : 0 ≤ (r.first : Int) + r.shift
  source : IsBlock r.first r.last
  image : IsBlock r.low r.high

/-- One run ends before the other begins. -/
def Before (r r' : FoldRun) : Prop := r.last < r'.first ∧ r'.first ≤ r'.last

instance : Trans Before Before Before where
  trans := fun h h' => ⟨by have := h.1; have := h.2; have := h'.1; omega, h'.2⟩

/-- Not every number from the first to the last needs to be in the run. -/
def isSparse (r : FoldRun) : Bool := Nat.beq r.step 2 || Nat.beq r.first r.last

/-- No number from `low` to `high` is in the run; if there are gaps between them, they may lie in the
gaps of the run. -/
def misses (low high : Nat) (gaps : Bool) (r : FoldRun) : Bool :=
  Nat.blt high r.first || (Nat.blt r.last low ||
    (gaps && (Nat.beq r.step 2 && Nat.beq ((low + r.first) % 2) 1)))

end FoldRun

open FoldRun (IsBlock Before misses)

theorem runs_valid : ∀ r ∈ foldRuns, r.Valid := by
  have hchecked : ∀ r ∈ foldRuns, 0 ≤ (r.first : Int) + r.shift ∧
      (r.last < 0xD800 ∨ 0xDFFF < r.first ∧ r.last < 0x110000) ∧
        (r.high < 0xD800 ∨ 0xDFFF < r.low ∧ r.high < 0x110000) := by
    decide +kernel
  intro r hr
  obtain ⟨hnonneg, hsource, himage⟩ := hchecked r hr
  exact ⟨hnonneg, hsource, himage⟩

theorem runs_apart : foldRuns.Pairwise Before := by
  have hchain : foldRuns.IsChain fun r r' => r.last < r'.first ∧ r'.first ≤ r'.last := by
    decide +kernel
  exact List.isChain_iff_pairwise.mp hchain

theorem runs_miss :
    (foldRuns.all fun r => foldRuns.all (misses r.low r.high r.isSparse)) = true := by
  decide +kernel

/-! ## What a run covers -/

theorem FoldRun.Valid.isValidChar (hr : r.Valid) (h : r.image? n = some t) :
    n.isValidChar ∧ t.isValidChar := by
  obtain ⟨⟨hfirst, hlast, -⟩, rfl⟩ := FoldRun.image?_eq_some_iff.mp h
  have hnonneg := hr.nonneg
  have hsource := hr.source
  have himage := hr.image
  simp only [IsBlock, FoldRun.low, FoldRun.high] at hsource himage
  constructor
  · unfold Nat.isValidChar
    omega
  · unfold Nat.isValidChar
    omega

/-- Of all runs only one covers a number. -/
theorem eq_of_covered {t' : Nat} (hr : r ∈ foldRuns) (hr' : r' ∈ foldRuns)
    (h : r.image? n = some t) (h' : r'.image? n = some t') : r = r' := by
  obtain ⟨⟨hfirst, hlast, -⟩, -⟩ := FoldRun.image?_eq_some_iff.mp h
  obtain ⟨⟨hfirst', hlast', -⟩, -⟩ := FoldRun.image?_eq_some_iff.mp h'
  obtain ⟨i, hi, rfl⟩ := List.getElem_of_mem hr
  obtain ⟨j, hj, rfl⟩ := List.getElem_of_mem hr'
  rcases Nat.lt_trichotomy i j with hlt | rfl | hlt
  · have hbefore := (List.pairwise_iff_getElem.mp runs_apart i j hi hj hlt).1
    omega
  · rfl
  · have hbefore := (List.pairwise_iff_getElem.mp runs_apart j i hj hi hlt).1
    omega

/-- What a run folds to is in no run. -/
theorem image?_image? (hr : r ∈ foldRuns) (hr' : r' ∈ foldRuns) (h : r.image? n = some t) :
    r'.image? t = none := by
  obtain ⟨⟨hfirst, hlast, hstep⟩, rfl⟩ := FoldRun.image?_eq_some_iff.mp h
  have hnonneg := (runs_valid r hr).nonneg
  have hmisses : misses r.low r.high r.isSparse r' = true :=
    List.all_eq_true.mp (List.all_eq_true.mp runs_miss r hr) r' hr'
  rw [Option.eq_none_iff_forall_ne_some]
  intro t' h'
  obtain ⟨⟨hfirst', hlast', hstep'⟩, -⟩ := FoldRun.image?_eq_some_iff.mp h'
  simp only [misses, FoldRun.isSparse, FoldRun.low, FoldRun.high, Nat.blt_eq, Bool.or_eq_true,
    Bool.and_eq_true, Nat.beq_eq] at hmisses
  rcases hmisses with habove | hbelow | ⟨hsparse, hpair, hodd⟩
  · omega
  · omega
  · -- the characters of both runs are two apart, and those of one lie between those of the other
    rw [hpair] at hstep'
    rcases hsparse with hpair' | hsingle
    · rw [hpair'] at hstep
      omega
    · omega

/-! ## Folding -/

theorem fold_of_image? (hr : r ∈ foldRuns) (h : r.image? c.toNat = some t) :
    fold c = Char.ofNat t := by
  have hsome : (foldRuns.findSome? (·.image? c.toNat)).isSome = true :=
    List.findSome?_isSome_iff.mpr ⟨r, hr, by rw [h]; rfl⟩
  obtain ⟨t', ht'⟩ := Option.isSome_iff_exists.mp hsome
  obtain ⟨r', hr', h'⟩ := List.exists_of_findSome?_eq_some ht'
  obtain rfl := eq_of_covered hr hr' h h'
  obtain rfl : t = t' := Option.some.inj (h.symm.trans h')
  rw [fold, ht']

theorem fold_of_uncovered (h : ∀ r ∈ foldRuns, r.image? c.toNat = none) : fold c = c := by
  rw [fold, List.findSome?_eq_none_iff.mpr h]

/-- A character is in a run, or folds to itself. -/
theorem covered_or_fold_eq (c : Char) :
    (∃ r ∈ foldRuns, ∃ t, r.image? c.toNat = some t ∧ fold c = Char.ofNat t) ∨ fold c = c := by
  by_cases hcovered : ∃ r ∈ foldRuns, ∃ t, r.image? c.toNat = some t
  · obtain ⟨r, hr, t, h⟩ := hcovered
    exact .inl ⟨r, hr, t, h, fold_of_image? hr h⟩
  · refine .inr (fold_of_uncovered fun r hr => ?_)
    rw [Option.eq_none_iff_forall_ne_some]
    exact fun t h => hcovered ⟨r, hr, t, h⟩

/-- Folding a second time changes nothing. -/
@[simp] theorem fold_fold (c : Char) : fold (fold c) = fold c := by
  rcases covered_or_fold_eq c with ⟨r, hr, t, h, hfold⟩ | hfold
  · rw [hfold]
    refine fold_of_uncovered fun r' hr' => ?_
    rw [Char.toNat_ofNat, if_pos ((runs_valid r hr).isValidChar h).2]
    exact image?_image? hr hr' h
  · rw [hfold, hfold]

theorem source?_eq_some_iff (hr : r ∈ foldRuns) :
    r.source? t = some n ↔ r.image? n = some t := by
  unfold FoldRun.source?
  dsimp only
  constructor
  · intro h
    split at h
    · next himage =>
        obtain rfl := Option.some.inj h
        exact himage
    · cases h
  · intro h
    obtain ⟨⟨hfirst, -, -⟩, ht⟩ := FoldRun.image?_eq_some_iff.mp h
    have hnonneg := (runs_valid r hr).nonneg
    have hback : ((t : Int) - r.shift).toNat = n := by omega
    rw [hback, if_pos h]

/-- The orbit of a character holds the characters that fold like it. -/
theorem mem_orbit_iff : c ∈ orbit d ↔ fold c = fold d := by
  simp only [orbit, List.mem_cons, List.mem_filterMap, Option.map_eq_some_iff]
  constructor
  · rintro (rfl | rfl | ⟨r, hr, n, hsource, rfl⟩)
    · rfl
    · exact fold_fold d
    · have himage := (source?_eq_some_iff hr).mp hsource
      have hn : (Char.ofNat n).toNat = n := by
        rw [Char.toNat_ofNat, if_pos ((runs_valid r hr).isValidChar himage).1]
      rw [fold_of_image? hr (hn.symm ▸ himage), Char.ofNat_toNat]
  · intro heq
    rcases covered_or_fold_eq c with ⟨r, hr, t, himage, hfold⟩ | hfold
    · have ht : (fold d).toNat = t := by
        rw [← heq, hfold, Char.toNat_ofNat, if_pos ((runs_valid r hr).isValidChar himage).2]
      refine .inr (.inr ⟨r, hr, c.toNat, ?_, Char.ofNat_toNat c⟩)
      rw [ht]
      exact (source?_eq_some_iff hr).mpr himage
    · exact .inr (.inl (hfold.symm.trans heq))

end Frontier.Unicode
