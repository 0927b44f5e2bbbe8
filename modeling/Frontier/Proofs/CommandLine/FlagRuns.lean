/-
# Runs of flags — every other flag of a run is a value

`normalize` reads the arguments once, from the first to the last, and remembers whether the
next one is the value of a flag.  Seen from one argument, what it remembers depends on the
flags that stand without a gap before it:

    x  -name  -type  -name  -type  y
       --     value  --     value

    before it an even number of flags      it is no value: a flag gets its second dash
    before it an odd number of flags       it is the value of the last of them

What comes before the run does not matter: after an argument that is no flag there is no
value, be that argument a value itself or not (`isValueAfter_iff_odd`).
-/
import Frontier.CommandLine.FindStyle
import Mathlib

namespace Frontier.CommandLine

/-- Whether a value comes next when these arguments have been read. -/
def isValueAfter (isValue : Bool) (args : List OsText) : Bool :=
  args.foldl (fun isValue a => !isValue && findStyleFlags.contains a) isValue

/-- How many flags stand without a gap before the argument of that index. -/
def flagsBefore (args : List OsText) (i : Nat) : Nat :=
  ((args.take i).rtakeWhile findStyleFlags.contains).length

/-- An argument gets a second dash if it is a flag and no value. -/
theorem getElem?_normalizeFrom (isValue : Bool) (args : List OsText) (i : Nat) :
    (normalizeFrom isValue args)[i]? = args[i]?.map fun a =>
      if a ∈ findStyleFlags ∧ isValueAfter isValue (args.take i) = false then dash :: a else a := by
  induction args generalizing isValue i with
  | nil => rfl
  | cons a rest ih =>
      have hcons : normalizeFrom isValue (a :: rest) =
          (if a ∈ findStyleFlags ∧ isValue = false then dash :: a else a) ::
            normalizeFrom (!isValue && findStyleFlags.contains a) rest := by
        cases isValue <;> by_cases ha : a ∈ findStyleFlags <;> simp [normalizeFrom, ha]
      rw [hcons]
      cases i with
      | zero => rfl
      | succ i =>
          rw [List.getElem?_cons_succ, List.getElem?_cons_succ, List.take_succ_cons, ih]
          rfl

/-- The last flag of a run takes the next argument for its value, unless it is a value itself. -/
theorem isValueAfter_iff_odd (args : List OsText) :
    isValueAfter false args = true ↔ Odd (args.rtakeWhile findStyleFlags.contains).length := by
  induction args using List.reverseRecOn with
  | nil => simp [isValueAfter]
  | append_singleton args a ih =>
      have hlast : isValueAfter false (args ++ [a]) =
          (!isValueAfter false args && findStyleFlags.contains a) :=
        List.foldl_concat ..
      have hrun := List.rtakeWhile_concat findStyleFlags.contains args a
      rw [hlast, hrun]
      by_cases ha : a ∈ findStyleFlags
      · simp [ha, Nat.odd_add_one, ← ih]
      · simp [ha]

/-- As many arguments come out as went in, and each is as it was, but for a flag that an even number
of flags stand before: it has one more dash. -/
theorem normalize_every_other (args : List OsText) :
    (normalize args).length = args.length ∧
      ∀ i, (normalize args)[i]? = args[i]?.map fun a =>
        if a ∈ findStyleFlags ∧ Even (flagsBefore args i) then dash :: a else a := by
  refine ⟨length_normalizeFrom false args, ?_⟩
  intro i
  have hparity : isValueAfter false (args.take i) = false ↔ Even (flagsBefore args i) := by
    rw [← Bool.not_eq_true, isValueAfter_iff_odd, Nat.not_odd_iff_even]
    rfl
  rw [normalize, getElem?_normalizeFrom]
  simp only [hparity]

/-- Of four flags in a row the second and the fourth are values. -/
example : normalize (["x", "-name", "-type", "-name", "-type", "y"].map OsText.ofString) =
    ["x", "--name", "-type", "--name", "-type", "y"].map OsText.ofString := by
  decide

end Frontier.CommandLine
