import Frontier.Text.OsText

/-!
# Flags with a single dash

Seven flags may be written with one dash, as other search tools spell them.  `normalize` gives them
their second dash.  The argument after such a flag is its value and stays as it is, whatever it
looks like, so of several such flags in a row every other one is a value.
-/
namespace Frontier.CommandLine

/-- The byte `-`. -/
def dash : UInt8 := 45

/-- The flags that may be written with one dash. -/
def findStyleFlags : List OsText :=
  ["-name", "-iname", "-regex", "-iregex", "-type", "-mindepth", "-maxdepth"].map OsText.ofString

/-- Normalizes the rest of the arguments; `isValue` says that the first of them is the value of the
flag before it. -/
def normalizeFrom (isValue : Bool) : List OsText → List OsText
  | [] => []
  | a :: rest =>
    if isValue then a :: normalizeFrom false rest
    else if a ∈ findStyleFlags then (dash :: a) :: normalizeFrom true rest
    else a :: normalizeFrom false rest

/-- The arguments with a second dash for every flag that is written with one. -/
def normalize (args : List OsText) : List OsText := normalizeFrom false args

@[simp] theorem length_normalizeFrom (isValue : Bool) (args : List OsText) :
    (normalizeFrom isValue args).length = args.length := by
  induction args generalizing isValue with
  | nil => rfl
  | cons a rest ih =>
    unfold normalizeFrom
    split
    · simp [ih]
    · split <;> simp [ih]

end Frontier.CommandLine
