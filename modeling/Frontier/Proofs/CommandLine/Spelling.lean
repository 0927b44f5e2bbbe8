/-
# Command lines — the ways to write arguments

Arguments can be written in many ways: an option with one dash or with two, its value in
the same word or in the next, options and paths in any order.  `Renders args ws` says that
the word groups `ws` are such a way.

Here are the two facts about words that reading them needs: a decimal number is read back
(`readNumber_toString`), and `normalize` goes over them word group by word group
(`normalizeFrom_flatMap`).  It is behind a flag only inside a word group, because nothing
else that may be written is such a flag (`Plain.not_mem`).
-/
import Frontier.CommandLine.Program
import Frontier.Proofs.Text.Utf8
import Mathlib

namespace Frontier.CommandLine

/-! ## Writing arguments -/

/-- A word group of a command line: a path, or an option in one of its spellings. -/
inductive Written where
  | root (path : Path)
  /-- The option, and its value as the next word. -/
  | apart (s : Setting) (value : String)
  /-- The option with two dashes and its value behind `=`. -/
  | joined (s : Setting) (value : String)
  /-- The number of threads behind its letter. -/
  | letter (value : String)
  | verbose
  deriving DecidableEq

namespace Written

/-- The option in front of a value that is the next word. -/
def flag (s : Setting) : String := if s = .jobs then "-j" else "-" ++ s.long

/-- The words. -/
def words : Written → List OsText
  | root path => [path.text]
  | apart s value => [OsText.ofString (flag s), OsText.ofString value]
  | joined s value => [OsText.ofString ("--" ++ s.long ++ "=" ++ value)]
  | letter value => [OsText.ofString ("-j" ++ value)]
  | verbose => [OsText.ofString "-v"]

/-- The path. -/
def root? : Written → Option Path
  | root path => some path
  | _ => none

/-- The value that an option is given. -/
def given? (s : Setting) : Written → Option String
  | apart t value | joined t value => if t = s then some value else none
  | letter value => if s = .jobs then some value else none
  | _ => none

end Written

/-- A word that cannot be taken for an option. -/
def Plain (word : OsText) : Prop := word = [dash] ∨ word.head? ≠ some dash

instance : DecidablePred Plain := fun _ => inferInstanceAs (Decidable (_ ∨ _))

/-- The value of an option, as it is written. -/
def Arguments.value? (args : Arguments) : Setting → Option String
  | .name => args.name
  | .iname => args.iname
  | .regex => args.regex
  | .iregex => args.iregex
  | .type => args.type
  | .minDepth => args.minDepth.map toString
  | .maxDepth => args.maxDepth.map toString
  | .jobs => some (toString args.jobs)

/-- The numbers are such as the machine has. -/
structure Arguments.InRange (args : Arguments) : Prop where
  minDepth : ∀ n ∈ args.minDepth, n < numberLimit
  maxDepth : ∀ n ∈ args.maxDepth, n < numberLimit
  jobs : args.jobs < numberLimit

/-- The values that an option is given in a row of word groups. -/
def valuesOf (s : Setting) (ws : List Written) : List String := ws.filterMap (Written.given? s)

/-- The word groups tell the arguments: the paths in their order, and in any order between
them each option that has a value once.  One thread need not be told. -/
structure Tells (args : Arguments) (ws : List Written) : Prop where
  roots : ws.filterMap Written.root? = args.roots
  values : ∀ s, valuesOf s ws = (args.value? s).toList ∨
    s = .jobs ∧ args.jobs = 1 ∧ valuesOf s ws = []
  verbose : ws.count .verbose = if args.verbose then 1 else 0

/-- The word groups are a way to write the arguments. -/
structure Renders (args : Arguments) (ws : List Written) : Prop extends Tells args ws where
  apart : ∀ s value, .apart s value ∈ ws → Plain (OsText.ofString value)

/-! ## Numbers -/

section Numbers

variable {n m : Nat}

theorem toList_toString (n : Nat) : (toString n).toList = Nat.toDigits 10 n := by
  rw [Nat.toString_eq_repr, Nat.toList_repr]

theorem readDigits_append {before : List Char} (h : readDigits m before = .ok n)
    (after : List Char) : readDigits m (before ++ after) = readDigits n after := by
  induction before generalizing m with
  | nil => cases h; rfl
  | cons c before ih =>
      rw [readDigits] at h
      rw [List.cons_append, readDigits]
      split at h
      · next hdigit =>
          rw [if_pos hdigit]
          dsimp only at h ⊢
          split at h
          · next hlt => rw [if_pos hlt]; exact ih h
          · cases h
      · cases h

theorem readDigits_digitChar {d : Nat} (hd : d < 10) (h : 10 * m + d < numberLimit) :
    readDigits m [d.digitChar] = .ok (10 * m + d) := by
  have hvalue : d.digitChar.toNat - '0'.toNat = d := by
    rw [Nat.toNat_digitChar_of_lt_ten hd]
    exact Nat.add_sub_cancel_left 48 d
  have hdigit : d.digitChar.isDigit = true := by rw [Nat.isDigit_digitChar]; simpa using hd
  rw [readDigits, if_pos hdigit, hvalue]
  dsimp only
  rw [if_pos h, readDigits]

theorem readDigits_toDigits (n : Nat) (h : n < numberLimit) :
    readDigits 0 (Nat.toDigits 10 n) = .ok n := by
  induction n using Nat.strongRecOn with
  | ind n ih =>
      rw [Nat.toDigits_eq_if (by decide)]
      split
      · next hlt => simpa using readDigits_digitChar (m := 0) hlt (by omega)
      · next hge =>
          have hvalue : 10 * (n / 10) + n % 10 = n := Nat.div_add_mod n 10
          rw [readDigits_append (ih (n / 10) (by omega) (by omega)),
            readDigits_digitChar (Nat.mod_lt n (by decide)) (by omega), hvalue]

/-- The decimal digits of a number begin with a digit. -/
theorem toDigits_eq_cons (n : Nat) :
    ∃ c cs, Nat.toDigits 10 n = c :: cs ∧ c.isDigit = true := by
  cases h : Nat.toDigits 10 n with
  | nil => exact absurd h Nat.toDigits_ne_nil
  | cons c cs =>
      have hmem : c ∈ Nat.toDigits 10 n := by simp [h]
      exact ⟨c, cs, rfl, Nat.isDigit_of_mem_toDigits (by decide) (by decide) hmem⟩

/-- A number is read back from its decimal digits. -/
theorem readNumber_toString (h : n < numberLimit) : readNumber (toString n) = .ok n := by
  obtain ⟨c, cs, hdigits, hc⟩ := toDigits_eq_cons n
  have hread := readDigits_toDigits n h
  rw [hdigits] at hread
  have hplus : c ≠ '+' := fun he => by subst he; revert hc; decide
  rw [readNumber, toList_toString, hdigits]
  split
  · next he => cases he
  · next he => cases he; exact absurd rfl hplus
  · next he => cases he; exact absurd rfl hplus
  · exact hread

/-- No decimal number begins with a dash or with `=`. -/
theorem ofString_toString_head (n : Nat) :
    ∃ b rest, OsText.ofString (toString n) = b :: rest ∧ b ≠ dash ∧ b ≠ Progress.equals := by
  obtain ⟨c, cs, hdigits, hc⟩ := toDigits_eq_cons n
  have hrange : 48 ≤ c.toNat ∧ c.toNat ≤ 57 := by
    simpa [Char.isDigit, UInt32.le_iff_toNat_le] using hc
  have hbytes : String.utf8EncodeChar c = [UInt8.ofNat c.toNat] := by
    rw [String.utf8EncodeChar]
    exact if_pos (show c.toNat ≤ 0x7F by omega)
  have hbyte : (UInt8.ofNat c.toNat).toNat = c.toNat := OsText.toNat_ofNat_of_lt (by omega)
  have hne (b : UInt8) (hb : b.toNat < 48 ∨ 57 < b.toNat) : UInt8.ofNat c.toNat ≠ b := by
    rintro rfl
    omega
  refine ⟨_, OsText.ofChars cs, ?_, hne dash (by decide), hne Progress.equals (by decide)⟩
  rw [OsText.ofString, toList_toString, hdigits, OsText.ofChars, List.flatMap_cons, hbytes]
  rfl

end Numbers

/-! ## The second dash -/

section Normalizing

variable {w : Written} {word : OsText}

/-- Nothing in the word group can be taken for something else. -/
def Written.Allowed : Written → Prop
  | root path => path.text ≠ [] ∧ Plain path.text
  | apart _ value => Plain (OsText.ofString value)
  | _ => True

/-- The words with a second dash where one was missing. -/
def Written.normalWords : Written → List OsText
  | apart s value =>
      [OsText.ofString (if s = .jobs then "-j" else "--" ++ s.long), OsText.ofString value]
  | w => w.words

theorem ofString_joined (s : Setting) (value : String) :
    OsText.ofString ("--" ++ s.long ++ "=" ++ value) =
      dash :: dash :: (OsText.ofString s.long ++ Progress.equals :: OsText.ofString value) := by
  simp only [OsText.ofString_append, List.append_assoc]
  rfl

theorem ofString_letter (value : String) :
    OsText.ofString ("-j" ++ value) = dash :: 106 :: OsText.ofString value := by
  rw [OsText.ofString_append]
  rfl

/-- A flag that may have one dash has no second one, and is neither `-j` nor `-v`. -/
theorem flag_eq_cons (h : word ∈ findStyleFlags) :
    ∃ b rest, word = dash :: b :: rest ∧ b ≠ dash ∧ b ≠ 106 ∧ b ≠ 118 := by
  have hall : ∀ word ∈ findStyleFlags, word.head? = some dash ∧
      (word[1]?).any (fun b => b ≠ dash ∧ b ≠ 106 ∧ b ≠ 118) = true := by decide
  obtain ⟨hfirst, hsecond⟩ := hall word h
  rcases word with _ | ⟨a, _ | ⟨b, rest⟩⟩
  · cases hfirst
  · cases hsecond
  · obtain rfl := Option.some.inj hfirst
    exact ⟨b, rest, rfl, of_decide_eq_true hsecond⟩

theorem Plain.not_mem (h : Plain word) : word ∉ findStyleFlags := by
  intro hmem
  obtain ⟨b, rest, rfl, -⟩ := flag_eq_cons hmem
  rcases h with h | h
  · cases h
  · exact h rfl

theorem normalizeFrom_cons (h : word ∉ findStyleFlags) (rest : List OsText) :
    normalizeFrom false (word :: rest) = word :: normalizeFrom false rest := by
  rw [normalizeFrom, if_neg Bool.false_ne_true, if_neg h]

/-- A flag gets its second dash, and the word behind it stays, whatever it looks like. -/
theorem normalizeFrom_flag {s : Setting} (hs : s ≠ .jobs) (value : OsText) (rest : List OsText) :
    normalizeFrom false (OsText.ofString (Written.flag s) :: value :: rest) =
      OsText.ofString ("--" ++ s.long) :: value :: normalizeFrom false rest := by
  have hmem : OsText.ofString (Written.flag s) ∈ findStyleFlags := by
    cases s <;> first | decide | exact absurd rfl hs
  have hflag : dash :: OsText.ofString (Written.flag s) = OsText.ofString ("--" ++ s.long) := by
    rw [Written.flag, if_neg hs, OsText.ofString_append, OsText.ofString_append]
    rfl
  rw [normalizeFrom, if_neg Bool.false_ne_true, if_pos hmem, normalizeFrom, if_pos rfl, hflag]

/-- Behind a word group the first machine is not behind a flag. -/
theorem normalizeFrom_words (h : w.Allowed) (rest : List OsText) :
    normalizeFrom false (w.words ++ rest) = w.normalWords ++ normalizeFrom false rest := by
  cases w with
  | root path => exact normalizeFrom_cons h.2.not_mem rest
  | apart s value =>
      have hvalue : normalizeFrom false (OsText.ofString value :: rest) =
          OsText.ofString value :: normalizeFrom false rest := normalizeFrom_cons h.not_mem rest
      by_cases hs : s = .jobs
      · -- `-j` gets no second dash, so its value is looked at like any other word
        subst hs
        exact (normalizeFrom_cons (by decide) _).trans (congrArg _ hvalue)
      · rw [Written.normalWords, if_neg hs]
        exact normalizeFrom_flag hs _ rest
  | joined s value =>
      refine normalizeFrom_cons (fun hmem => ?_) rest
      obtain ⟨b, more, heq, hb, -⟩ := flag_eq_cons hmem
      rw [ofString_joined] at heq
      cases heq
      exact hb rfl
  | letter value =>
      refine normalizeFrom_cons (fun hmem => ?_) rest
      obtain ⟨b, more, heq, -, hb, -⟩ := flag_eq_cons hmem
      rw [ofString_letter] at heq
      cases heq
      exact hb rfl
  | verbose => exact normalizeFrom_cons (by decide) rest

theorem normalizeFrom_flatMap {ws : List Written} (h : ∀ w ∈ ws, w.Allowed) :
    normalizeFrom false (ws.flatMap Written.words) = ws.flatMap Written.normalWords := by
  induction ws with
  | nil => rfl
  | cons w ws ih =>
      rw [List.flatMap_cons, List.flatMap_cons, normalizeFrom_words (h w List.mem_cons_self),
        ih fun v hv => h v (List.mem_cons_of_mem w hv)]

end Normalizing

end Frontier.CommandLine
