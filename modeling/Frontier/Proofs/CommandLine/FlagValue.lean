/-
# Flag values — which words a flag takes for its value

Two machines see the word behind a flag.  The first gives the flag its second dash and lets
that word pass, whatever it looks like (`normalizeFrom_flag`).  The second reads no word as
a value that could be an option:

| the word behind the flag            | is read as                         |
| :-- | :-- |
| `Plain`                             | the value, as it is                |
| written like an option that there is | that option; the value is missing |
| written like any other option       | an option that is unknown          |

So a value comes through just when it is `Plain` (`flag_value_iff_plain`), and the name
`-type`, which the first machine is careful to let pass, does not (`flag_value_refused`).
-/
import Frontier.Proofs.CommandLine.RoundTrip
import Mathlib

namespace Frontier.CommandLine

variable {p : Progress} {s : Setting} {word : OsText}

/-! ## A word that could be an option -/

/-- What can be said of a word where the value of an option is wanted. -/
def Mistake.Misplaced (s : Setting) : Mistake → Prop
  | valueMissing shown => shown = s.shown
  | unknown _ | unexpectedValue _ _ => True
  | _ => False

/-- Reading ends with a mistake about the word that came for the value. -/
def Refused (s : Setting) (result : Except Mistake Progress) : Prop :=
  ∃ mistake, result = .error mistake ∧ mistake.Misplaced s

namespace Refused

theorem settle (h : p.pending = .wanting s) : Refused s p.settle := by
  refine ⟨.valueMissing s.shown, ?_, rfl⟩
  rw [Progress.settle, h]

theorem bind {first : Except Mistake Progress} (h : Refused s first)
    (next : Progress → Except Mistake Progress) : Refused s (first.bind next) := by
  obtain ⟨mistake, rfl, hmisplaced⟩ := h
  exact ⟨mistake, rfl, hmisplaced⟩

/-- Whatever else begins, it finds the value missing. -/
theorem beginSetting (h : p.pending = .wanting s) (t : Setting) (attached : Option OsText) :
    Refused s (p.beginSetting t attached) :=
  (settle h).bind _

theorem beginToggle (h : p.pending = .wanting s) (t : Toggle) (long : Bool) :
    Refused s (p.beginToggle t long) :=
  (settle h).bind _

theorem takeLong (h : p.pending = .wanting s) (body : OsText) : Refused s (p.takeLong body) := by
  unfold Progress.takeLong
  dsimp only
  split
  · exact beginSetting h _ _
  · split
    · exact beginToggle h _ true
    · exact ⟨_, rfl, trivial⟩
    · exact ⟨_, rfl, trivial⟩

theorem takeLetters (h : p.pending = .wanting s) (letters : List OsText.Piece) :
    Refused s ((p.takeLetters letters).bind Progress.settle) := by
  cases letters with
  | nil => exact settle h
  | cons letter rest =>
      refine bind ?_ _
      cases letter with
      | stray bytes => exact ⟨_, rfl, trivial⟩
      | char c =>
          unfold Progress.takeLetters
          split
          · exact beginSetting h _ _
          · split
            · exact (beginToggle h _ false).bind _
            · exact ⟨_, rfl, trivial⟩

end Refused

/-- A word that could be an option is not taken for a value. -/
theorem refused_of_not_plain (hoptions : p.onlyPaths = false) (h : p.pending = .wanting s)
    (hplain : ¬Plain word) : Refused s ((p.take word).bind Progress.settle) := by
  rw [Progress.take.eq_def, if_neg (by simp [hoptions])]
  split
  · exact .settle h
  · exact (Refused.takeLong h _).bind _
  · exact .takeLetters h _
  · next hdouble _ hsingle =>
      -- no dash, or nothing behind it
      refine absurd ?_ hplain
      rcases word with _ | ⟨a, _ | ⟨b, rest⟩⟩
      · exact .inr (by simp)
      · by_cases ha : a = dash
        · exact .inl (by rw [ha])
        · exact .inr (by simpa using ha)
      · exact .inr fun ha => hsingle b rest (by cases ha; rfl)

/-! ## One flag and one value -/

/-- The words of a command with one flag and the word behind it. -/
def oneFlag (s : Setting) (value : String) : List OsText :=
  [OsText.ofString programName, OsText.ofString (Written.flag s), OsText.ofString value]

theorem arguments?_oneFlag (hs : s ≠ .jobs) (value : String) :
    arguments? (oneFlag s value) =
      (parseFrom {} (Written.apart s value).normalWords).map Progress.args := by
  rw [arguments?, oneFlag, normalize, normalizeFrom_cons (by decide), normalizeFrom_flag hs, parse,
    List.tail_cons, Written.normalWords, if_neg hs]
  rfl

/-- A plain word is the value, and all else is as it was. -/
theorem oneFlag_of_plain (htext : s.isNumber = false) {value : String}
    (hplain : Plain (OsText.ofString value)) :
    ∃ args, arguments? (oneFlag s value) = .ok args ∧ args.roots = [] ∧ args.verbose = false ∧
      ∀ t, args.value? t = (if s = t then some value else none).or (({} : Arguments).value? t) := by
  have hs : s ≠ .jobs := by
    rintro rfl
    cases htext
  have hreadable : Readable s value := fun hnumber => by rw [htext] at hnumber; cases hnumber
  have hstart : Holds {} {} [] := ⟨rfl, rfl⟩
  obtain ⟨q, args, after, hread, hq, hadds⟩ :=
    reads_apart hstart hplain List.not_mem_nil hreadable
  have hparse : parseFrom {} (Written.apart s value).normalWords = q.settle := by
    have hnothing := hread []
    rw [List.append_nil] at hnothing
    exact hnothing
  refine ⟨args, ?_, hadds.roots, by simpa using hadds.verbose, hadds.values⟩
  rw [arguments?_oneFlag hs, hparse, hq.settle]
  rfl

/-- Any other word is a mistake. -/
theorem oneFlag_of_not_plain (hs : s ≠ .jobs) {value : String}
    (hplain : ¬Plain (OsText.ofString value)) :
    ∃ mistake, arguments? (oneFlag s value) = .error mistake ∧ mistake.Misplaced s := by
  obtain ⟨mistake, herror, hmisplaced⟩ := refused_of_not_plain
    (p := { pending := .wanting s }) rfl rfl hplain
  refine ⟨mistake, ?_, hmisplaced⟩
  have hflag : (Progress.take {} (OsText.ofString ("--" ++ s.long))) =
      .ok { pending := .wanting s } := by
    have htake := take_flag (p := {}) rfl s
    rw [if_neg hs] at htake
    rw [htake]
    rfl
  have hparse : parseFrom {} (Written.apart s value).normalWords =
      (Progress.take { pending := .wanting s } (OsText.ofString value)).bind Progress.settle := by
    rw [Written.normalWords, if_neg hs, parseFrom, hflag]
    rfl
  rw [arguments?_oneFlag hs, hparse, herror]
  rfl

/-- A flag has its value verbatim, and nothing else is asked for, just when the value is no word
that could be an option.  Otherwise there is a mistake, and it is about that word. -/
theorem flag_value_iff_plain (value : String) :
    (arguments? (oneFlag .name value) = .ok { name := some value } ↔
        Plain (OsText.ofString value)) ∧
      (arguments? (oneFlag .iname value) = .ok { iname := some value } ↔
        Plain (OsText.ofString value)) ∧
      (arguments? (oneFlag .regex value) = .ok { regex := some value } ↔
        Plain (OsText.ofString value)) ∧
      (arguments? (oneFlag .iregex value) = .ok { iregex := some value } ↔
        Plain (OsText.ofString value)) ∧
      ∀ s, s ≠ .jobs → ¬Plain (OsText.ofString value) →
        ∃ mistake, arguments? (oneFlag s value) = .error mistake ∧ mistake.Misplaced s := by
  have hiff {s : Setting} (htext : s.isNumber = false) {args : Arguments} (hroots : args.roots = [])
      (hverbose : args.verbose = false) (hvalues : ∀ t, args.value? t =
        (if s = t then some value else none).or (({} : Arguments).value? t)) :
      arguments? (oneFlag s value) = .ok args ↔ Plain (OsText.ofString value) := by
    constructor
    · intro hok
      by_contra hplain
      obtain ⟨mistake, herror, -⟩ :=
        oneFlag_of_not_plain (s := s) (by rintro rfl; cases htext) hplain
      rw [hok] at herror
      cases herror
    · intro hplain
      obtain ⟨args', hok, hroots', hverbose', hvalues'⟩ := oneFlag_of_plain htext hplain
      rw [hok, Except.ok.injEq]
      exact Arguments.ext_values (hroots'.trans hroots.symm)
        (fun t => (hvalues' t).trans (hvalues t).symm) (hverbose'.trans hverbose.symm)
  refine ⟨hiff rfl rfl rfl ?_, hiff rfl rfl rfl ?_, hiff rfl rfl rfl ?_, hiff rfl rfl rfl ?_,
    fun s hs => oneFlag_of_not_plain hs⟩
  all_goals exact fun t => by cases t <;> rfl

/-- A file whose name is that of a flag is not searched for, but the name is taken for an option
that is unknown. -/
theorem flag_value_refused :
    normalize (oneFlag .name "-type") =
        [OsText.ofString "fff", OsText.ofString "--name", OsText.ofString "-type"] ∧
      arguments? (oneFlag .name "-type") = .error (.unknown "-t") :=
  ⟨by decide, by decide⟩

end Frontier.CommandLine
