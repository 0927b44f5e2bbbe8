/-
# Openings — groups and counts, with a closing parenthesis behind the text

What stands behind an opening parenthesis, and what stands between the braces of
a count, is read the same with the closing behind the text where the text itself
ends it.  An opening that is cut short may take the parenthesis of the closing
for the end of its flags; a count that is cut short is never completed, as
neither character of the closing is a brace.
-/
import Frontier.Proofs.Regex.Readers

namespace Frontier.Regex

/-! ## Groups -/

/-- A flag list and whether a colon ended it, as one result. -/
def flagsRead (seen : List FlagItem) (s : List Char) :
    Except Fault ((List FlagItem × Bool) × List Char) :=
  (flagList seen s).map fun y => ((y.1, y.2.1), y.2.2)

theorem flagsRead_byCharacter : ByCharacter flagsRead := by
  intro seen c
  simp only [flagsRead, flagList]
  split_ifs
  · exact .inr (.inr ⟨_, fun _ => rfl⟩)
  · exact .inr (.inl ⟨(seen.reverse, decide (c = ':')), fun _ => rfl⟩)
  · exact .inr (.inr ⟨_, fun _ => rfl⟩)
  · exact .inl ⟨_, fun _ => rfl⟩
  · cases Flag.ofChar? c with
    | none => exact .inr (.inr ⟨_, fun _ => rfl⟩)
    | some f =>
        simp only
        split_ifs
        · exact .inr (.inr ⟨_, fun _ => rfl⟩)
        · exact .inl ⟨_, fun _ => rfl⟩

theorem reads_flagsRead (seen : List FlagItem) : Reads (flagsRead seen) :=
  flagsRead_byCharacter.reads (fun _ => ⟨_, rfl⟩) seen

theorem groupName_byCharacter : ByCharacter groupName := by
  intro name c
  simp only [groupName]
  split_ifs
  · exact .inr (.inr ⟨_, fun _ => rfl⟩)
  · exact .inr (.inl ⟨_, fun _ => rfl⟩)
  · exact .inl ⟨_, fun _ => rfl⟩
  · exact .inr (.inr ⟨_, fun _ => rfl⟩)

theorem reads_groupName (name : List Char) : Reads (groupName name) :=
  groupName_byCharacter.reads (fun _ => ⟨_, rfl⟩) name

/-- A mark without a closing parenthesis does not run into the closing. -/
theorem isPrefixOf_closing {mark : List Char} (hmark : ')' ∉ mark) (s : List Char) :
    mark.isPrefixOf (s ++ closing) = mark.isPrefixOf s := by
  induction mark generalizing s with
  | nil => simp
  | cons m mark ih =>
      simp only [List.mem_cons, not_or] at hmark
      cases s with
      | nil =>
          have hne : (m == ')') = false := by simpa using Ne.symm hmark.1
          simp [closing, List.isPrefixOf, hne]
      | cons c s => simp [List.isPrefixOf, ih hmark.2]

theorem stripStart?_closing {mark : String} (hmark : ')' ∉ mark.toList) (s : List Char) :
    stripStart? mark (s ++ closing) = (stripStart? mark s).map (· ++ closing) := by
  rw [stripStart?, stripStart?, isPrefixOf_closing hmark]
  split
  · next hprefix =>
      have hle := (List.isPrefixOf_iff_prefix.mp hprefix).length_le
      rw [List.drop_append_of_le_length hle]
      rfl
  · rfl

theorem isLookAround_closing (s : List Char) : isLookAround (s ++ closing) = isLookAround s := by
  simp only [isLookAround, List.any_cons, List.any_nil]
  rw [stripStart?_closing (by decide), stripStart?_closing (by decide),
    stripStart?_closing (by decide), stripStart?_closing (by decide)]
  simp only [Option.isSome_map]

/-- The text after the mark of a group name. -/
def stripNameMark? (s : List Char) : Option (List Char) :=
  stripStart? "?P<" s <|> stripStart? "?<" s

theorem stripStart?_suffix {mark : String} {s rest : List Char}
    (h : stripStart? mark s = some rest) : rest <:+ s := by
  rw [stripStart?] at h
  split at h
  · cases h
    exact List.drop_suffix _ s
  · cases h

theorem stripNameMark?_suffix {s rest : List Char} (h : stripNameMark? s = some rest) :
    rest <:+ s := by
  rw [stripNameMark?] at h
  cases hlong : stripStart? "?P<" s with
  | some left =>
      rw [hlong] at h
      cases h
      exact stripStart?_suffix hlong
  | none =>
      rw [hlong] at h
      exact stripStart?_suffix h

theorem stripNameMark?_closing (s : List Char) :
    stripNameMark? (s ++ closing) = (stripNameMark? s).map (· ++ closing) := by
  rw [stripNameMark?, stripNameMark?, stripStart?_closing (by decide),
    stripStart?_closing (by decide)]
  cases stripStart? "?P<" s <;> rfl

/-- What an opening begins where no name does. -/
def plainOpening (s : List Char) : Except Fault (Opening × List Char) :=
  match s with
  | ['?'] => .error .groupUnclosed
  | '?' :: rest => do
    let (items, isGroup, rest) ← flagList [] rest
    if isGroup then pure (.group items, rest)
    else if items.isEmpty then .error .repetitionMissing
    else pure (.flags items, rest)
  | _ => .ok (.group [], s)

theorem opening_eq (verbose : Bool) : opening verbose = fun s =>
    (fun s => if isLookAround s then .error .lookAround
      else match stripNameMark? s with
        | some rest => groupName [] rest >>= fun y => .ok (.namedGroup y.1, y.2)
        | none => plainOpening s) (skip verbose s) :=
  rfl

/-- What a flag list begins. -/
def flagOpening (x : List FlagItem × Bool) (rest : List Char) :
    Except Fault (Opening × List Char) :=
  if x.2 then .ok (.group x.1, rest)
  else if x.1.isEmpty then .error .repetitionMissing
  else .ok (.flags x.1, rest)

theorem plainOpening_flags (c : Char) (rest : List Char) :
    plainOpening ('?' :: c :: rest) =
      flagsRead [] (c :: rest) >>= fun y => flagOpening y.1 y.2 := by
  rw [plainOpening, flagsRead]
  · cases flagList [] (c :: rest) <;> rfl
  · rintro ⟨⟩

theorem plainOpening_group {s : List Char} (hs : s.head? ≠ some '?') :
    plainOpening s = .ok (.group [], s) := by
  unfold plainOpening
  split
  · exact absurd rfl hs
  · exact absurd rfl hs
  · rfl

theorem reads_flagOpening : Reads fun rest =>
    flagsRead [] rest >>= fun y => flagOpening y.1 y.2 := by
  refine (reads_flagsRead []).bind ?_
  rintro ⟨items, isGroup⟩
  cases isGroup with
  | true => exact Reads.pure (Opening.group items)
  | false =>
      cases items with
      | nil => exact Reads.fail _
      | cons item items => exact Reads.pure (Opening.flags (item :: items))

theorem reads_plainOpening : Reads plainOpening where
  suffix {s x rest} hread := by
    rcases s with _ | ⟨c, t⟩
    · cases hread
      exact List.suffix_rfl
    · by_cases hc : c = '?'
      · subst hc
        rcases t with _ | ⟨d, t⟩
        · cases hread
        · rw [plainOpening_flags] at hread
          exact (reads_flagOpening.suffix hread).trans (List.suffix_cons '?' (d :: t))
      · rw [plainOpening_group (by simpa using hc)] at hread
        cases hread
        exact List.suffix_rfl
  fares s := by
    rcases s with _ | ⟨c, t⟩
    · exact .both ⟨rfl, .inl rfl⟩
    · by_cases hc : c = '?'
      · subst hc
        rcases t with _ | ⟨d, t⟩
        · exact .refused
        · rw [List.cons_append, List.cons_append, plainOpening_flags, plainOpening_flags]
          exact reads_flagOpening.fares (d :: t)
      · rw [plainOpening_group (by simpa using hc), plainOpening_group (by simpa using hc)]
        exact .both ⟨rfl, .inl rfl⟩

theorem reads_opening (verbose : Bool) : Reads (opening verbose) := by
  rw [opening_eq]
  refine Reads.skipping (.unless isLookAround_closing _ (.behindMark stripNameMark?_suffix
    stripNameMark?_closing ?_ reads_plainOpening)) verbose
  exact (reads_groupName []).bind fun name => Reads.pure (Opening.namedGroup name)

/-! ## Repetition counts -/

section Counts

variable {verbose : Bool}

theorem dropLazyMark_left {s s' : List Char} (h : Left s s') :
    Left (dropLazyMark s) (dropLazyMark s') := by
  rcases h with rfl | ⟨rfl, rfl⟩
  · rcases s with _ | ⟨c, t⟩
    · exact .inl rfl
    · by_cases hc : c = '?'
      · subst hc
        exact .inl rfl
      · have hplain (s : List Char) : dropLazyMark (c :: s) = c :: s := by
          rw [dropLazyMark]
          intro rest heq
          exact hc (List.cons.inj heq).1
        rw [List.cons_append, hplain, hplain]
        exact .inl rfl
  · exact .inr ⟨rfl, rfl⟩

theorem kept_countDigits (verbose : Bool) (s : List Char) :
    Kept (countDigits verbose s) (countDigits verbose (s ++ closing)) := by
  have hspan := @kept_spanSkipping verbose Char.isDigit rfl false (s.dropWhile isBlank)
  simp only [countDigits, dropWhile_isBlank_closing]
  exact ⟨hspan.1, left_dropWhile_isBlank hspan.2⟩

theorem countDigits_closing (verbose : Bool) : countDigits verbose closing = ([], closing) := by
  cases verbose <;> decide +kernel

/-- The upper bound, from after the comma; `digits` are those of the lower bound. -/
def upperBound (verbose : Bool) (digits rest : List Char) :
    Except Fault ((Nat × Option Nat) × List Char) :=
  match skip verbose rest with
  | [] => .error .repetitionCountUnclosed
  | '}' :: rest => do
    let least ← countOf digits
    pure ((least, none), '}' :: rest)
  | rest => do
    let least ← countOf digits
    let (digits, rest) := countDigits verbose rest
    let most ← countOf digits
    pure ((least, some most), rest)

/-- The upper bound, from its first digit or the brace on. -/
def upperBoundFrom (verbose : Bool) (digits : List Char) (c : Char) (rest : List Char) :
    Except Fault ((Nat × Option Nat) × List Char) :=
  if c = '}' then countOf digits >>= fun least => .ok ((least, none), '}' :: rest)
  else countOf digits >>= fun least => countOf (countDigits verbose (c :: rest)).1 >>= fun most =>
    .ok ((least, some most), (countDigits verbose (c :: rest)).2)

theorem uncons_upperBound (digits : List Char) :
    Uncons verbose (upperBound verbose digits) (upperBoundFrom verbose digits) := by
  constructor
  · intro s hs
    rw [upperBound, hs]
    exact ⟨_, rfl⟩
  · intro s c rest hs
    rw [upperBound, hs, upperBoundFrom]
    by_cases hc : c = '}'
    · subst hc
      rfl
    · rw [if_neg hc]
      split
      · contradiction
      · next heq => exact absurd (List.cons.inj heq).1 hc
      · rfl

theorem upperBound_fares (digits rest : List Char) :
    Fares Kept (fun y => y.2 = closing) (upperBound verbose digits rest)
      (upperBound verbose digits (rest ++ closing)) := by
  refine (uncons_upperBound digits).fares rest ?_ ?_
  · intro c t _
    have hkept := kept_countDigits verbose (c :: t)
    rw [List.cons_append] at hkept
    rw [upperBoundFrom, upperBoundFrom, ← hkept.1]
    cases countOf digits with
    | error e => split <;> exact .refused
    | ok least =>
        split
        · exact .both ⟨rfl, .inl rfl⟩
        · cases countOf (countDigits verbose (c :: t)).1 with
          | error e => exact .refused
          | ok most => exact .both ⟨rfl, hkept.2⟩
  · intro y _ hy
    rw [upperBoundFrom, if_neg (by decide), ← closing, countDigits_closing] at hy
    cases hdigits : countOf digits <;> rw [hdigits] at hy <;> cases hy

/-- What follows the digits of a lower bound. -/
def boundsAfter (verbose : Bool) (digits : List Char) :
    List Char → Except Fault ((Nat × Option Nat) × List Char)
  | [] => .error .repetitionCountUnclosed
  | ',' :: rest => upperBound verbose digits rest
  | rest => countOf digits >>= fun n => pure ((n, some n), rest)

theorem boundsAfter_digits {verbose : Bool} {digits rest : List Char} {c : Char} (hc : c ≠ ',') :
    boundsAfter verbose digits (c :: rest) =
      countOf digits >>= fun n => pure ((n, some n), c :: rest) := by
  rw [boundsAfter]
  · nofun
  · intro rest heq
    exact hc (List.cons.inj heq).1

theorem uncons_bounds : Uncons verbose (bounds verbose) fun c rest =>
    boundsAfter verbose (countDigits verbose (c :: rest)).1
      (countDigits verbose (c :: rest)).2 := by
  constructor
  · intro s hs
    rw [bounds, hs]
    exact ⟨_, rfl⟩
  · intro s c rest hs
    rw [bounds, hs]
    simp only
    generalize countDigits verbose (c :: rest) = counted
    obtain ⟨digits, _ | ⟨d, left⟩⟩ := counted
    · rfl
    · by_cases hd : d = ','
      · subst hd
        rfl
      · rw [boundsAfter_digits hd]
        split <;> simp_all

theorem bounds_fares (s : List Char) :
    Fares Kept (fun y => y.2 = closing) (bounds verbose s) (bounds verbose (s ++ closing)) := by
  refine uncons_bounds.fares s ?_ ?_
  · intro c t _
    have hkept := kept_countDigits verbose (c :: t)
    rw [← List.cons_append, ← hkept.1]
    generalize (countDigits verbose (c :: t)).1 = digits
    rcases hkept.2 with hleft | ⟨hnone, hnone'⟩
    · rw [hleft]
      rcases (countDigits verbose (c :: t)).2 with _ | ⟨d, rest⟩
      · rw [boundsAfter, List.nil_append, closing, boundsAfter_digits (by decide)]
        cases countOf digits with
        | error e => exact .refused
        | ok n => exact .past rfl
      · by_cases hd : d = ','
        · subst hd
          exact upperBound_fares digits rest
        · rw [List.cons_append, boundsAfter_digits hd, boundsAfter_digits hd]
          cases countOf digits with
          | error e => exact .refused
          | ok n => exact .both ⟨rfl, .inl rfl⟩
    · rw [hnone, hnone']
      exact .refused
  · intro y _ hy
    rw [← closing, countDigits_closing] at hy
    cases hy

/-- The digits of a count are missing before a closing parenthesis. -/
theorem bounds_closing {s : List Char} (hs : skip verbose s = closing) :
    bounds verbose s = .error .repetitionCountMissing := by
  rw [uncons_bounds.cons hs, ← closing, countDigits_closing]
  rfl

end Counts

end Frontier.Regex
