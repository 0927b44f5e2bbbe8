/-
# Escapes — what a backslash begins, with a closing parenthesis behind the text

An escape that its own text ends is read the same when the closing stands behind
the text, and one that is cut short takes from the closing what it can get: a
backslash at the end of the text makes the parenthesis stand for itself.

One escape gives way to what follows it.  Behind `\b` stands the name of a
boundary in braces, or else a count; so where a brace is all that is left, the
closing settles that it is a count, and a count without digits (`Stuck`).
-/
import Frontier.Proofs.Regex.Readers

namespace Frontier.Regex

/-! ## Characters by number -/

section Atoms

variable {verbose : Bool}

theorem reads_hexDigits_cons {n : Nat} (hn : ∀ value, Reads (hexDigits verbose n value))
    (value : Nat) (c : Char) : Reads fun rest => hexDigits verbose (n + 1) value (c :: rest) := by
  cases hc : hexDigit? c with
  | none =>
      simp only [hexDigits, hc]
      exact Reads.fail _
  | some d =>
      simp only [hexDigits, hc]
      exact (hn _).skipping verbose

theorem reads_hexDigits (n value : Nat) : Reads (hexDigits verbose n value) := by
  induction n generalizing value with
  | zero => exact Reads.pure value
  | succ n ih =>
      have huncons : Uncons false (hexDigits verbose (n + 1) value) fun c rest =>
          hexDigits verbose (n + 1) value (c :: rest) := by
        constructor
        · rintro s rfl
          exact ⟨_, rfl⟩
        · rintro s c rest rfl
          rfl
      exact .uncons huncons (reads_hexDigits_cons ih value)

theorem reads_charOfNat? {α : Type} (n : Nat) (k : Char → α) (verbose : Bool) :
    Reads fun s => charOfNat? n >>= fun c => pure (k c, skip verbose s) := by
  cases charOfNat? n with
  | error e => exact Reads.fail e
  | ok c => exact Reads.pureSkipping (k c) verbose

theorem reads_hexBraced : Reads (hexBraced verbose) := by
  refine Reads.inBraces verbose
    (g := fun digits rest => match digits.mapM hexDigit? with
      | none => .error .hexDigitInvalid
      | some [] => .error .hexMissing
      | some (d :: ds) => charOfNat? ((d :: ds).foldl (fun n d => 16 * n + d) 0) >>= fun c =>
          pure (c, skip verbose rest)) ?_ ?_ ?_
  · intro s hend
    rw [hexBraced]
    generalize spanSkipping verbose (fun x => decide (x ≠ '}')) false s = span at hend
    obtain ⟨digits, left⟩ := span
    obtain rfl : left = [] := hend
    cases hdigits : digits.mapM hexDigit? with
    | none => exact ⟨.hexDigitInvalid, by simp [hdigits]⟩
    | some ds => exact ⟨.escapeUnfinished, by simp [hdigits]⟩
  · intro s name c rest hspan
    rw [hexBraced, hspan]
    cases hdigits : name.mapM hexDigit? with
    | none => simp [hdigits]
    | some ds => cases ds <;> simp [hdigits]
  · intro digits
    cases digits.mapM hexDigit? with
    | none => exact Reads.fail _
    | some ds =>
        cases ds with
        | nil => exact Reads.fail _
        | cons d ds => exact reads_charOfNat? _ id verbose

/-- A character by its number, from its first digit or brace on. -/
def hexCharFrom (verbose : Bool) (width : Nat) (c : Char) (rest : List Char) :
    Except Fault (Literal × List Char) :=
  if c = '{' then hexBraced verbose rest >>= fun y => pure (⟨y.1, false⟩, y.2)
  else hexDigits verbose width 0 (c :: rest) >>= fun y => charOfNat? y.1 >>= fun c =>
    .ok (⟨c, width = 2⟩, y.2)

theorem uncons_hexChar (width : Nat) :
    Uncons verbose (hexChar verbose width) (hexCharFrom verbose width) := by
  constructor
  · intro s hs
    rw [hexChar, hs]
    exact ⟨_, rfl⟩
  · intro s c rest hs
    rw [hexChar, hs, hexCharFrom]
    by_cases hc : c = '{'
    · subst hc
      rfl
    · rw [if_neg hc]
      split
      · contradiction
      · simp_all
      · rfl

theorem reads_hexChar (width : Nat) : Reads (hexChar verbose (width + 1)) := by
  refine .uncons (uncons_hexChar (width + 1)) ?_
  intro c
  unfold hexCharFrom
  by_cases hc : c = '{'
  · simp only [if_pos hc]
    exact reads_hexBraced.bind fun c => Reads.pure (⟨c, false⟩ : Literal)
  · simp only [if_neg hc]
    refine (reads_hexDigits_cons (reads_hexDigits width) 0 c).bind (g := fun n rest =>
      charOfNat? n >>= fun c => .ok ((⟨c, width + 1 = 2⟩ : Literal), rest)) ?_
    intro n
    cases charOfNat? n with
    | error e => exact Reads.fail e
    | ok c => exact Reads.pure _

/-- A property, from its letter or brace on. -/
def queryFrom (verbose : Bool) (c : Char) (rest : List Char) : Except Fault (Query × List Char) :=
  if c = '{' then
    match spanSkipping verbose (· ≠ '}') false rest with
    | (_, []) => .error .escapeUnfinished
    | (name, _ :: rest) => .ok (Query.ofName name, rest)
  else if c = '\\' then .error .propertyInvalid
  else .ok (Query.letter c, skip verbose rest)

theorem uncons_query : Uncons verbose (query verbose) (queryFrom verbose) := by
  constructor
  · intro s hs
    rw [query, hs]
    exact ⟨_, rfl⟩
  · intro s c rest hs
    rw [query, hs, queryFrom]
    by_cases hc : c = '{'
    · subst hc
      rfl
    · rw [if_neg hc]
      split
      · contradiction
      · simp_all
      · simp_all

theorem reads_query : Reads (query verbose) := by
  refine .uncons uncons_query ?_
  intro c
  unfold queryFrom
  by_cases hc : c = '{'
  · simp only [if_pos hc]
    refine Reads.inBraces verbose (g := fun name rest => .ok (.ofName name, rest))
      ?_ ?_ fun name => Reads.pure _
    · intro s hend
      generalize spanSkipping verbose (fun x => decide (x ≠ '}')) false s = span at hend
      obtain ⟨name, left⟩ := span
      obtain rfl : left = [] := hend
      exact ⟨_, rfl⟩
    · intro s name c rest hspan
      rw [hspan]
  · simp only [if_neg hc]
    by_cases hbackslash : c = '\\'
    · simp only [if_pos hbackslash]
      exact Reads.fail _
    · simp only [if_neg hbackslash]
      exact Reads.pureSkipping _ verbose

/-! ## Escapes -/

/-- An opening brace is left that nothing can close before the closing parenthesis. -/
def Stuck (verbose : Bool) (s : List Char) : Prop :=
  ∃ rest, s = '{' :: rest ∧ skip verbose rest = closing

/-- What an escape may leave when it takes the closing for a part of the text: as `\\b` may be
followed by a count, it also gives way to a brace that is not a boundary. -/
def BehindEscape (verbose : Bool) (y : Atom × List Char) : Prop :=
  Behind y ∨ y.1 = .anchor .wordEdge ∧ Stuck verbose y.2

/-- A boundary, from its first letter on. -/
def boundaryFrom (verbose : Bool) (c : Char) (rest : List Char) :
    Except Fault (Option (Anchor × List Char)) :=
  if !isBoundaryLetter c then .ok none
  else
    match spanSkipping verbose isBoundaryLetter false (c :: rest) with
    | (name, '}' :: rest) =>
      if name = "start".toList then .ok (some (.wordStart, rest))
      else if name = "end".toList then .ok (some (.wordEnd, rest))
      else if name = "start-half".toList then .ok (some (.wordStartHalf, rest))
      else if name = "end-half".toList then .ok (some (.wordEndHalf, rest))
      else .error .boundaryUnrecognized
    | _ => .error .boundaryUnclosed

theorem uncons_boundary : Uncons verbose (boundary verbose) (boundaryFrom verbose) := by
  constructor
  · intro s hs
    rw [boundary, hs]
    exact ⟨_, rfl⟩
  · intro s c rest hs
    rw [boundary, hs]
    rfl

theorem boundary_fares (s : List Char) :
    Fares (Option.Rel fun x y => x.1 = y.1 ∧ y.2 = x.2 ++ closing)
      (fun y => y = none ∧ skip verbose (s ++ closing) = closing)
      (boundary verbose s) (boundary verbose (s ++ closing)) := by
  refine uncons_boundary.fares s ?_ ?_
  · intro c t _
    unfold boundaryFrom
    split
    · exact .both .none
    · have hspan := @kept_spanSkipping verbose isBoundaryLetter rfl false (c :: t)
      rw [List.cons_append] at hspan
      revert hspan
      generalize spanSkipping verbose isBoundaryLetter false (c :: t) = own
      generalize spanSkipping verbose isBoundaryLetter false (c :: (t ++ closing)) = spliced
      obtain ⟨name, left⟩ := own
      obtain ⟨_, left'⟩ := spliced
      rintro ⟨rfl, hleft | ⟨rfl, rfl⟩⟩
      · obtain rfl : left' = left ++ closing := hleft
        rcases left with _ | ⟨d, rest⟩
        · exact .refused
        · by_cases hd : d = '}'
          · subst hd
            simp only [List.cons_append]
            -- the name alone says which boundary it is
            split_ifs <;> first | exact .both (.some ⟨rfl, rfl⟩) | exact .refused
          · simp only [List.cons_append]
            split
            · simp_all
            · split
              · simp_all
              · exact .refused
      · exact .refused
  · intro y hskip hy
    cases hy
    exact ⟨rfl, hskip⟩

/-- What a boundary leaves when it has a name is an end of the text. -/
theorem boundary_suffix {s rest : List Char} {a : Anchor}
    (h : boundary verbose s = .ok (some (a, rest))) : rest <:+ s := by
  cases hs : skip verbose s with
  | nil =>
      obtain ⟨e, he⟩ := uncons_boundary.nil hs
      rw [he] at h
      cases h
  | cons c t =>
      have hsuffix : (spanSkipping verbose isBoundaryLetter false (c :: t)).2 <:+ s :=
        (spanSkipping_suffix false (c :: t)).trans (hs ▸ skip_suffix verbose s)
      rw [uncons_boundary.cons hs, boundaryFrom] at h
      split at h
      · cases h
      · split at h
        · next name left hspan =>
            rw [hspan] at hsuffix
            have hleft := (List.suffix_cons '}' left).trans hsuffix
            split_ifs at h <;> cases h <;> exact hleft
        · cases h

theorem wordEdge_suffix {s rest : List Char} {a : Atom}
    (h : wordEdge verbose s = .ok (a, rest)) : rest <:+ s := by
  unfold wordEdge at h
  split at h
  · next rest' =>
      obtain ⟨_ | ⟨b, left⟩, hboundary, hread⟩ := bind_eq_ok h
      · cases hread
        exact List.suffix_rfl
      · cases hread
        exact (boundary_suffix hboundary).trans (List.suffix_cons '{' rest')
  · cases h
    exact List.suffix_rfl

theorem wordEdge_fares (s : List Char) :
    Fares Kept (BehindEscape verbose) (wordEdge verbose s) (wordEdge verbose (s ++ closing)) := by
  rcases s with _ | ⟨c, rest⟩
  · exact .both ⟨rfl, .inl rfl⟩
  · by_cases hc : c = '{'
    · subst hc
      have hboundary := @boundary_fares verbose rest
      simp only [wordEdge, List.cons_append]
      generalize boundary verbose rest = own at hboundary
      generalize boundary verbose (rest ++ closing) = spliced at hboundary
      cases hboundary with
      | both hnamed =>
          cases hnamed with
          | none => exact .both ⟨rfl, .inl rfl⟩
          | @some x y hxy =>
              obtain ⟨a, left⟩ := x
              obtain ⟨_, left'⟩ := y
              obtain ⟨rfl, rfl⟩ := hxy
              exact .both ⟨rfl, .inl rfl⟩
      | refused => exact .refused
      | past hstuck =>
          obtain ⟨rfl, hskip⟩ := hstuck
          exact .past (.inr ⟨rfl, _, rfl, hskip⟩)
    · have hplain (s : List Char) : wordEdge verbose (c :: s) = .ok (.anchor .wordEdge, c :: s) := by
        rw [wordEdge]
        intro rest heq
        exact hc (List.cons.inj heq).1
      rw [List.cons_append, hplain, hplain]
      exact .both ⟨rfl, .inl rfl⟩

/-- Behind a letter that begins no boundary an escape is read like any other reader. -/
theorem reads_escapeBehind {c : Char} (hc : c ≠ 'b') :
    Reads fun rest => escape verbose (c :: rest) := by
  have hhex (width : Nat) : Reads fun rest =>
      hexChar verbose (width + 1) rest >>= fun y => pure (Atom.literal y.1, y.2) :=
    (reads_hexChar width).bind fun l => Reads.pure (Atom.literal l)
  have hproperty (negated : Bool) : Reads fun rest =>
      query verbose rest >>= fun y => pure (Atom.property negated y.1, y.2) :=
    reads_query.bind fun q => Reads.pure (Atom.property negated q)
  simp only [escape]
  split_ifs
  · exact Reads.fail _
  · exact hhex 1
  · exact hhex 3
  · exact hhex 7
  · exact hproperty false
  · exact hproperty true
  · exact Reads.pure _
  · cases letterAtom? c with
    | none => exact Reads.fail _
    | some a => exact Reads.pure a

theorem escape_suffix {s rest : List Char} {a : Atom} (h : escape verbose s = .ok (a, rest)) :
    rest <:+ s := by
  rcases s with _ | ⟨c, t⟩
  · cases h
  · refine List.IsSuffix.trans ?_ (List.suffix_cons c t)
    by_cases hc : c = 'b'
    · subst hc
      exact wordEdge_suffix h
    · exact (reads_escapeBehind hc).suffix h

theorem escape_fares (s : List Char) :
    Fares Kept (BehindEscape verbose) (escape verbose s) (escape verbose (s ++ closing)) := by
  rcases s with _ | ⟨c, rest⟩
  · exact .past (.inl List.suffix_rfl)
  · by_cases hc : c = 'b'
    · subst hc
      exact wordEdge_fares rest
    · exact ((reads_escapeBehind hc).fares rest).mono fun _ => .inl

end Atoms

end Frontier.Regex
