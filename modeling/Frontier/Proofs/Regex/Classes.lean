/-
# Classes — a character class with a closing parenthesis behind the text

A class that its own text ends is read the same when the closing stands behind
the text.  A class that is still open there stays open: neither character of the
closing is a bracket, and only a bracket ends a class (`run_open`).  So here,
unlike elsewhere, the closing is never taken for a part of something that is then
read successfully (`characterClass_fares`).
-/
import Frontier.Proofs.Regex.Escapes

namespace Frontier.Regex

/-- No bracket is left that could end a class. -/
def Open (s : List Char) : Prop := ']' ∉ s

theorem Open.of_suffix {s t : List Char} (h : Open t) (hs : s <:+ t) : Open s :=
  fun hmem => h (hs.subset hmem)

theorem open_closing : Open closing :=
  show ']' ∉ closing by decide

theorem open_of_behind {α : Type} {y : α × List Char} (h : Behind y) : Open y.2 :=
  open_closing.of_suffix (h.trans (List.suffix_cons ')' ['$']))

/-! ## Items -/

section Items

variable {verbose : Bool}

/-- The text after the mark that ends the name of an ASCII class. -/
def nameEnd? : List Char → Option (List Char)
  | ':' :: ']' :: after => some after
  | _ => none

theorem nameEnd?_none {s : List Char} (hs : ∀ after, s ≠ ':' :: ']' :: after) :
    nameEnd? s = none := by
  rw [nameEnd?]
  exact hs

theorem nameEnd?_suffix {s after : List Char} (h : nameEnd? s = some after) : after <:+ s := by
  unfold nameEnd? at h
  split at h
  · cases h
    exact (List.suffix_cons ']' after).trans (List.suffix_cons ':' _)
  · cases h

theorem nameEnd?_closing (s : List Char) :
    nameEnd? (s ++ closing) = (nameEnd? s).map (· ++ closing) := by
  rcases s with _ | ⟨c, _ | ⟨d, after⟩⟩
  · rfl
  · rw [nameEnd?_none (by simp [closing]), nameEnd?_none (by simp)]
    rfl
  · by_cases hmark : c = ':' ∧ d = ']'
    · obtain ⟨rfl, rfl⟩ := hmark
      rfl
    · have hother (s after : List Char) : c :: d :: s ≠ ':' :: ']' :: after := by
        intro heq
        simp only [List.cons.injEq] at heq
        exact hmark ⟨heq.1, heq.2.1⟩
      rw [nameEnd?_none (hother after), List.cons_append, List.cons_append,
        nameEnd?_none (hother _)]
      rfl

/-- Reads the name of an ASCII class, from after the mark that begins it. -/
def asciiName? (negated : Bool) (rest : List Char) : Option (Bracket × List Char) :=
  (nameEnd? (rest.dropWhile (· ≠ ':'))).bind fun after =>
    (AsciiClass.ofName? (rest.takeWhile (· ≠ ':'))).map fun c => (.ascii negated c, after)

theorem asciiName?_closing (negated : Bool) (rest : List Char) :
    asciiName? negated (rest ++ closing) =
      (asciiName? negated rest).map fun y => (y.1, y.2 ++ closing) := by
  rw [asciiName?, asciiName?, List.dropWhile_append, List.takeWhile_append]
  cases hrest : rest.dropWhile (· ≠ ':') with
  | nil => rfl
  | cons c left =>
      have hsplit := congrArg List.length
        (List.takeWhile_append_dropWhile (p := (decide <| · ≠ ':')) (l := rest))
      rw [List.length_append, hrest, List.length_cons] at hsplit
      rw [if_neg (by simp), if_neg (by omega), nameEnd?_closing]
      cases nameEnd? (c :: left) with
      | none => rfl
      | some after => cases AsciiClass.ofName? (rest.takeWhile (· ≠ ':')) <;> rfl

/-- Whether the name of an ASCII class is negated, and the text after the sign. -/
def asciiSign (rest : List Char) : Bool × List Char :=
  match rest with
  | '^' :: rest => (true, rest)
  | _ => (false, rest)

theorem asciiSign_plain {rest : List Char} (hrest : rest.head? ≠ some '^') :
    asciiSign rest = (false, rest) := by
  unfold asciiSign
  split
  · exact absurd rfl hrest
  · rfl

theorem asciiSign_suffix (rest : List Char) : (asciiSign rest).2 <:+ rest := by
  unfold asciiSign
  split
  · exact List.suffix_cons _ _
  · exact List.suffix_rfl

theorem asciiSign_closing (rest : List Char) :
    asciiSign (rest ++ closing) = ((asciiSign rest).1, (asciiSign rest).2 ++ closing) := by
  by_cases hrest : rest.head? = some '^'
  · obtain ⟨rest, rfl⟩ := List.head?_eq_some_iff.mp hrest
    rfl
  · have hspliced : (rest ++ closing).head? ≠ some '^' :=
      mt (head?_closing (by decide) rest).mp hrest
    rw [asciiSign_plain hrest, asciiSign_plain hspliced]

theorem asciiClass?_colon (rest : List Char) :
    asciiClass? (':' :: rest) = asciiName? (asciiSign rest).1 (asciiSign rest).2 := by
  show (match (asciiSign rest).2.dropWhile (· ≠ ':') with
    | ':' :: ']' :: after => (AsciiClass.ofName? ((asciiSign rest).2.takeWhile (· ≠ ':'))).map
        fun c => (Bracket.ascii (asciiSign rest).1 c, after)
    | _ => none) = _
  rw [asciiName?]
  split
  · next hend =>
      rw [hend]
      rfl
  · next hother =>
      rw [nameEnd?_none hother]
      rfl

theorem asciiClass?_none {s : List Char} (hs : s.head? ≠ some ':') : asciiClass? s = none := by
  unfold asciiClass?
  split
  · exact absurd rfl hs
  · rfl

theorem asciiClass?_suffix {s rest : List Char} {item : Bracket}
    (h : asciiClass? s = some (item, rest)) : rest <:+ s := by
  by_cases hs : s.head? = some ':'
  · obtain ⟨t, rfl⟩ := List.head?_eq_some_iff.mp hs
    rw [asciiClass?_colon, asciiName?] at h
    obtain ⟨after, hend, hname⟩ := Option.bind_eq_some_iff.mp h
    obtain ⟨name, -, hitem⟩ := Option.map_eq_some_iff.mp hname
    cases hitem
    exact (((nameEnd?_suffix hend).trans (List.dropWhile_suffix _)).trans
      (asciiSign_suffix t)).trans (List.suffix_cons ':' t)
  · rw [asciiClass?_none hs] at h
    cases h

/-- The closing makes no ASCII class of anything. -/
theorem asciiClass?_closing (s : List Char) :
    asciiClass? (s ++ closing) = (asciiClass? s).map fun y => (y.1, y.2 ++ closing) := by
  by_cases hs : s.head? = some ':'
  · obtain ⟨rest, rfl⟩ := List.head?_eq_some_iff.mp hs
    rw [List.cons_append, asciiClass?_colon, asciiClass?_colon, asciiSign_closing]
    exact asciiName?_closing _ _
  · have hspliced : (s ++ closing).head? ≠ some ':' := mt (head?_closing (by decide) s).mp hs
    rw [asciiClass?_none hs, asciiClass?_none hspliced]
    rfl

theorem classAtom_plain {c : Char} (hc : c ≠ '\\') (rest : List Char) :
    classAtom verbose (c :: rest) = .ok (.literal ⟨c, false⟩, rest) := by
  rw [classAtom]
  exact hc

theorem classAtom_fares (s : List Char) :
    Fares Kept (BehindEscape verbose) (classAtom verbose s) (classAtom verbose (s ++ closing)) := by
  rcases s with _ | ⟨c, rest⟩
  · exact .past (.inl List.suffix_rfl)
  · by_cases hc : c = '\\'
    · subst hc
      exact escape_fares rest
    · rw [List.cons_append, classAtom_plain hc, classAtom_plain hc]
      exact .both ⟨rfl, .inl rfl⟩

theorem classAtom_suffix {s rest : List Char} {a : Atom}
    (h : classAtom verbose s = .ok (a, rest)) : rest <:+ s := by
  rcases s with _ | ⟨c, t⟩
  · cases h
  · refine List.IsSuffix.trans ?_ (List.suffix_cons c t)
    by_cases hc : c = '\\'
    · subst hc
      exact escape_suffix h
    · rw [classAtom_plain hc] at h
      cases h
      exact List.suffix_rfl

/-- What stands first and is no blank is not dropped. -/
theorem dropWhile_isBlank_of_head {c : Char} {s : List Char} (hc : isBlank c = false)
    (hs : s.head? = some c) : s.dropWhile isBlank = s := by
  obtain ⟨t, rfl⟩ := List.head?_eq_some_iff.mp hs
  rw [List.dropWhile_cons, hc]
  rfl

/-- Where a dash stands for itself is the same with the closing behind the text. -/
theorem peekPast_closing {c : Char} (hblank : isBlank c = false) (hhash : c ≠ '#') (hc : c ≠ ')')
    (rest : List Char) :
    peekPast verbose (rest ++ closing) = some c ↔ peekPast verbose rest = some c := by
  have hhead (hfirst : rest.head? = some c) : rest.dropWhile isBlank = rest :=
    dropWhile_isBlank_of_head hblank hfirst
  rw [peekPast, peekPast]
  split
  · rw [dropWhile_isBlank_closing]
    rcases hrest : rest.dropWhile isBlank with _ | ⟨d, more⟩
    · -- only blanks are left, and neither a blank nor the parenthesis is asked for
      show some ')' = some c ↔ rest.head? = some c
      refine iff_of_false (by simpa using Ne.symm hc) ?_
      intro hfirst
      rw [← hhead hfirst, hrest] at hfirst
      cases hfirst
    · by_cases hd : d = '#'
      · subst hd
        simp only [List.cons_append, dropWhile_isBlank_closing]
        rcases more.dropWhile isBlank with _ | ⟨e, after⟩
        · show some ')' = some c ↔ rest.head? = some c
          refine iff_of_false (by simpa using Ne.symm hc) ?_
          intro hfirst
          rw [← hhead hfirst, hrest] at hfirst
          exact hhash (Option.some.inj hfirst).symm
        · rfl
      · simp
  · exact head?_closing hc rest

/-- A range between two atoms. -/
def rangeOf (first last : Atom) : Except Fault Bracket := do
  let first ← first.toLiteral
  let last ← last.toLiteral
  if first.char ≤ last.char then pure (.range first last) else .error .classRangeInvalid

theorem rangeOf_anchor (first : Atom) (a : Anchor) : ∃ e, rangeOf first (.anchor a) = .error e := by
  cases first <;> exact ⟨_, rfl⟩

/-- A range, from the first character of its second atom on. -/
def rangeFrom (verbose : Bool) (first : Atom) (c : Char) (rest : List Char) :
    Except Fault (Bracket × List Char) :=
  classAtom verbose (c :: rest) >>= fun y => rangeOf first y.1 >>= fun b => .ok (b, y.2)

/-- A range, from after its dash. -/
def rangeAfter (verbose : Bool) (first : Atom) (s : List Char) :
    Except Fault (Bracket × List Char) :=
  match skip verbose s with
  | [] => .error .classUnclosed
  | c :: rest => rangeFrom verbose first c rest

/-- An item behind its first atom, from the next character on. -/
def itemFrom (verbose : Bool) (first : Atom) (c : Char) (rest : List Char) :
    Except Fault (Bracket × List Char) :=
  if c ≠ '-' ∨ peekPast verbose rest = some ']' ∨ peekPast verbose rest = some '-' then
    first.toBracket >>= fun b => .ok (b, c :: rest)
  else rangeAfter verbose first rest

/-- An item, from after its first atom. -/
def itemAfter (verbose : Bool) (first : Atom) (s : List Char) :
    Except Fault (Bracket × List Char) :=
  match skip verbose s with
  | [] => .error .classUnclosed
  | c :: rest => itemFrom verbose first c rest

theorem uncons_rangeAfter (first : Atom) :
    Uncons verbose (rangeAfter verbose first) (rangeFrom verbose first) where
  nil hs := ⟨.classUnclosed, by rw [rangeAfter, hs]⟩
  cons hs := by rw [rangeAfter, hs]

theorem uncons_itemAfter (first : Atom) :
    Uncons verbose (itemAfter verbose first) (itemFrom verbose first) where
  nil hs := ⟨.classUnclosed, by rw [itemAfter, hs]⟩
  cons hs := by rw [itemAfter, hs]

theorem rangeFrom_eq (first : Atom) (c : Char) (rest : List Char) :
    (do
      let (last, rest) ← classAtom verbose (c :: rest)
      let first ← first.toLiteral
      let last ← last.toLiteral
      if first.char ≤ last.char then pure (Bracket.range first last, rest)
      else .error .classRangeInvalid) = rangeFrom verbose first c rest := by
  unfold rangeFrom rangeOf
  cases classAtom verbose (c :: rest) with
  | error e => rfl
  | ok y =>
      obtain ⟨last, left⟩ := y
      simp only [bind, Except.bind]
      cases first.toLiteral with
      | error e => rfl
      | ok a =>
          cases last.toLiteral with
          | error e => rfl
          | ok b =>
              simp only
              split <;> rfl

theorem classItem_eq (s : List Char) :
    classItem verbose s = classAtom verbose s >>= fun y => itemAfter verbose y.1 y.2 := by
  rw [classItem]
  cases classAtom verbose s with
  | error e => rfl
  | ok y =>
      obtain ⟨first, rest⟩ := y
      show (match skip verbose rest with
        | [] => _
        | c :: rest => _) = itemAfter verbose first rest
      rw [itemAfter]
      cases hs : skip verbose rest with
      | nil => rfl
      | cons c t =>
          simp only [itemFrom]
          split
          · rfl
          · rw [rangeAfter]
            cases skip verbose t with
            | nil => rfl
            | cons d u => exact rangeFrom_eq first d u

theorem rangeFrom_suffix {first : Atom} {c : Char} {rest left : List Char} {b : Bracket}
    (h : rangeFrom verbose first c rest = .ok (b, left)) : left <:+ c :: rest := by
  obtain ⟨y, hlast, hread⟩ := bind_eq_ok h
  exact ((Reads.value (rangeOf first y.1)).suffix hread).trans (classAtom_suffix hlast)

theorem itemAfter_suffix {first : Atom} {s left : List Char} {b : Bracket}
    (h : itemAfter verbose first s = .ok (b, left)) : left <:+ s := by
  refine (uncons_itemAfter first).suffix Prod.snd ?_ h
  intro c t y h
  rw [itemFrom] at h
  split at h
  · exact (Reads.value first.toBracket).suffix (s := c :: t) h
  · have hrange := (uncons_rangeAfter first).suffix Prod.snd rangeFrom_suffix h
    exact hrange.trans (List.suffix_cons c t)

theorem classItem_suffix {s left : List Char} {b : Bracket}
    (h : classItem verbose s = .ok (b, left)) : left <:+ s := by
  rw [classItem_eq] at h
  obtain ⟨y, hfirst, hread⟩ := bind_eq_ok h
  exact (itemAfter_suffix hread).trans (classAtom_suffix hfirst)

theorem rangeAfter_fares (first : Atom) (s : List Char) :
    Fares Kept (fun y => Open y.2) (rangeAfter verbose first s)
      (rangeAfter verbose first (s ++ closing)) := by
  refine (uncons_rangeAfter first).fares s ?_ ?_
  · intro c t _
    rw [rangeFrom, rangeFrom, ← List.cons_append]
    refine (classAtom_fares (c :: t)).bind ?_ ?_
    · rintro ⟨last, rest⟩ ⟨_, rest'⟩ ⟨rfl, hleft⟩
      cases rangeOf first last with
      | error e => exact .refused
      | ok b => exact .both ⟨rfl, hleft⟩
    · rintro ⟨last, rest⟩ z (hbehind | ⟨hanchor, -⟩) hz
      · exact (open_of_behind hbehind).of_suffix ((Reads.value (rangeOf first last)).suffix (x := z.1) hz)
      · obtain rfl : last = .anchor .wordEdge := hanchor
        obtain ⟨e, he⟩ := rangeOf_anchor first .wordEdge
        rw [he] at hz
        cases hz
  · intro y _ hy
    exact open_closing.of_suffix (rangeFrom_suffix (b := y.1) hy)

theorem itemAfter_fares (first : Atom) (s : List Char) :
    Fares Kept (fun y => Open y.2) (itemAfter verbose first s)
      (itemAfter verbose first (s ++ closing)) := by
  refine (uncons_itemAfter first).fares s ?_ ?_
  · intro c t _
    have hbracket := @peekPast_closing verbose ']' (by decide +kernel) (by decide) (by decide) t
    have hdash := @peekPast_closing verbose '-' (by decide +kernel) (by decide) (by decide) t
    simp only [itemFrom, hbracket, hdash]
    split
    · cases first.toBracket with
      | error e => exact .refused
      | ok b => exact .both ⟨rfl, .inl rfl⟩
    · exact rangeAfter_fares first t
  · intro y _ hy
    rw [itemFrom, if_pos (.inl (by decide))] at hy
    exact open_closing.of_suffix ((Reads.value first.toBracket).suffix (x := y.1) hy)

theorem classItem_fares (s : List Char) :
    Fares Kept (fun y => Open y.2) (classItem verbose s) (classItem verbose (s ++ closing)) := by
  rw [classItem_eq, classItem_eq]
  refine (classAtom_fares s).bind ?_ ?_
  · rintro ⟨first, rest⟩ ⟨_, rest'⟩ ⟨rfl, hleft⟩
    exact (uncons_itemAfter first).of_left (itemAfter_fares first) hleft
  · rintro ⟨first, rest⟩ z (hbehind | ⟨hanchor, hstuck⟩) hz
    · exact (open_of_behind hbehind).of_suffix (itemAfter_suffix (b := z.1) hz)
    · obtain ⟨t, hbrace, -⟩ := hstuck
      obtain rfl : first = .anchor .wordEdge := hanchor
      obtain rfl : rest = '{' :: t := hbrace
      rw [(uncons_itemAfter _).cons (skip_plain (by decide +kernel) (by decide) verbose t),
        itemFrom, if_pos (.inl (by decide))] at hz
      cases hz

end Items

/-! ## The opening of a class -/

/-- The same was read, in two parts. -/
def KeptBoth {α β : Type} (x y : α × β × List Char) : Prop := x.1 = y.1 ∧ Kept x.2 y.2

section Opening

variable {verbose : Bool}

/-- A class whose first character is a bracket that stands for itself, from after that. -/
def behindBracket (verbose negated : Bool) (s : List Char) :
    Except Fault (Bool × List Bracket × List Char) :=
  match skip verbose s with
  | [] => .error .classUnclosed
  | c :: rest => .ok (negated, [.literal ⟨']', false⟩], c :: rest)

/-- A class, from after the dashes at its beginning. -/
def behindDashes (verbose negated : Bool) (dashes : List Char) :
    List Char → Except Fault (Bool × List Bracket × List Char)
  | [] => .error .classUnclosed
  | c :: rest =>
    if dashes = [] ∧ c = ']' then behindBracket verbose negated rest
    else .ok (negated, dashes.map fun c => .literal ⟨c, false⟩, c :: rest)

/-- A class, from after the sign that negates it. -/
def behindSign (verbose negated : Bool) (s : List Char) :
    Except Fault (Bool × List Bracket × List Char) :=
  behindDashes verbose negated (spanSkipping verbose (· = '-') false s).1
    (spanSkipping verbose (· = '-') false s).2

/-- A class, from its first character on. -/
def openingFrom (verbose : Bool) (c : Char) (rest : List Char) :
    Except Fault (Bool × List Bracket × List Char) :=
  if c = '^' then behindSign verbose true (skip verbose rest)
  else behindSign verbose false (c :: rest)

theorem behindSign_eq (negated : Bool) (s : List Char) :
    (match spanSkipping verbose (· = '-') false s with
      | (_, []) => .error .classUnclosed
      | ([], ']' :: rest) =>
        match skip verbose rest with
        | [] => .error .classUnclosed
        | rest => .ok (negated, [.literal ⟨']', false⟩], rest)
      | (dashes, rest) => .ok (negated, dashes.map fun c => .literal ⟨c, false⟩, rest)) =
    behindSign verbose negated s := by
  rw [behindSign]
  generalize spanSkipping verbose (· = '-') false s = span
  obtain ⟨dashes, _ | ⟨c, rest⟩⟩ := span
  · rfl
  · rw [behindDashes]
    split
    · simp_all
    · next heq =>
        cases heq
        rw [if_pos ⟨rfl, rfl⟩, behindBracket]
        cases skip verbose rest <;> rfl
    · next hfirst heq =>
        cases heq
        rw [if_neg]
        rintro ⟨rfl, rfl⟩
        exact hfirst rest rfl rfl

theorem uncons_classOpening : Uncons verbose (classOpening verbose) (openingFrom verbose) := by
  constructor
  · intro s hs
    exact ⟨.classUnclosed, by rw [classOpening, hs]⟩
  · intro s c rest hs
    rw [classOpening, hs, openingFrom]
    simp only
    by_cases hc : c = '^'
    · rw [if_pos hc]
      simp only [hc]
      exact behindSign_eq true (skip verbose rest)
    · rw [if_neg hc]
      simp only [hc]
      exact behindSign_eq false (c :: rest)

theorem uncons_behindBracket (negated : Bool) : Uncons verbose (behindBracket verbose negated)
    fun c rest => .ok (negated, [.literal ⟨']', false⟩], c :: rest) where
  nil hs := ⟨.classUnclosed, by rw [behindBracket, hs]⟩
  cons hs := by rw [behindBracket, hs]

theorem behindDashes_fares (negated : Bool) {x y : List Char × List Char} (h : Kept x y) :
    Fares KeptBoth (fun z => Open z.2.2) (behindDashes verbose negated x.1 x.2)
      (behindDashes verbose negated y.1 y.2) := by
  obtain ⟨dashes, left⟩ := x
  obtain ⟨_, left'⟩ := y
  obtain ⟨rfl, hleft | ⟨rfl, rfl⟩⟩ := h
  · obtain rfl : left' = left ++ closing := hleft
    rcases left with _ | ⟨c, rest⟩
    · rw [List.nil_append, behindDashes, closing, behindDashes, if_neg (by simp)]
      exact .past open_closing
    · rw [List.cons_append, behindDashes, behindDashes]
      split
      · refine (uncons_behindBracket negated).fares rest ?_ ?_
        · intro d t _
          exact .both ⟨rfl, rfl, .inl rfl⟩
        · intro z _ hz
          cases hz
          exact open_closing
      · exact .both ⟨rfl, rfl, .inl rfl⟩
  · exact .refused

theorem behindSign_fares (negated : Bool) (s : List Char) :
    Fares KeptBoth (fun z => Open z.2.2) (behindSign verbose negated s)
      (behindSign verbose negated (s ++ closing)) :=
  behindDashes_fares negated (kept_spanSkipping rfl false s)

theorem behindDashes_suffix {negated : Bool} {dashes s : List Char}
    {y : Bool × List Bracket × List Char} (h : behindDashes verbose negated dashes s = .ok y) :
    y.2.2 <:+ s := by
  rcases s with _ | ⟨c, rest⟩
  · cases h
  · rw [behindDashes] at h
    split at h
    · refine ((uncons_behindBracket negated).suffix (fun y => y.2.2) ?_ h).trans
        (List.suffix_cons c rest)
      intro c t y h
      cases h
      exact List.suffix_rfl
    · cases h
      exact List.suffix_rfl

theorem openingFrom_suffix {c : Char} {rest : List Char} {y : Bool × List Bracket × List Char}
    (h : openingFrom verbose c rest = .ok y) : y.2.2 <:+ c :: rest := by
  rw [openingFrom] at h
  split at h
  · have hsign := (behindDashes_suffix h).trans (spanSkipping_suffix false (skip verbose rest))
    exact (hsign.trans (skip_suffix verbose rest)).trans (List.suffix_cons c rest)
  · exact (behindDashes_suffix h).trans (spanSkipping_suffix false (c :: rest))

theorem classOpening_fares (s : List Char) :
    Fares KeptBoth (fun z => Open z.2.2) (classOpening verbose s)
      (classOpening verbose (s ++ closing)) := by
  refine uncons_classOpening.fares s ?_ ?_
  · intro c t _
    unfold openingFrom
    split
    · rcases left_skip verbose t with hspliced | ⟨hnone, hnone'⟩
      · rw [hspliced]
        exact behindSign_fares true _
      · rw [hnone, hnone']
        exact .refused
    · exact behindSign_fares false (c :: t)
  · intro z _ hz
    exact open_closing.of_suffix (openingFrom_suffix hz)

end Opening

/-! ## Steps -/

/-- An operator at the beginning of the text, and the text after it. -/
def operator? : List Char → Option (SetOp × List Char)
  | '&' :: '&' :: rest => some (.intersection, rest)
  | '-' :: '-' :: rest => some (.difference, rest)
  | '~' :: '~' :: rest => some (.symmetricDifference, rest)
  | _ => none

theorem operator?_suffix {s rest : List Char} {kind : SetOp}
    (h : operator? s = some (kind, rest)) : rest <:+ s := by
  unfold operator? at h
  split at h <;> cases h <;> exact (List.suffix_cons _ _).trans (List.suffix_cons _ _)

theorem operator?_closing (s : List Char) :
    operator? (s ++ closing) = (operator? s).map fun y => (y.1, y.2 ++ closing) := by
  rcases s with _ | ⟨c, _ | ⟨d, t⟩⟩
  · rfl
  · unfold operator?
    split <;> simp_all [closing]
  · simp only [List.cons_append]
    unfold operator?
    split
    · next heq => cases heq; rfl
    · next heq => cases heq; rfl
    · next heq => cases heq; rfl
    · split <;> simp_all

namespace ClassReading

variable {verbose : Bool} {r r' : ClassReading}

/-- One class is read as far as the other one, with the closing behind its text. -/
def Follows (r r' : ClassReading) : Prop :=
  r'.frames = r.frames ∧ r'.items = r.items ∧ Left r.left r'.left

/-- So do two steps. -/
inductive StepFollows : ClassStep → ClassStep → Prop
  | more {r r' : ClassReading} : Follows r r' → StepFollows (.more r) (.more r')
  | done {negated : Bool} {body : Bracket} {rest rest' : List Char} : Left rest rest' →
      StepFollows (.done negated body rest) (.done negated body rest')

/-- What a step leaves of the text. -/
def leftAfter : ClassStep → List Char
  | .more r => r.left
  | .done _ _ rest => rest

/-- One step, from the first character on. -/
def stepFrom (verbose : Bool) (r : ClassReading) (c : Char) (rest : List Char) :
    Except Fault ClassStep :=
  if c = '[' then
    match asciiClass? rest with
    | some (item, rest) => .ok (.more ⟨r.frames, item :: r.items, rest⟩)
    | none => (opening verbose r.frames r.items rest).map .more
  else if c = ']' then r.close rest
  else
    match operator? (c :: rest) with
    | some (kind, rest) => .ok (r.operator kind rest)
    | none => classItem verbose (c :: rest) >>= fun y =>
        .ok (.more ⟨r.frames, y.1 :: r.items, y.2⟩)

theorem uncons_step (r : ClassReading) :
    Uncons verbose (fun s => step verbose { r with left := s }) (stepFrom verbose r) := by
  constructor
  · intro s hs
    exact ⟨.classUnclosed, by rw [step, hs]⟩
  · intro s c rest hs
    rw [step, hs, stepFrom]
    by_cases hopen : c = '['
    · subst hopen
      rfl
    · rw [if_neg hopen]
      by_cases hclose : c = ']'
      · subst hclose
        rfl
      · rw [if_neg hclose]
        unfold operator?
        split
        · simp_all
        · simp_all
        · simp_all
        · next heq => cases heq; rfl
        · next heq => cases heq; rfl
        · next heq => cases heq; rfl
        · split
          · next heq => split at heq <;> simp_all
          · rfl

theorem opening_fares (frames : List ClassFrame) (outer : List Bracket) (s : List Char) :
    Fares Follows (fun r => Open r.left) (opening verbose frames outer s)
      (opening verbose frames outer (s ++ closing)) := by
  refine (classOpening_fares s).bind ?_ ?_
  · rintro ⟨negated, items, rest⟩ ⟨_, _, rest'⟩ ⟨rfl, rfl, hleft⟩
    exact .both ⟨rfl, rfl, hleft⟩
  · rintro ⟨negated, items, rest⟩ z hz hread
    cases hread
    exact hz

theorem opening_suffix {frames : List ClassFrame} {outer : List Bracket} {s : List Char}
    (h : opening verbose frames outer s = .ok r) : r.left <:+ s := by
  obtain ⟨y, hopening, hread⟩ := bind_eq_ok h
  cases hread
  exact uncons_classOpening.suffix (fun y => y.2.2) openingFrom_suffix hopening

theorem close_fares (r : ClassReading) (rest : List Char) :
    Fares StepFollows (fun _ => False) (r.close rest) (r.close (rest ++ closing)) := by
  unfold close
  split
  · exact .both (.done (.inl rfl))
  · exact .both (.more ⟨rfl, rfl, .inl rfl⟩)
  · exact .refused

theorem close_left {rest : List Char} {y : ClassStep} (h : r.close rest = .ok y) :
    leftAfter y = rest := by
  unfold close at h
  split at h <;> cases h <;> rfl

theorem stepFrom_suffix {c : Char} {rest : List Char} {y : ClassStep}
    (h : stepFrom verbose r c rest = .ok y) : leftAfter y <:+ c :: rest := by
  rw [stepFrom] at h
  split at h
  · refine List.IsSuffix.trans ?_ (List.suffix_cons c rest)
    split at h
    · next hascii =>
        cases h
        exact asciiClass?_suffix hascii
    · cases hopening : opening verbose r.frames r.items rest with
      | error e =>
          rw [hopening] at h
          cases h
      | ok q =>
          rw [hopening] at h
          cases h
          exact opening_suffix hopening
  · split at h
    · rw [close_left h]
      exact List.suffix_cons c rest
    · split at h
      · next hoperator =>
          cases h
          exact operator?_suffix hoperator
      · obtain ⟨y, hitem, hread⟩ := bind_eq_ok h
        cases hread
        exact classItem_suffix hitem

/-- Only a bracket ends a class. -/
theorem stepFrom_done {c : Char} {rest left : List Char} {negated : Bool} {body : Bracket}
    (h : stepFrom verbose r c rest = .ok (.done negated body left)) : c = ']' := by
  by_contra hc
  rw [stepFrom, if_neg hc] at h
  split at h
  · split at h
    · cases h
    · cases hopening : opening verbose r.frames r.items rest <;> rw [hopening] at h <;> cases h
  · split at h
    · cases h
    · obtain ⟨y, -, hread⟩ := bind_eq_ok h
      cases hread

theorem stepFrom_fares (r : ClassReading) (c : Char) (rest : List Char) :
    Fares StepFollows (fun y => ∃ q, y = .more q ∧ Open q.left) (stepFrom verbose r c rest)
      (stepFrom verbose r c (rest ++ closing)) := by
  unfold stepFrom
  split
  · rw [asciiClass?_closing]
    cases asciiClass? rest with
    | some y => exact .both (.more ⟨rfl, rfl, .inl rfl⟩)
    | none =>
        exact (opening_fares r.frames r.items rest).map .more fun hopen => ⟨_, rfl, hopen⟩
  · split
    · exact (close_fares r rest).mono fun _ => False.elim
    · rw [← List.cons_append, operator?_closing]
      cases operator? (c :: rest) with
      | some y => exact .both (.more ⟨rfl, rfl, .inl rfl⟩)
      | none =>
          refine (classItem_fares (c :: rest)).bind ?_ ?_
          · rintro ⟨item, left⟩ ⟨_, left'⟩ ⟨rfl, hleft⟩
            exact .both (.more ⟨rfl, rfl, hleft⟩)
          · rintro ⟨item, left⟩ z hopen hz
            cases hz
            exact ⟨_, rfl, hopen⟩

theorem step_suffix {y : ClassStep} (h : r.step verbose = .ok y) : leftAfter y <:+ r.left :=
  (uncons_step r).suffix leftAfter stepFrom_suffix h

theorem step_fares (h : Follows r r') :
    Fares StepFollows (fun y => ∃ q, y = .more q ∧ Open q.left) (r.step verbose)
      (r'.step verbose) := by
  obtain ⟨hframes, hitems, hleft⟩ := h
  have hspliced : r' = { r with left := r'.left } := by
    rw [← hframes, ← hitems]
  rw [hspliced]
  refine (uncons_step r).of_left ?_ hleft
  intro s
  refine (uncons_step r).fares s (fun c t _ => stepFrom_fares r c t) ?_
  intro y _ hy
  have hopen := open_closing.of_suffix (stepFrom_suffix hy)
  cases y with
  | more q => exact ⟨q, rfl, hopen⟩
  | done negated body rest => exact absurd (stepFrom_done hy) (by decide)

/-- Without a bracket left an open class is never ended. -/
theorem run_open (r : ClassReading) (h : Open r.left) : ∃ e, r.run verbose = .error e := by
  induction hn : r.left.length using Nat.strong_induction_on generalizing r with
  | _ n ih =>
      rw [run]
      cases hstep : r.step verbose with
      | error e => exact ⟨e, rfl⟩
      | ok y =>
          cases y with
          | more q =>
              simp only
              split
              · next hlt => exact ih _ (hn ▸ hlt) q (h.of_suffix (step_suffix hstep)) rfl
              · exact ⟨_, rfl⟩
          | done negated body rest =>
              cases hs : skip verbose r.left with
              | nil =>
                  obtain ⟨e, he⟩ := (uncons_step r).nil hs
                  cases hstep.symm.trans he
              | cons c t =>
                  have hdone := ((uncons_step r).cons hs).symm.trans hstep
                  obtain rfl := stepFrom_done hdone
                  have hmem : ']' ∈ skip verbose r.left := hs ▸ List.mem_cons_self
                  exact absurd ((skip_suffix verbose r.left).subset hmem) h

theorem run_fares (h : Follows r r') :
    Fares KeptBoth (fun _ => False) (r.run verbose) (r'.run verbose) := by
  induction hn : r.left.length using Nat.strong_induction_on generalizing r r' with
  | _ n ih =>
      have hstep := @step_fares verbose r r' h
      rw [run, run]
      generalize hown : r.step verbose = own at hstep
      generalize r'.step verbose = spliced at hstep
      cases hstep with
      | refused => exact .refused
      -- a step that reads into the closing leaves no bracket that could end the class
      | past hq =>
          obtain ⟨q, rfl, hopen⟩ := hq
          simp only
          split
          · obtain ⟨e, he⟩ := @run_open verbose q hopen
            rw [he]
            exact .refused
          · exact .refused
      | both hR =>
          cases hR with
          | done hleft => exact .both ⟨rfl, rfl, hleft⟩
          | @more q q' hq =>
              have hne : r.left ≠ [] := by
                intro hnil
                have hskip : skip verbose r.left = [] := by rw [hnil, skip_nil]
                obtain ⟨e, he⟩ := (uncons_step r).nil hskip
                cases hown.symm.trans he
              have hlength := hq.2.2.length_lt_iff h.2.2 hne
              by_cases hlt : q.left.length < r.left.length
              · simp only [if_pos hlt, if_pos (hlength.mpr hlt)]
                exact ih _ (hn ▸ hlt) hq rfl
              · simp only [if_neg hlt, if_neg (mt hlength.mp hlt)]
                exact .refused

end ClassReading

/-- A class is read the same with the closing behind the text, or it is open at its end. -/
theorem characterClass_fares {verbose : Bool} (s : List Char) :
    Fares KeptBoth (fun _ => False) (characterClass verbose s)
      (characterClass verbose (s ++ closing)) := by
  refine (ClassReading.opening_fares [] [] s).bind ClassReading.run_fares ?_
  intro q z hopen hz
  obtain ⟨e, he⟩ := @ClassReading.run_open verbose q hopen
  cases hz.symm.trans he

end Frontier.Regex
