/-
# Readers — a text with a closing parenthesis behind it

An expression is made to match whole names by putting its text between `^(?:`
and `)$`.  So every reader may meet the closing `)$` where it would have met the
end of the text.  Three things can come of that (`Fares`):

| on the text alone | with the closing behind it |
| :-- | :-- |
| something is read | the same, and the closing is left, unless a comment swallows it (`Left`) |
| a fault | a fault |
| a fault, because the text ends | the closing is taken for a part of the text |

A reader that fails at the end of the text and otherwise takes a character fares
so if what follows does (`Reads.uncons`), and faring so is passed on by sequencing
(`Reads.bind`).  Nearly all readers are put together in these two ways.
-/
import Frontier.Regex.Reading
import Mathlib

namespace Frontier.Regex

/-- What stands behind the expression in an anchored text. -/
def closing : List Char := [')', '$']

/-- Where `s` is left of a text, `s'` is left of the text with the closing behind it.  A comment that
is open at the end of the text swallows the closing. -/
def Left (s s' : List Char) : Prop := s' = s ++ closing ∨ s = [] ∧ s' = []

/-- Less is left behind some reading just when less of the text with the closing is. -/
theorem Left.length_lt_iff {s s' t t' : List Char} (hs : Left s s') (ht : Left t t')
    (hne : t ≠ []) : s'.length < t'.length ↔ s.length < t.length := by
  have hpos := List.length_pos_iff.mpr hne
  obtain rfl := ht.resolve_right fun hnil => hne hnil.1
  rcases hs with rfl | ⟨rfl, rfl⟩
  · simp only [List.length_append, Nat.add_lt_add_iff_right]
  · simp only [List.length_nil, List.length_append, hpos, Nat.add_pos_left]

/-- How reading fares on a text and on the text with the closing behind it.  Results are related by
`R`, and `P` holds of a result that is got by taking the closing for a part of the text. -/
inductive Fares {γ : Type} (R : γ → γ → Prop) (P : γ → Prop) :
    Except Fault γ → Except Fault γ → Prop
  | both {x y : γ} : R x y → Fares R P (.ok x) (.ok y)
  | refused {f f' : Fault} : Fares R P (.error f) (.error f')
  | past {f : Fault} {y : γ} : P y → Fares R P (.error f) (.ok y)

theorem bind_eq_ok {ε γ δ : Type} {x : Except ε γ} {g : γ → Except ε δ} {z : δ}
    (h : x >>= g = .ok z) : ∃ y, x = .ok y ∧ g y = .ok z := by
  cases x with
  | error e => cases h
  | ok y => exact ⟨y, rfl, h⟩

section Fares

variable {γ δ : Type} {R : γ → γ → Prop} {P : γ → Prop} {R' : δ → δ → Prop} {P' : δ → Prop}
  {own spliced : Except Fault γ} {g : γ → Except Fault δ}

/-- What is read first and what follows. -/
theorem Fares.bind (h : Fares R P own spliced) (hboth : ∀ {x y}, R x y → Fares R' P' (g x) (g y))
    (hpast : ∀ {y z}, P y → g y = .ok z → P' z) :
    Fares R' P' (own >>= g) (spliced >>= g) := by
  cases h with
  | both hR => exact hboth hR
  | refused => exact .refused
  | @past f y hP =>
      cases hz : g y with
      | error f' =>
          show Fares R' P' (.error f) (g y)
          rw [hz]
          exact .refused
      | ok z =>
          show Fares R' P' (.error f) (g y)
          rw [hz]
          exact .past (hpast hP hz)

theorem Fares.map {f : γ → δ} (h : Fares R P own spliced) (hboth : ∀ {x y}, R x y → R' (f x) (f y))
    (hpast : ∀ {y}, P y → P' (f y)) : Fares R' P' (own.map f) (spliced.map f) := by
  cases h with
  | both hR => exact .both (hboth hR)
  | refused => exact .refused
  | past hP => exact .past (hpast hP)

theorem Fares.mono {Q : γ → Prop} (h : Fares R P own spliced) (hP : ∀ y, P y → Q y) :
    Fares R Q own spliced := by
  cases h with
  | both hR => exact .both hR
  | refused => exact .refused
  | past hy => exact .past (hP _ hy)

end Fares

/-! ## Readers -/

/-- The same was read. -/
def Kept {α : Type} (x y : α × List Char) : Prop := x.1 = y.1 ∧ Left x.2 y.2

/-- The closing was read, or its parenthesis. -/
def Behind {α : Type} (y : α × List Char) : Prop := y.2 <:+ ['$']

/-- What the reader leaves is an end of the text, and it fares well on a text with the closing behind
it. -/
structure Reads {α : Type} (f : List Char → Except Fault (α × List Char)) : Prop where
  suffix : ∀ {s x rest}, f s = .ok (x, rest) → rest <:+ s
  fares : ∀ s, Fares Kept Behind (f s) (f (s ++ closing))

section Reads

variable {α β : Type} {f : List Char → Except Fault (α × List Char)} {s s' : List Char}

theorem Reads.of_left (h : Reads f) (hs : Left s s') : Fares Kept Behind (f s) (f s') := by
  rcases hs with rfl | ⟨rfl, rfl⟩
  · exact h.fares s
  · cases hf : f [] with
    | error e => exact .refused
    | ok y =>
        have hnil : y.2 = [] := List.suffix_nil.mp (h.suffix (x := y.1) hf)
        exact .both ⟨rfl, .inr ⟨hnil, hnil⟩⟩

theorem Reads.pure (x : α) : Reads fun s => .ok (x, s) where
  suffix h := by
    cases h
    exact List.suffix_rfl
  fares _ := .both ⟨rfl, .inl rfl⟩

theorem Reads.fail (e : Fault) : Reads fun _ => (.error e : Except Fault (α × List Char)) where
  suffix := nofun
  fares _ := .refused

/-- What depends on nothing that is left. -/
theorem Reads.value (v : Except Fault α) : Reads fun s => v >>= fun x => .ok (x, s) := by
  cases v with
  | error e => exact Reads.fail e
  | ok x => exact Reads.pure x

/-- A reader and then another one. -/
theorem Reads.bind {g : α → List Char → Except Fault (β × List Char)} (h : Reads f)
    (hg : ∀ x, Reads (g x)) : Reads fun s => f s >>= fun y => g y.1 y.2 where
  suffix hread := by
    obtain ⟨y, hy, hrest⟩ := bind_eq_ok hread
    exact ((hg y.1).suffix hrest).trans (h.suffix hy)
  fares s := by
    refine (h.fares s).bind ?_ ?_
    · rintro ⟨x, rest⟩ ⟨_, rest'⟩ ⟨rfl, hleft⟩
      exact (hg x).of_left hleft
    · intro y z hy hz
      exact ((hg y.1).suffix hz).trans hy

end Reads

/-! ## Blanks and comments -/

theorem head?_closing {c : Char} (hc : c ≠ ')') (s : List Char) :
    (s ++ closing).head? = some c ↔ s.head? = some c := by
  cases s with
  | nil => simp [closing, Ne.symm hc]
  | cons d t => rfl

theorem isBlank_closing : isBlank ')' = false ∧ isBlank '$' = false := by
  decide +kernel

theorem dropBlank_suffix (comment : Bool) (s : List Char) : dropBlank comment s <:+ s := by
  induction s generalizing comment with
  | nil => exact List.suffix_rfl
  | cons c rest ih =>
      rw [dropBlank]
      split
      · exact (ih _).trans (List.suffix_cons c rest)
      · split
        · exact (ih _).trans (List.suffix_cons c rest)
        · split
          · exact (ih _).trans (List.suffix_cons c rest)
          · exact List.suffix_rfl

theorem dropBlank_closing : dropBlank false closing = closing ∧ dropBlank true closing = [] := by
  decide +kernel

theorem left_dropBlank (comment : Bool) (s : List Char) :
    Left (dropBlank comment s) (dropBlank comment (s ++ closing)) := by
  induction s generalizing comment with
  | nil =>
      cases comment with
      | false => exact .inl dropBlank_closing.1
      | true => exact .inr ⟨rfl, dropBlank_closing.2⟩
  | cons c rest ih =>
      rw [List.cons_append, dropBlank, dropBlank]
      split
      · exact ih _
      · split
        · exact ih _
        · split
          · exact ih _
          · exact .inl rfl

theorem skip_suffix (verbose : Bool) (s : List Char) : skip verbose s <:+ s := by
  rw [skip]
  split
  · exact dropBlank_suffix false s
  · exact List.suffix_rfl

theorem skip_nil (verbose : Bool) : skip verbose [] = [] :=
  List.suffix_nil.mp (skip_suffix verbose [])

/-- What is neither a blank nor begins a comment is not passed over. -/
theorem skip_plain {c : Char} (hblank : isBlank c = false) (hhash : c ≠ '#') (verbose : Bool)
    (rest : List Char) : skip verbose (c :: rest) = c :: rest := by
  cases verbose with
  | false => rfl
  | true => simp [skip, dropBlank, hblank, hhash]

theorem left_skip (verbose : Bool) (s : List Char) :
    Left (skip verbose s) (skip verbose (s ++ closing)) := by
  rw [skip, skip]
  split
  · exact left_dropBlank false s
  · exact .inl rfl

theorem Left.skip {s s' : List Char} (h : Left s s') (verbose : Bool) :
    Left (Regex.skip verbose s) (Regex.skip verbose s') := by
  rcases h with rfl | ⟨rfl, rfl⟩
  · exact left_skip verbose s
  · cases verbose <;> exact .inr ⟨rfl, rfl⟩

theorem dropWhile_isBlank_closing (s : List Char) :
    (s ++ closing).dropWhile isBlank = s.dropWhile isBlank ++ closing := by
  induction s with
  | nil => simp [closing, isBlank_closing]
  | cons c t ih =>
      rw [List.cons_append, List.dropWhile_cons, List.dropWhile_cons]
      split
      · exact ih
      · rfl

theorem left_dropWhile_isBlank {s s' : List Char} (h : Left s s') :
    Left (s.dropWhile isBlank) (s'.dropWhile isBlank) := by
  rcases h with rfl | ⟨rfl, rfl⟩
  · exact .inl (dropWhile_isBlank_closing s)
  · exact .inr ⟨rfl, rfl⟩

/-- `f` fails at the end of the text, and otherwise `g` goes on behind the first character that
counts. -/
structure Uncons {γ : Type} (verbose : Bool) (f : List Char → Except Fault γ)
    (g : Char → List Char → Except Fault γ) : Prop where
  nil : ∀ {s}, skip verbose s = [] → ∃ e, f s = .error e
  cons : ∀ {s c rest}, skip verbose s = c :: rest → f s = g c rest

theorem Uncons.suffix {γ : Type} {verbose : Bool} {f : List Char → Except Fault γ}
    {g : Char → List Char → Except Fault γ} {s : List Char} {y : γ} (h : Uncons verbose f g)
    (left : γ → List Char) (hg : ∀ {c t y}, g c t = .ok y → left y <:+ c :: t)
    (hread : f s = .ok y) : left y <:+ s := by
  cases hs : skip verbose s with
  | nil =>
      obtain ⟨e, he⟩ := h.nil hs
      rw [he] at hread
      cases hread
  | cons c t =>
      rw [h.cons hs] at hread
      exact (hg hread).trans (hs ▸ skip_suffix verbose s)

theorem Uncons.fares {γ : Type} {R : γ → γ → Prop} {P : γ → Prop} {verbose : Bool}
    {f : List Char → Except Fault γ} {g : Char → List Char → Except Fault γ}
    (h : Uncons verbose f g) (s : List Char)
    (hg : ∀ c t, skip verbose s = c :: t → Fares R P (g c t) (g c (t ++ closing)))
    (hpast : ∀ y, skip verbose (s ++ closing) = closing → g ')' ['$'] = .ok y → P y) :
    Fares R P (f s) (f (s ++ closing)) := by
  cases hs : skip verbose s with
  | nil =>
      obtain ⟨e, he⟩ := h.nil hs
      rw [he]
      cases hf : f (s ++ closing) with
      | error e' => exact .refused
      | ok y =>
          -- the closing is all that the text begins with
          rcases left_skip verbose s with hspliced | ⟨-, hspliced⟩
          · rw [hs] at hspliced
            rw [h.cons hspliced] at hf
            exact .past (hpast y hspliced hf)
          · obtain ⟨e', he'⟩ := h.nil hspliced
            rw [he'] at hf
            cases hf
  | cons c t =>
      rcases left_skip verbose s with hspliced | ⟨hnone, -⟩
      · rw [hs, List.cons_append] at hspliced
        rw [h.cons hs, h.cons hspliced]
        exact hg c t hs
      · rw [hs] at hnone
        cases hnone

theorem Uncons.of_left {γ : Type} {R : γ → γ → Prop} {P : γ → Prop} {verbose : Bool}
    {f : List Char → Except Fault γ} {g : Char → List Char → Except Fault γ} {s s' : List Char}
    (h : Uncons verbose f g) (hf : ∀ s, Fares R P (f s) (f (s ++ closing))) (hs : Left s s') :
    Fares R P (f s) (f s') := by
  rcases hs with rfl | ⟨rfl, rfl⟩
  · exact hf s
  · obtain ⟨e, he⟩ := h.nil (skip_nil verbose)
    rw [he]
    exact .refused

section Reads

variable {α β : Type} {f : List Char → Except Fault (α × List Char)} {verbose : Bool}

/-- Blanks and comments may come first. -/
theorem Reads.skipping (h : Reads f) (verbose : Bool) : Reads fun s => f (skip verbose s) where
  suffix hread := (h.suffix hread).trans (skip_suffix verbose _)
  fares s := h.of_left (left_skip verbose s)

theorem Reads.pureSkipping (x : α) (verbose : Bool) : Reads fun s => .ok (x, skip verbose s) :=
  (Reads.pure x).skipping verbose

theorem Reads.uncons {g : Char → List Char → Except Fault (α × List Char)}
    (h : Uncons verbose f g) (hg : ∀ c, Reads (g c)) : Reads f where
  suffix hread := by
    refine h.suffix Prod.snd ?_ hread
    intro c t y hleft
    exact ((hg c).suffix hleft).trans (List.suffix_cons c t)
  fares s := by
    refine h.fares s (fun c t _ => (hg c).fares t) ?_
    intro y _ hy
    exact (hg ')').suffix hy

end Reads

/-! ## Spans -/

section Spans

variable {α : Type} {verbose : Bool} {p : Char → Bool}

theorem spanSkipping_suffix (comment : Bool) (s : List Char) :
    (spanSkipping verbose p comment s).2 <:+ s := by
  induction s generalizing comment with
  | nil => exact List.suffix_rfl
  | cons c rest ih =>
      have hrest (comment : Bool) : (spanSkipping verbose p comment rest).2 <:+ c :: rest :=
        (ih comment).trans (List.suffix_cons c rest)
      rw [spanSkipping]
      split
      · exact hrest _
      · split
        · exact hrest _
        · split
          · exact hrest _
          · split
            · exact hrest _
            · exact List.suffix_rfl

/-- A span that does not take the closing parenthesis ends before it. -/
theorem kept_spanSkipping (hp : p ')' = false) (comment : Bool) (s : List Char) :
    Kept (spanSkipping verbose p comment s) (spanSkipping verbose p comment (s ++ closing)) := by
  induction s generalizing comment with
  | nil =>
      cases comment with
      | true => exact ⟨rfl, .inr ⟨rfl, rfl⟩⟩
      | false =>
          have hclosing : spanSkipping verbose p false closing = ([], closing) := by
            simp [spanSkipping, closing, isBlank_closing, hp]
          rw [List.nil_append, hclosing]
          exact ⟨rfl, .inl rfl⟩
  | cons c rest ih =>
      rw [List.cons_append, spanSkipping, spanSkipping]
      split
      · exact ih _
      · split
        · exact ih _
        · split
          · exact ih _
          · split
            · exact ⟨congrArg (c :: ·) (ih false).1, (ih false).2⟩
            · exact ⟨rfl, .inl rfl⟩

/-- A span that takes both characters of the closing ends where it ended, or not at all. -/
theorem spanSkipping_through (hp : p ')' = true) (hp' : p '$' = true) (comment : Bool)
    (s : List Char) :
    (∃ name c rest, spanSkipping verbose p comment s = (name, c :: rest) ∧
        spanSkipping verbose p comment (s ++ closing) = (name, c :: rest ++ closing)) ∨
      (spanSkipping verbose p comment s).2 = [] ∧
        (spanSkipping verbose p comment (s ++ closing)).2 = [] := by
  induction s generalizing comment with
  | nil =>
      refine .inr ⟨rfl, ?_⟩
      cases comment with
      | true => rfl
      | false => simp [spanSkipping, closing, isBlank_closing, hp, hp']
  | cons c rest ih =>
      rw [List.cons_append, spanSkipping, spanSkipping]
      split
      · exact ih _
      · split
        · exact ih _
        · split
          · exact ih _
          · split
            · refine (ih false).imp_left ?_
              rintro ⟨name, d, rest', hown, hspliced⟩
              exact ⟨c :: name, d, rest', by rw [hown], by rw [hspliced]⟩
            · exact .inl ⟨[], c, rest, rfl, rfl⟩

/-- What stands in braces is read up to the closing brace. -/
theorem Reads.inBraces (verbose : Bool) {f : List Char → Except Fault (α × List Char)}
    {g : List Char → List Char → Except Fault (α × List Char)}
    (hend : ∀ s, (spanSkipping verbose (· ≠ '}') false s).2 = [] → ∃ e, f s = .error e)
    (hbrace : ∀ {s name c rest},
      spanSkipping verbose (· ≠ '}') false s = (name, c :: rest) → f s = g name rest)
    (hg : ∀ name, Reads (g name)) : Reads f where
  suffix {s x rest} hread := by
    have hsuffix : (spanSkipping verbose (· ≠ '}') false s).2 <:+ s := spanSkipping_suffix false s
    cases hspan : spanSkipping verbose (· ≠ '}') false s with
    | mk name left =>
        rw [hspan] at hsuffix
        cases left with
        | nil =>
            obtain ⟨e, he⟩ := hend s (by rw [hspan])
            rw [he] at hread
            cases hread
        | cons c t =>
            rw [hbrace hspan] at hread
            exact (((hg name).suffix hread).trans (List.suffix_cons c t)).trans hsuffix
  fares s := by
    have hthrough := @spanSkipping_through verbose (· ≠ '}') rfl rfl false s
    rcases hthrough with ⟨name, c, rest, hown, hspliced⟩ | ⟨hown, hspliced⟩
    · rw [hbrace hown, hbrace hspliced]
      exact (hg name).fares rest
    · obtain ⟨e, he⟩ := hend s hown
      obtain ⟨e', he'⟩ := hend _ hspliced
      rw [he, he']
      exact .refused

end Spans

/-! ## Readers put together -/

section Accumulated

variable {α κ : Type} {f : κ → List Char → Except Fault (α × List Char)}

/-- A reader that keeps what it has read so far in an argument: behind a character it goes on, or
returns, or fails. -/
def ByCharacter (f : κ → List Char → Except Fault (α × List Char)) : Prop :=
  ∀ k c, (∃ k', ∀ rest, f k (c :: rest) = f k' rest) ∨
    (∃ x, ∀ rest, f k (c :: rest) = .ok (x, rest)) ∨ ∃ e, ∀ rest, f k (c :: rest) = .error e

theorem ByCharacter.suffix (h : ByCharacter f) (hnil : ∀ k, ∃ e, f k [] = .error e) {k : κ}
    {s rest : List Char} {x : α} (hread : f k s = .ok (x, rest)) :
    ∃ c, c :: rest <:+ s := by
  induction s generalizing k with
  | nil =>
      obtain ⟨e, he⟩ := hnil k
      rw [he] at hread
      cases hread
  | cons c t ih =>
      rcases h k c with ⟨k', hk'⟩ | ⟨y, hy⟩ | ⟨e, he⟩
      · rw [hk'] at hread
        obtain ⟨d, hd⟩ := ih hread
        exact ⟨d, hd.trans (List.suffix_cons c t)⟩
      · rw [hy] at hread
        cases hread
        exact ⟨c, List.suffix_rfl⟩
      · rw [he] at hread
        cases hread

theorem ByCharacter.reads (h : ByCharacter f) (hnil : ∀ k, ∃ e, f k [] = .error e) (k : κ) :
    Reads (f k) where
  suffix hread := by
    obtain ⟨c, hc⟩ := h.suffix hnil hread
    exact (List.suffix_cons c _).trans hc
  fares s := by
    induction s generalizing k with
    | nil =>
        obtain ⟨e, he⟩ := hnil k
        rw [List.nil_append, he]
        cases hread : f k closing with
        | error e' => exact .refused
        | ok y =>
            obtain ⟨c, hc⟩ := h.suffix hnil (x := y.1) hread
            refine .past (show y.2 <:+ ['$'] from ?_)
            rcases List.suffix_cons_iff.mp hc with heq | hsuffix
            · rw [(List.cons.inj heq).2]
            · exact (List.suffix_cons c y.2).trans hsuffix
    | cons c t ih =>
        rw [List.cons_append]
        rcases h k c with ⟨k', hk'⟩ | ⟨y, hy⟩ | ⟨e, he⟩
        · rw [hk', hk']
          exact ih k'
        · rw [hy, hy]
          exact .both ⟨rfl, .inl rfl⟩
        · rw [he, he]
          exact .refused

end Accumulated

section Choices

variable {α : Type} {f g : List Char → Except Fault (α × List Char)}

/-- A reader that is forbidden on texts that begin in some way. -/
theorem Reads.unless {p : List Char → Bool} (hp : ∀ s, p (s ++ closing) = p s) (e : Fault)
    (hf : Reads f) : Reads fun s => if p s then .error e else f s where
  suffix {s x rest} hread := by
    cases hs : p s with
    | true => simp only [hs, if_true, reduceCtorEq] at hread
    | false =>
        simp only [hs, Bool.false_eq_true, if_false] at hread
        exact hf.suffix hread
  fares s := by
    rw [hp]
    split
    · exact .refused
    · exact hf.fares s

/-- One reader behind a mark, another one where the mark is missing. -/
theorem Reads.behindMark {strip : List Char → Option (List Char)}
    (hsuffix : ∀ {s rest}, strip s = some rest → rest <:+ s)
    (hstrip : ∀ s, strip (s ++ closing) = (strip s).map (· ++ closing)) (hf : Reads f)
    (hg : Reads g) : Reads fun s => match strip s with | some rest => f rest | none => g s where
  suffix {s x rest} hread := by
    cases hs : strip s with
    | none =>
        rw [hs] at hread
        exact hg.suffix hread
    | some left =>
        rw [hs] at hread
        exact (hf.suffix hread).trans (hsuffix hs)
  fares s := by
    rw [hstrip]
    cases strip s with
    | none => exact hg.fares s
    | some left => exact hf.fares left

end Choices

end Frontier.Regex
