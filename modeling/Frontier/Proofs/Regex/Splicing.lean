/-
# Splicing — an expression between a group's parentheses

Two things change when the text of an expression is put into a group: there are
frames below its own, and there is a closing behind it.  They are taken apart.

    frames below make no difference, as long as no parenthesis
    closes what the expression has not opened           (`readFrom_under`)
    a text with the closing behind is read construct by
    construct like the text alone, or it is doomed      (`readFrom_fares`)

From the two, a text that is read as `e` is read as `e` up to its end, wherever
it stands (`run_spliced`).  What follows depends on whether a comment is open at
the end, which would swallow the closing.  A text that cannot be read cannot be
read in a group either, unless it closes the group itself (`run_refused`).
-/
import Frontier.Proofs.Regex.Classes
import Frontier.Proofs.Regex.Openings

namespace Frontier.Regex

/-- An expression in a group of its own between two anchors. -/
def Expr.whole (e : Expr) : Expr := .concat [.anchor .lineStart, .group [] e, .anchor .lineEnd]

namespace Reading

variable {r r' : Reading} {c : Char} {rest : List Char} {base : List Frame}

/-! ## Steps by their first character -/

/-- Reads one construct, from its first character on. -/
def readFrom (r : Reading) (c : Char) (rest : List Char) : Except Fault Reading :=
  match c with
  | '(' => r.openGroup rest
  | ')' => r.closeGroup rest
  | '|' => .ok (r.branch rest)
  | '[' => characterClass r.verbose rest >>= fun y => .ok (r.push (.bracket y.1 y.2.1) y.2.2)
  | '?' => r.repeatLast 0 (some 1) (dropLazyMark rest)
  | '*' => r.repeatLast 0 none (dropLazyMark rest)
  | '+' => r.repeatLast 1 none (dropLazyMark rest)
  | '{' => r.repeatCounted rest
  | '\\' => escape r.verbose rest >>= fun y => .ok (r.push y.1.toExpr y.2)
  | '.' => .ok (r.push .dot rest)
  | '^' => .ok (r.push (.anchor .lineStart) rest)
  | '$' => .ok (r.push (.anchor .lineEnd) rest)
  | c => .ok (r.push (.literal ⟨c, false⟩) rest)

theorem step_nil (hs : skip r.verbose r.left = []) : r.step = .ok none := by
  rw [step, hs]

theorem step_cons (hs : skip r.verbose r.left = c :: rest) :
    r.step = (r.readFrom c rest).map some := by
  rw [step, hs]
  unfold readFrom
  split
  · contradiction
  · next heq => cases heq; rfl
  · next heq => cases heq; rfl
  · next heq => cases heq; rfl
  · next heq =>
      cases heq
      cases characterClass r.verbose rest <;> rfl
  · next heq => cases heq; rfl
  · next heq => cases heq; rfl
  · next heq => cases heq; rfl
  · next heq => cases heq; rfl
  · next heq =>
      cases heq
      cases escape r.verbose rest <;> rfl
  · next heq => cases heq; rfl
  · next heq => cases heq; rfl
  · next heq => cases heq; rfl
  · next heq =>
      cases heq
      split <;> first | rfl | simp_all

/-- Reading goes on behind one construct. -/
theorem run_of_step (hstep : r.step = .ok (some r')) (hlt : r'.left.length < r.left.length) :
    r.run = r'.run := by
  rw [run, hstep]
  exact if_pos hlt

theorem run_of_done (hstep : r.step = .ok none) : r.run = r.finish := by
  rw [run, hstep]

/-- The text that is left counts only from where reading goes on. -/
theorem readFrom_left (r : Reading) (left : List Char) (c : Char) (rest : List Char) :
    ({ r with left } : Reading).readFrom c rest = r.readFrom c rest := by
  unfold readFrom
  split <;> rfl

/-! ## A closing behind -/

/-- An expression is read as far as another one, with the closing behind its text. -/
def Follows (r r' : Reading) : Prop := r' = { r with left := r'.left } ∧ Left r.left r'.left

/-- Reading cannot come to an end inside a group: the closing is used up, or it stands where a count
would have to stand. -/
def Doomed (r : Reading) : Prop :=
  r.left <:+ ['$'] ∨
    ∃ parts, r.parts = .anchor .wordEdge :: parts ∧ Stuck r.verbose r.left

theorem openGroup_fares (r : Reading) (rest : List Char) :
    Fares Follows Doomed (r.openGroup rest) (r.openGroup (rest ++ closing)) := by
  refine ((reads_opening r.verbose).fares rest).bind ?_ ?_
  · rintro ⟨what, left⟩ ⟨_, left'⟩ ⟨rfl, hleft⟩
    cases what with
    | flags items => exact .both ⟨rfl, hleft⟩
    | group items => exact .both ⟨rfl, hleft⟩
    | namedGroup name =>
        simp only
        split
        · exact .refused
        · exact .both ⟨rfl, hleft⟩
  · rintro ⟨what, left⟩ q hbehind hq
    refine .inl ?_
    cases what with
    | flags items =>
        cases hq
        exact hbehind
    | group items =>
        cases hq
        exact hbehind
    | namedGroup name =>
        simp only at hq
        split at hq
        · cases hq
        · cases hq
          exact hbehind

theorem closeGroup_fares (r : Reading) (rest : List Char) :
    Fares Follows Doomed (r.closeGroup rest) (r.closeGroup (rest ++ closing)) := by
  unfold closeGroup
  split
  · exact .both ⟨rfl, .inl rfl⟩
  · exact .refused

theorem follows_branch (r : Reading) (rest : List Char) :
    Follows (r.branch rest) (r.branch (rest ++ closing)) := by
  unfold branch
  split <;> exact ⟨rfl, .inl rfl⟩

theorem repeatLast_fares (r : Reading) (least : Nat) (most : Option Nat) {left left' : List Char}
    (h : Left left left') :
    Fares Follows Doomed (r.repeatLast least most left) (r.repeatLast least most left') := by
  unfold repeatLast
  split
  · exact .refused
  · split
    · exact .both ⟨rfl, h⟩
    · exact .refused

/-- Repeats the last part, from after the bounds. -/
def repeatBounded (r : Reading) (y : (Nat × Option Nat) × List Char) : Except Fault Reading :=
  match y with
  | ((least, most), '}' :: rest) =>
    if most.all (least ≤ ·) then r.repeatLast least most (dropLazyMark (skip r.verbose rest))
    else .error .repetitionCountInvalid
  | _ => .error .repetitionCountUnclosed

theorem repeatBounded_unclosed {bound : Nat × Option Nat} {left : List Char}
    (hleft : left.head? ≠ some '}') :
    r.repeatBounded (bound, left) = .error .repetitionCountUnclosed := by
  unfold repeatBounded
  split
  · next heq =>
      cases heq
      exact absurd rfl hleft
  · rfl

theorem repeatCounted_eq (r : Reading) (rest : List Char) : r.repeatCounted rest =
    if r.parts.head?.all (!·.repeatable) then .error .repetitionMissing
    else bounds r.verbose rest >>= r.repeatBounded :=
  rfl

theorem repeatBounded_fares (r : Reading) {x y : (Nat × Option Nat) × List Char} (h : Kept x y) :
    Fares Follows Doomed (r.repeatBounded x) (r.repeatBounded y) := by
  obtain ⟨bound, left⟩ := x
  obtain ⟨_, left'⟩ := y
  obtain ⟨rfl, hleft | ⟨rfl, rfl⟩⟩ := h
  · obtain rfl : left' = left ++ closing := hleft
    by_cases hbrace : left.head? = some '}'
    · obtain ⟨rest, rfl⟩ := List.head?_eq_some_iff.mp hbrace
      rw [List.cons_append, repeatBounded, repeatBounded]
      split
      · exact repeatLast_fares r _ _ (dropLazyMark_left (left_skip r.verbose rest))
      · exact .refused
    · have hspliced : (left ++ closing).head? ≠ some '}' :=
        mt (head?_closing (by decide) left).mp hbrace
      rw [repeatBounded_unclosed hbrace, repeatBounded_unclosed hspliced]
      exact .refused
  · exact .refused

theorem repeatCounted_fares (r : Reading) (rest : List Char) :
    Fares Follows Doomed (r.repeatCounted rest) (r.repeatCounted (rest ++ closing)) := by
  rw [repeatCounted_eq, repeatCounted_eq]
  split
  · exact .refused
  · refine (bounds_fares rest).bind (fun h => repeatBounded_fares r h) ?_
    rintro ⟨bound, left⟩ q hleft hq
    obtain rfl : left = closing := hleft
    rw [repeatBounded_unclosed (by decide)] at hq
    cases hq

theorem readFrom_fares (r : Reading) (c : Char) (rest : List Char) :
    Fares Follows Doomed (r.readFrom c rest) (r.readFrom c (rest ++ closing)) := by
  unfold readFrom
  split
  · exact openGroup_fares r rest
  · exact closeGroup_fares r rest
  · exact .both (follows_branch r rest)
  · refine (characterClass_fares rest).bind ?_ ?_
    · rintro ⟨negated, body, left⟩ ⟨_, _, left'⟩ ⟨rfl, rfl, hleft⟩
      exact .both ⟨rfl, hleft⟩
    · exact fun hfalse => hfalse.elim
  · exact repeatLast_fares r _ _ (dropLazyMark_left (.inl rfl))
  · exact repeatLast_fares r _ _ (dropLazyMark_left (.inl rfl))
  · exact repeatLast_fares r _ _ (dropLazyMark_left (.inl rfl))
  · exact repeatCounted_fares r rest
  · refine (escape_fares rest).bind ?_ ?_
    · rintro ⟨a, left⟩ ⟨_, left'⟩ ⟨rfl, hleft⟩
      exact .both ⟨rfl, hleft⟩
    · rintro ⟨a, left⟩ q hbehind hq
      cases hq
      rcases hbehind with hbehind | ⟨hanchor, hstuck⟩
      · exact .inl hbehind
      · obtain rfl : a = .anchor .wordEdge := hanchor
        exact .inr ⟨r.parts, rfl, hstuck⟩
  · exact .both ⟨rfl, .inl rfl⟩
  · exact .both ⟨rfl, .inl rfl⟩
  · exact .both ⟨rfl, .inl rfl⟩
  · exact .both ⟨rfl, .inl rfl⟩

/-! ## Frames below -/

/-- The same with more frames below its own. -/
def under (r : Reading) (base : List Frame) : Reading := { r with frames := r.frames ++ base }

/-- The frames are those of a whole alternation or none. -/
def Base (base : List Frame) : Prop := ∀ branches frames, base ≠ .alternation branches :: frames

theorem branch_under (hbase : Base base) (r : Reading) (rest : List Char) :
    (r.under base).branch rest = (r.branch rest).under base := by
  obtain ⟨verbose, frames, parts, names, left⟩ := r
  rcases frames with _ | ⟨_ | branches, frames⟩
  · rcases base with _ | ⟨_ | branches, base⟩
    · rfl
    · rfl
    · exact absurd rfl (hbase branches base)
  · rfl
  · rfl

theorem body_under (hbase : Base base) (r : Reading) :
    (r.under base).body = (r.body.1, r.body.2 ++ base) := by
  obtain ⟨verbose, frames, parts, names, left⟩ := r
  rcases frames with _ | ⟨_ | branches, frames⟩
  · rcases base with _ | ⟨_ | branches, base⟩
    · rfl
    · rfl
    · exact absurd rfl (hbase branches base)
  · rfl
  · rfl

/-- What has a frame of its own closes no other one. -/
theorem closeGroup_under (hbase : Base base) (hne : r.body.2 ≠ []) :
    (r.under base).closeGroup rest = (r.closeGroup rest).map (under · base) := by
  rw [closeGroup, closeGroup, body_under hbase]
  generalize r.body = body at hne
  obtain ⟨e, _ | ⟨_ | branches, frames⟩⟩ := body
  · exact absurd rfl hne
  · rfl
  · rfl

theorem body_ne_of_closeGroup {q : Reading} (h : r.closeGroup rest = .ok q) : r.body.2 ≠ [] := by
  unfold closeGroup at h
  split at h
  · next heq =>
      rw [heq]
      exact List.cons_ne_nil _ _
  · cases h

theorem closeGroup_left {q : Reading} (h : r.closeGroup rest = .ok q) : q.left = rest := by
  unfold closeGroup at h
  split at h <;> cases h
  rfl

theorem closeGroup_error {f : Fault} (h : r.closeGroup rest = .error f) : f = .groupUnopened := by
  unfold closeGroup at h
  split at h <;> cases h
  rfl

theorem openGroup_under (r : Reading) (rest : List Char) :
    (r.under base).openGroup rest = (r.openGroup rest).map (under · base) := by
  unfold openGroup
  rw [show (r.under base).verbose = r.verbose from rfl]
  cases opening r.verbose rest with
  | error e => rfl
  | ok y =>
      obtain ⟨what, left⟩ := y
      cases what with
      | flags items => rfl
      | group items => rfl
      | namedGroup name =>
          show (if name ∈ r.names then _ else _) = (if name ∈ r.names then _ else _ : Except _ _).map _
          split <;> rfl

theorem repeatLast_under (r : Reading) (least : Nat) (most : Option Nat) (rest : List Char) :
    (r.under base).repeatLast least most rest = (r.repeatLast least most rest).map (under · base) := by
  obtain ⟨verbose, frames, parts, names, left⟩ := r
  rcases parts with _ | ⟨e, parts⟩
  · rfl
  · simp only [repeatLast, under]
    split <;> rfl

theorem repeatBounded_under (r : Reading) (y : (Nat × Option Nat) × List Char) :
    (r.under base).repeatBounded y = (r.repeatBounded y).map (under · base) := by
  unfold repeatBounded
  split
  · split
    · exact repeatLast_under r _ _ _
    · rfl
  · rfl

theorem repeatCounted_under (r : Reading) (rest : List Char) :
    (r.under base).repeatCounted rest = (r.repeatCounted rest).map (under · base) := by
  rw [repeatCounted_eq, repeatCounted_eq]
  show (if r.parts.head?.all (!·.repeatable) then _
    else bounds r.verbose rest >>= (r.under base).repeatBounded) = _
  split
  · rfl
  · cases bounds r.verbose rest with
    | error e => rfl
    | ok y => exact repeatBounded_under r y

theorem readFrom_under (hbase : Base base) (hclose : c = ')' → r.body.2 ≠ []) :
    (r.under base).readFrom c rest = (r.readFrom c rest).map (under · base) := by
  unfold readFrom
  split
  · exact openGroup_under r rest
  · exact closeGroup_under hbase (hclose rfl)
  · rw [branch_under hbase]
    rfl
  · show characterClass r.verbose rest >>= _ = _
    cases characterClass r.verbose rest <;> rfl
  · exact repeatLast_under r _ _ _
  · exact repeatLast_under r _ _ _
  · exact repeatLast_under r _ _ _
  · exact repeatCounted_under r rest
  · show escape r.verbose rest >>= _ = _
    cases escape r.verbose rest <;> rfl
  all_goals rfl

/-! ## Runs -/

theorem body_of_finish {e : Expr} (h : r.finish = .ok e) : r.body = (e, []) := by
  unfold finish at h
  split at h
  · next hbody =>
      cases h
      exact hbody
  · cases h

theorem body_ne_of_finish {f : Fault} (h : r.finish = .error f) : r.body.2 ≠ [] := by
  intro hnil
  have hbody : r.body = (r.body.1, []) := by rw [← hnil]
  rw [finish, hbody] at h
  cases h

/-- The frames below are open, so reading cannot come to an end. -/
theorem finish_under (hbase : Base base) (hne : r.body.2 ++ base ≠ []) :
    (r.under base).finish = .error .groupUnclosed := by
  rw [finish, body_under hbase]
  split
  · next heq => exact absurd (Prod.mk.inj heq).2 hne
  · rfl

theorem run_under_of_nil (hbase : Base base) (hs : skip r.verbose r.left = [])
    (hne : r.body.2 ++ base ≠ []) : (r.under base).run = .error .groupUnclosed := by
  rw [run_of_done (step_nil (r := r.under base) hs), finish_under hbase hne]

theorem run_of_refused {e : Fault} (hs : skip r.verbose r.left = c :: rest)
    (hread : r.readFrom c rest = .error e) : r.run = .error e := by
  rw [run, step_cons hs, hread]
  rfl

theorem run_of_read {q : Reading} (hs : skip r.verbose r.left = c :: rest)
    (hread : r.readFrom c rest = .ok q) (hlt : q.left.length < r.left.length) :
    r.run = q.run :=
  run_of_step (by rw [step_cons hs, hread]; rfl) hlt

theorem run_of_read_error {q : Reading} {e : Fault} (hs : skip r.verbose r.left = c :: rest)
    (hread : r.readFrom c rest = .ok q) (he : q.run = .error e) : ∃ e', r.run = .error e' := by
  rw [run, step_cons hs, hread]
  simp only [Except.map]
  split
  · exact ⟨e, he⟩
  · exact ⟨_, rfl⟩

theorem run_eq_ok {e : Expr} (hs : skip r.verbose r.left = c :: rest) (h : r.run = .ok e) :
    ∃ q, r.readFrom c rest = .ok q ∧ q.left.length < r.left.length ∧ q.run = .ok e := by
  cases hread : r.readFrom c rest with
  | error e' =>
      rw [run_of_refused hs hread] at h
      cases h
  | ok q =>
      rw [run, step_cons hs, hread] at h
      simp only [Except.map] at h
      split at h
      · next hlt => exact ⟨q, rfl, hlt, h⟩
      · cases h

/-- What is doomed cannot be read. -/
theorem Doomed.run (h : Doomed r) (hbase : Base base) (hne : base ≠ []) :
    ∃ e, (r.under base).run = .error e := by
  have hopen (r : Reading) : r.body.2 ++ base ≠ [] := by simp [hne]
  rcases h with hleft | ⟨parts, hparts, left, hbrace, hstuck⟩
  · rcases List.suffix_cons_iff.mp hleft with hdollar | hnil
    · -- one more anchor is read, and then the text ends inside the group
      have hskip : skip r.verbose r.left = ['$'] := by
        rw [hdollar, skip_plain isBlank_closing.2 (by decide)]
      have hread : (r.under base).readFrom '$' [] =
          .ok ((r.push (.anchor .lineEnd) []).under base) := rfl
      refine ⟨_, (run_of_read (r := r.under base) hskip hread ?_).trans
        (run_under_of_nil hbase (skip_nil _) (hopen _))⟩
      show 0 < r.left.length
      rw [hdollar]
      exact Nat.zero_lt_one
    · have hskip : skip r.verbose r.left = [] := by
        rw [List.suffix_nil.mp hnil, skip_nil]
      exact ⟨_, run_under_of_nil hbase hskip (hopen r)⟩
  · -- the brace begins a count, and the parenthesis is no digit
    have hskip : skip r.verbose r.left = '{' :: left := by
      rw [hbrace, skip_plain (by decide +kernel) (by decide)]
    refine ⟨.repetitionCountMissing, run_of_refused (r := r.under base) hskip ?_⟩
    have hrepeatable : r.parts.head?.all (!·.repeatable) = false := by
      rw [hparts]
      rfl
    have hbounds := bounds_closing hstuck
    show (if r.parts.head?.all (!·.repeatable) then _
      else bounds r.verbose left >>= (r.under base).repeatBounded) = _
    rw [hrepeatable, hbounds]
    rfl

/-- What follows sees the closing behind the text it reads on in. -/
theorem Follows.skip_eq (h : Follows r r') (hs : skip r.verbose r.left = c :: rest)
    (base : List Frame) :
    skip (r'.under base).verbose (r'.under base).left = c :: (rest ++ closing) := by
  have hleft := h.2.skip r.verbose
  rw [hs] at hleft
  rw [h.1]
  exact hleft.resolve_right nofun

theorem Follows.readFrom_eq (h : Follows r r') (hbase : Base base)
    (hclose : c = ')' → r.body.2 ≠ []) :
    (r'.under base).readFrom c rest = (r.readFrom c rest).map (under · base) := by
  have hclose' : c = ')' → r'.body.2 ≠ [] := by
    intro hc
    rw [h.1]
    exact hclose hc
  rw [readFrom_under hbase hclose', h.1, readFrom_left]

/-- What follows reads the same construct and follows on. -/
theorem Follows.read {q : Reading} (h : Follows r r') (hs : skip r.verbose r.left = c :: rest)
    (hread : r.readFrom c rest = .ok q) :
    ∃ q', Follows q q' ∧ (q'.left.length < r'.left.length ↔ q.left.length < r.left.length) ∧
      ∀ base, Base base → (r'.under base).readFrom c (rest ++ closing) = .ok (q'.under base) := by
  have hne : r.left ≠ [] := by
    intro hnil
    rw [hnil, skip_nil] at hs
    cases hs
  have hfares := readFrom_fares r c rest
  rw [hread] at hfares
  generalize hspliced : r.readFrom c (rest ++ closing) = spliced at hfares
  cases hfares with
  | @both _ q' hq =>
      refine ⟨q', hq, hq.2.length_lt_iff h.2 hne, ?_⟩
      intro base hbase
      have hclose : c = ')' → r.body.2 ≠ [] := by
        rintro rfl
        exact body_ne_of_closeGroup hspliced
      rw [h.readFrom_eq hbase hclose, hspliced]
      rfl

/-- An expression is read to its end, wherever it stands. -/
theorem run_spliced {e : Expr} (h : r.run = .ok e) (hfollows : Follows r r') :
    ∃ z z', z.finish = .ok e ∧ skip z.verbose z.left = [] ∧ Follows z z' ∧
      ∀ base, Base base → (r'.under base).run = (z'.under base).run := by
  -- every construct leaves less of the text, and `Follows` is kept from one to the next
  induction hn : r.left.length using Nat.strong_induction_on generalizing r r' with
  | _ n ih =>
      cases hs : skip r.verbose r.left with
      | nil =>
          rw [run_of_done (step_nil hs)] at h
          exact ⟨r, r', h, hs, hfollows, fun _ _ => rfl⟩
      | cons c rest =>
          obtain ⟨q, hread, hlt, hq⟩ := run_eq_ok hs h
          obtain ⟨q', hfollows', hlength, hspliced⟩ := hfollows.read hs hread
          obtain ⟨z, z', hfinish, hend, hz, hrun⟩ := ih _ (hn ▸ hlt) hq hfollows' rfl
          refine ⟨z, z', hfinish, hend, hz, ?_⟩
          intro base hbase
          rw [← hrun base hbase]
          exact run_of_read (hfollows.skip_eq hs base) (hspliced base hbase) (hlength.mpr hlt)

/-- Where the text ends in a group of its own, the closing closes that one, and the frames below
stay open. -/
theorem Follows.run_unclosed (h : Follows r r') (hs : skip r.verbose r.left = [])
    (hopen : r.body.2 ≠ []) (hbase : Base base) (hne : base ≠ []) :
    ∃ e, (r'.under base).run = .error e := by
  have hleft := h.2.skip r.verbose
  rw [hs] at hleft
  rcases hleft with hspliced | ⟨-, hspliced⟩
  · have hskip : skip (r'.under base).verbose (r'.under base).left = ')' :: ['$'] := by
      rw [h.1]
      exact hspliced
    have hread : (r'.under base).readFrom ')' ['$'] = (r.readFrom ')' ['$']).map (under · base) :=
      h.readFrom_eq hbase fun _ => hopen
    cases hclose : r.readFrom ')' ['$'] with
    | error e =>
        rw [hclose] at hread
        exact ⟨e, run_of_refused hskip hread⟩
    | ok q =>
        rw [hclose] at hread
        have hdoomed : Doomed q := .inl (by rw [closeGroup_left hclose])
        obtain ⟨e, he⟩ := hdoomed.run hbase hne
        exact run_of_read_error hskip hread he
  · have hskip : skip r'.verbose r'.left = [] := by
      rw [h.1]
      exact hspliced
    exact ⟨_, run_under_of_nil hbase hskip (by simp [hne])⟩

/-- A text that cannot be read cannot be read in a group either, unless it is at fault for a
parenthesis that closes the group. -/
theorem run_refused {f : Fault} (h : r.run = .error f) (hf : f ≠ .groupUnopened)
    (hfollows : Follows r r') (hbase : Base base) (hne : base ≠ []) :
    ∃ e, (r'.under base).run = .error e := by
  induction hn : r.left.length using Nat.strong_induction_on generalizing r r' with
  | _ n ih =>
      cases hs : skip r.verbose r.left with
      | nil =>
          rw [run_of_done (step_nil hs)] at h
          exact hfollows.run_unclosed hs (body_ne_of_finish h) hbase hne
      | cons c rest =>
          have hskip := hfollows.skip_eq hs base
          cases hread : r.readFrom c rest with
          | error e' =>
              rw [run_of_refused hs hread] at h
              obtain rfl := Except.error.inj h
              have hclose : c = ')' → r.body.2 ≠ [] := by
                rintro rfl
                exact absurd (closeGroup_error hread) hf
              have hunder : (r'.under base).readFrom c (rest ++ closing) =
                  (r.readFrom c (rest ++ closing)).map (under · base) :=
                hfollows.readFrom_eq hbase hclose
              have hfares := readFrom_fares r c rest
              rw [hread] at hfares
              generalize r.readFrom c (rest ++ closing) = spliced at hfares hunder
              -- the fault stays one, unless the closing is read as a part of the construct
              cases hfares with
              | refused => exact ⟨_, run_of_refused hskip hunder⟩
              | past hdoomed =>
                  obtain ⟨e, he⟩ := hdoomed.run hbase hne
                  exact run_of_read_error hskip hunder he
          | ok q =>
              obtain ⟨q', hfollows', hlength, hspliced⟩ := hfollows.read hs hread
              by_cases hlt : q.left.length < r.left.length
              · rw [run_of_read hs hread hlt] at h
                obtain ⟨e, he⟩ := ih _ (hn ▸ hlt) h hfollows' rfl
                exact run_of_read_error hskip (hspliced base hbase) he
              · rw [run, step_cons hskip, hspliced base hbase]
                refine ⟨.groupUnclosed, if_neg ?_⟩
                exact mt hlength.mp hlt

/-! ## Between two anchors -/

/-- The group that an expression stands in that is to match a whole text. -/
def wholeGroup : Frame := .group [.anchor .lineStart] [] false

theorem base_wholeGroup : Base [wholeGroup] :=
  nofun

theorem base_nil : Base [] :=
  nofun

/-- The expression has been read in its group, and the last anchor is left. -/
def grouped (e : Expr) (names : List (List Char)) : Reading :=
  ⟨false, [], [.group [] e, .anchor .lineStart], names, ['$']⟩

theorem run_grouped (e : Expr) (names : List (List Char)) :
    (grouped e names).run = .ok e.whole := by
  have hend : (grouped e names).run = ((grouped e names).push (.anchor .lineEnd) []).run :=
    run_of_step rfl Nat.zero_lt_one
  rw [hend, run_of_done rfl]
  rfl

/-- At the end of an expression the closing ends the group around it, and that alone; or else a
comment swallows it, and the group is never closed. -/
theorem run_at_end {e : Expr} (hfinish : r.finish = .ok e) (hs : skip r.verbose r.left = [])
    (h : Follows r r') :
    ((r'.under []).run = .error .groupUnopened ∧
        (r'.under [wholeGroup]).run = .ok e.whole) ∨
      (r'.under []).run = .ok e ∧ (r'.under [wholeGroup]).run = .error .groupUnclosed := by
  have hbody : r.body = (e, []) := body_of_finish hfinish
  have hbody' (base : List Frame) (hbase : Base base) : (r'.under base).body = (e, base) := by
    rw [body_under hbase, h.1, show ({ r with left := r'.left } : Reading).body = r.body from rfl,
      hbody]
    rfl
  have hskip (base : List Frame) :
      skip (r'.under base).verbose (r'.under base).left = skip r.verbose r'.left := by
    rw [h.1]
    rfl
  have hleft := h.2.skip r.verbose
  rw [hs] at hleft
  rcases hleft with hspliced | ⟨-, hspliced⟩
  · rw [hspliced] at hskip
    refine .inl ⟨run_of_refused (hskip []) ?_, ?_⟩
    · show (r'.under []).closeGroup ['$'] = _
      rw [closeGroup, hbody' [] base_nil]
    · have hread :
          (r'.under [wholeGroup]).readFrom ')' ['$'] = .ok (grouped e r'.names) := by
        show (r'.under [wholeGroup]).closeGroup ['$'] = _
        rw [closeGroup, hbody' [wholeGroup] base_wholeGroup]
        rfl
      have hlt : (grouped e r'.names).left.length < (r'.under [wholeGroup]).left.length := by
        have hsuffix := skip_suffix (r'.under [wholeGroup]).verbose (r'.under [wholeGroup]).left
        rw [hskip [wholeGroup]] at hsuffix
        exact hsuffix.length_le
      rw [run_of_read (hskip [wholeGroup]) hread hlt, run_grouped]
  · rw [hspliced] at hskip
    refine .inr ⟨?_, ?_⟩
    · rw [run_of_done (step_nil (hskip [])), finish, hbody' [] base_nil]
    · rw [run_of_done (step_nil (hskip [wholeGroup])), finish,
        hbody' [wholeGroup] base_wholeGroup]

end Reading

end Frontier.Regex
