/-
# Bounds — the bounds of every repetition that is read are in order

A count whose bounds are the wrong way round is refused while it is read, so no
expression that has been read holds one, and no meaning of it either.  This is
what the search for a match relies on (`Search`): it runs through a repetition's
least number of rounds whatever the bound.

    reading one construct keeps the bounds in order     (`InOrder.readFrom`)
    so an expression that is read is in order           (`run_ordered`)
    and so is its meaning                               (`ofText_ordered`)
-/
import Frontier.Proofs.Regex.Search
import Frontier.Proofs.Regex.Splicing
import Frontier.Regex.Meaning

namespace Frontier.Regex

mutual

/-- The bounds of each repetition are in order. -/
def Expr.Ordered : Expr → Prop
  | .repetition least most e => (∀ bound, most = some bound → least ≤ bound) ∧ e.Ordered
  | .group _ e => e.Ordered
  | .alternation es => Expr.AllOrdered es
  | .concat es => Expr.AllOrdered es
  | _ => True

/-- They are in each expression of a list. -/
def Expr.AllOrdered : List Expr → Prop
  | [] => True
  | e :: es => e.Ordered ∧ Expr.AllOrdered es

end

/-! ## Meanings -/

/-- One set of characters holds no repetition. -/
theorem ordered_of_set {x : Except Fault CharSet} {f f' : Flags} {r : Regex}
    (h : (x >>= fun s => pure (.one s, f)) = .ok (r, f')) : r.Ordered := by
  obtain ⟨s, -, hs⟩ := bind_eq_ok h
  cases hs
  exact trivial

mutual

theorem Expr.meaning_ordered : ∀ (e : Expr) {f f' : Flags} {r : Regex}, e.Ordered →
    e.meaning f = .ok (r, f') → r.Ordered
  | .empty, _, _, _, _, h => by
      cases h
      exact trivial
  | .flags items, _, _, _, _, h => by
      cases h
      exact trivial
  | .literal l, _, _, _, _, h => by
      rw [Expr.meaning] at h
      obtain ⟨c, -, hc⟩ := bind_eq_ok h
      cases hc
      exact trivial
  | .dot, _, _, _, _, h => ordered_of_set h
  | .anchor a, _, _, _, _, h => by
      cases h
      exact trivial
  | .property negated q, _, _, _, _, h => ordered_of_set h
  | .shorthand negated s, _, _, _, _, h => ordered_of_set h
  | .bracket negated b, _, _, _, _, h => by
      rw [Expr.meaning] at h
      obtain ⟨s, -, hs⟩ := bind_eq_ok h
      exact ordered_of_set hs
  | .repetition least most e, _, _, _, he, h => by
      rw [Expr.meaning] at h
      obtain ⟨⟨r, f'⟩, hr, hread⟩ := bind_eq_ok h
      cases hread
      exact ⟨he.1, Expr.meaning_ordered e he.2 hr⟩
  | .group items e, _, _, _, he, h => by
      rw [Expr.meaning] at h
      obtain ⟨⟨r, f'⟩, hr, hread⟩ := bind_eq_ok h
      cases hread
      exact Expr.meaning_ordered e he hr
  | .alternation es, _, _, _, he, h => Expr.alternatives_ordered es he h
  | .concat es, _, _, _, he, h => Expr.sequence_ordered es he h

theorem Expr.alternatives_ordered : ∀ (es : List Expr) {f f' : Flags} {r : Regex},
    Expr.AllOrdered es → Expr.alternatives f es = .ok (r, f') → r.Ordered
  | [], _, _, _, _, h => by
      cases h
      exact trivial
  | e :: es, _, _, _, he, h => by
      rw [Expr.alternatives] at h
      obtain ⟨⟨r, f'⟩, hr, hrest⟩ := bind_eq_ok h
      obtain ⟨⟨s, f''⟩, hs, hread⟩ := bind_eq_ok hrest
      cases hread
      exact ⟨Expr.meaning_ordered e he.1 hr, Expr.alternatives_ordered es he.2 hs⟩

theorem Expr.sequence_ordered : ∀ (es : List Expr) {f f' : Flags} {r : Regex},
    Expr.AllOrdered es → Expr.sequence f es = .ok (r, f') → r.Ordered
  | [], _, _, _, _, h => by
      cases h
      exact trivial
  | e :: es, _, _, _, he, h => by
      rw [Expr.sequence] at h
      obtain ⟨⟨r, f'⟩, hr, hrest⟩ := bind_eq_ok h
      obtain ⟨⟨s, f''⟩, hs, hread⟩ := bind_eq_ok hrest
      cases hread
      exact ⟨Expr.meaning_ordered e he.1 hr, Expr.sequence_ordered es he.2 hs⟩

end

/-! ## Reading -/

theorem Expr.allOrdered_iff {es : List Expr} : Expr.AllOrdered es ↔ ∀ e ∈ es, e.Ordered := by
  induction es with
  | nil => exact ⟨fun _ => nofun, fun _ => trivial⟩
  | cons e es ih => rw [Expr.AllOrdered, ih, List.forall_mem_cons]

theorem Expr.ofParts_ordered {es : List Expr} (h : ∀ e ∈ es, e.Ordered) :
    (Expr.ofParts es).Ordered := by
  rcases es with _ | ⟨e, _ | ⟨e', es⟩⟩
  · exact trivial
  · exact h e List.mem_cons_self
  · exact Expr.allOrdered_iff.mpr h

/-- The expressions that a frame holds. -/
def Frame.held : Frame → List Expr
  | .group outer _ _ => outer
  | .alternation branches => branches

namespace Reading

variable {r q : Reading} {c : Char} {rest : List Char}

/-- What has been read so far is in order. -/
def InOrder (r : Reading) : Prop :=
  (∀ e ∈ r.parts, e.Ordered) ∧ ∀ frame ∈ r.frames, ∀ e ∈ frame.held, e.Ordered

theorem InOrder.push (h : r.InOrder) {e : Expr} (he : e.Ordered) (rest : List Char) :
    (r.push e rest).InOrder :=
  ⟨List.forall_mem_cons.mpr ⟨he, h.1⟩, h.2⟩

theorem InOrder.sequence (h : r.InOrder) : r.sequence.Ordered :=
  Expr.ofParts_ordered fun e he => h.1 e (List.mem_reverse.mp he)

theorem InOrder.branch (h : r.InOrder) (rest : List Char) : (r.branch rest).InOrder := by
  have hsequence := h.sequence
  unfold Reading.branch
  split
  · next branches frames hframes =>
      rw [InOrder, hframes] at h
      obtain ⟨hbranches, hframes⟩ := List.forall_mem_cons.mp h.2
      exact ⟨nofun, List.forall_mem_cons.mpr
        ⟨List.forall_mem_cons.mpr ⟨hsequence, hbranches⟩, hframes⟩⟩
  · refine ⟨nofun, List.forall_mem_cons.mpr ⟨?_, h.2⟩⟩
    exact List.forall_mem_cons.mpr ⟨hsequence, nofun⟩

theorem InOrder.body (h : r.InOrder) :
    r.body.1.Ordered ∧ ∀ frame ∈ r.body.2, ∀ e ∈ frame.held, e.Ordered := by
  have hsequence := h.sequence
  unfold Reading.body
  split
  · next branches frames hframes =>
      rw [InOrder, hframes] at h
      obtain ⟨hbranches, hframes⟩ := List.forall_mem_cons.mp h.2
      refine ⟨Expr.allOrdered_iff.mpr ?_, hframes⟩
      intro e he
      exact (List.forall_mem_cons.mpr ⟨hsequence, hbranches⟩) e (List.mem_reverse.mp he)
  · exact ⟨hsequence, h.2⟩

theorem InOrder.openGroup (h : r.InOrder) (hq : r.openGroup rest = .ok q) : q.InOrder := by
  obtain ⟨⟨what, left⟩, -, hread⟩ := bind_eq_ok hq
  cases what with
  | flags items =>
      cases hread
      exact ⟨List.forall_mem_cons.mpr ⟨trivial, h.1⟩, h.2⟩
  | group items =>
      cases hread
      exact ⟨nofun, List.forall_mem_cons.mpr h⟩
  | namedGroup name =>
      simp only at hread
      split at hread
      · cases hread
      · cases hread
        exact ⟨nofun, List.forall_mem_cons.mpr h⟩

theorem InOrder.closeGroup (h : r.InOrder) (hq : r.closeGroup rest = .ok q) : q.InOrder := by
  have hbody := h.body
  unfold Reading.closeGroup at hq
  split at hq
  · next e outer flags verbose frames heq =>
      cases hq
      rw [heq] at hbody
      obtain ⟨houter, hframes⟩ := List.forall_mem_cons.mp hbody.2
      exact ⟨List.forall_mem_cons.mpr ⟨hbody.1, houter⟩, hframes⟩
  · cases hq

theorem InOrder.repeatLast (h : r.InOrder) {least : Nat} {most : Option Nat}
    (hbounds : ∀ bound, most = some bound → least ≤ bound)
    (hq : r.repeatLast least most rest = .ok q) : q.InOrder := by
  unfold Reading.repeatLast at hq
  split at hq
  · cases hq
  · next e parts hparts =>
      rw [InOrder, hparts] at h
      obtain ⟨he, hrest⟩ := List.forall_mem_cons.mp h.1
      split at hq
      · cases hq
        exact ⟨List.forall_mem_cons.mpr ⟨⟨hbounds, he⟩, hrest⟩, h.2⟩
      · cases hq

theorem InOrder.repeatBounded (h : r.InOrder) {y : (Nat × Option Nat) × List Char}
    (hq : r.repeatBounded y = .ok q) : q.InOrder := by
  unfold Reading.repeatBounded at hq
  split at hq
  · next least most left =>
      split at hq
      · next hle =>
          refine h.repeatLast ?_ hq
          rintro bound rfl
          exact of_decide_eq_true hle
      · cases hq
  · cases hq

theorem toExpr_ordered (a : Atom) : a.toExpr.Ordered := by
  cases a <;> exact trivial

/-- Reading one construct keeps the bounds in order. -/
theorem InOrder.readFrom (h : r.InOrder) (hq : r.readFrom c rest = .ok q) : q.InOrder := by
  unfold Reading.readFrom at hq
  split at hq
  · exact h.openGroup hq
  · exact h.closeGroup hq
  · cases hq
    exact h.branch rest
  · obtain ⟨y, -, hread⟩ := bind_eq_ok hq
    cases hread
    refine h.push ?_ _
    exact trivial
  · exact h.repeatLast (by simp) hq
  · exact h.repeatLast (by simp) hq
  · exact h.repeatLast (by simp) hq
  · rw [repeatCounted_eq] at hq
    split at hq
    · cases hq
    · obtain ⟨y, -, hread⟩ := bind_eq_ok hq
      exact h.repeatBounded hread
  · obtain ⟨y, -, hread⟩ := bind_eq_ok hq
    cases hread
    exact h.push (toExpr_ordered y.1) _
  all_goals
    cases hq
    refine h.push ?_ rest
    exact trivial

theorem run_ordered {e : Expr} (h : r.InOrder) (hrun : r.run = .ok e) : e.Ordered := by
  induction hn : r.left.length using Nat.strong_induction_on generalizing r with
  | _ n ih =>
      cases hs : skip r.verbose r.left with
      | nil =>
          rw [run_of_done (step_nil hs)] at hrun
          have hbody := h.body
          rw [body_of_finish hrun] at hbody
          exact hbody.1
      | cons c rest =>
          obtain ⟨q, hread, hlt, hq⟩ := run_eq_ok hs hrun
          exact ih _ (hn ▸ hlt) (h.readFrom hread) hq rfl

end Reading

theorem Expr.ofText_ordered {text : List Char} {e : Expr} (h : Expr.ofText text = .ok e) :
    e.Ordered := by
  obtain ⟨e', hrun, hdepth⟩ := bind_eq_ok h
  split at hdepth
  · cases hdepth
    exact Reading.run_ordered (r := .start text) ⟨nofun, nofun⟩ hrun
  · cases hdepth

/-- The meaning of a text has the bounds of each repetition in order. -/
theorem ofText_ordered {engine : Engine} {ignoreCase : Bool} {text : List Char} {r : Regex}
    (h : ofText engine ignoreCase text = .ok r) : r.Ordered := by
  obtain ⟨e, he, hread⟩ := bind_eq_ok h
  obtain ⟨⟨r', f⟩, hmeaning, hpure⟩ := bind_eq_ok hread
  cases hpure
  exact Expr.meaning_ordered e (Expr.ofText_ordered he) hmeaning

end Frontier.Regex
