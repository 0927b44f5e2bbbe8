/-
# Joining a name — what a path and a name in it have for components

A directory is listed by names, and a name that a file system can hold is
*proper*: it is not empty, holds no separator, and is neither `.` nor `..`.
Joined to any path, the empty one, the root and those that end in separators
included, such a name is one component more.

    components_join        p/n has the components of p, then n
    segments_join          p/n is written with n behind the last separator

Of what is written between the separators only some parts go anywhere: the
empty ones and `.` stay where they are.  The others are what the components
spell (`solid_components`), so paths of the same components differ in nothing
but parts that stay.
-/
import Frontier.Path
import Mathlib

namespace Frontier.Path

/-- A name that a directory can hold. -/
structure Proper (n : OsText) : Prop where
  ne_nil : n ≠ []
  separator_notMem : separator ∉ n
  ne_here : n ≠ [dot]
  ne_up : n ≠ [dot, dot]

instance (n : OsText) : Decidable (Proper n) :=
  decidable_of_iff (n ≠ [] ∧ separator ∉ n ∧ n ≠ [dot] ∧ n ≠ [dot, dot])
    ⟨fun h => ⟨h.1, h.2.1, h.2.2.1, h.2.2.2⟩,
      fun h => ⟨h.ne_nil, h.separator_notMem, h.ne_here, h.ne_up⟩⟩

theorem segments_ne_nil (t : OsText) : segments t ≠ [] := by
  cases t with
  | nil => simp [segments]
  | cons b rest =>
      unfold segments
      split
      · simp
      · split <;> simp

theorem segments_of_notMem {t : OsText} (h : separator ∉ t) : segments t = [t] := by
  induction t with
  | nil => rfl
  | cons b rest ih =>
      rw [List.mem_cons, not_or] at h
      rw [segments, if_neg (Ne.symm h.1), ih h.2]

theorem segments_append (t u : OsText) :
    segments (t ++ separator :: u) = segments t ++ segments u := by
  induction t with
  | nil => simp [segments]
  | cons b rest ih =>
      rw [List.cons_append, segments, segments]
      by_cases hb : b = separator
      · rw [if_pos hb, if_pos hb, ih, List.cons_append]
      · rw [if_neg hb, if_neg hb, ih]
        obtain ⟨s, more, hrest⟩ := List.exists_cons_of_ne_nil (segments_ne_nil rest)
        rw [hrest]
        rfl

theorem Proper.inner? {n : OsText} (h : Proper n) : Path.inner? n = some (.name n) := by
  simp [Path.inner?, h.ne_nil, h.ne_here, h.ne_up]

theorem Proper.head?_ne {n : OsText} (h : Proper n) : n.head? ≠ some separator := by
  intro hhead
  exact h.separator_notMem (List.mem_of_mem_head? hhead)

/-- The components of a text that goes on after a separator. -/
theorem components_append {t n : OsText} (h : Proper n) (ht : t ≠ []) :
    (⟨t ++ separator :: n⟩ : Path).components = (⟨t⟩ : Path).components ++ [.name n] := by
  have hhead : (segments t ++ [n]).head? = (segments t).head? :=
    List.head?_append_of_ne_nil _ (segments_ne_nil t)
  have habsolute : (⟨t ++ separator :: n⟩ : Path).isAbsolute = (⟨t⟩ : Path).isAbsolute := by
    simp only [isAbsolute, List.head?_append_of_ne_nil _ ht]
  simp only [components, habsolute, segments_append, segments_of_notMem h.separator_notMem, hhead]
  rw [List.filterMap_append, List.filterMap_cons, h.inner?, List.filterMap_nil,
    List.append_assoc]

/-- A separator at the end of a path does not count. -/
theorem components_append_separator {t : OsText} (ht : t ≠ []) :
    (⟨t ++ [separator]⟩ : Path).components = (⟨t⟩ : Path).components := by
  have hhead : (segments t ++ segments []).head? = (segments t).head? :=
    List.head?_append_of_ne_nil _ (segments_ne_nil t)
  have habsolute : (⟨t ++ [separator]⟩ : Path).isAbsolute = (⟨t⟩ : Path).isAbsolute := by
    simp only [isAbsolute, List.head?_append_of_ne_nil _ ht]
  simp only [components, habsolute, segments_append, hhead]
  rw [List.filterMap_append]
  simp [segments, inner?]

theorem components_root_name {n : OsText} (h : Proper n) :
    (⟨separator :: n⟩ : Path).components = [.root, .name n] := by
  have hname : [n].filterMap inner? = [.name n] := by
    rw [List.filterMap_cons, h.inner?, List.filterMap_nil]
  have hsegments : segments (separator :: n) = [[], n] := by
    rw [segments, if_pos rfl, segments_of_notMem h.separator_notMem]
  simp only [components, hsegments]
  rw [List.filterMap_cons, hname]
  rfl

theorem components_name {n : OsText} (h : Proper n) : (⟨n⟩ : Path).components = [.name n] := by
  have habsolute : (⟨n⟩ : Path).isAbsolute = false := by simp [isAbsolute, h.head?_ne]
  simp [components, habsolute, segments_of_notMem h.separator_notMem, h.inner?, h.ne_here]

/-- A proper name is one component more. -/
theorem components_join (p : Path) {n : OsText} (h : Proper n) :
    (p.join n).components = p.components ++ [.name n] := by
  obtain ⟨t⟩ := p
  rw [join, if_neg h.head?_ne]
  by_cases hnil : t = []
  · subst hnil
    rw [if_pos (.inl rfl), List.nil_append, components_name h]
    rfl
  · by_cases hlast : t.getLast? = some separator
    · obtain ⟨u, rfl⟩ : ∃ u, t = u ++ [separator] :=
        ⟨_, (List.dropLast_append_getLast? _ hlast).symm⟩
      rw [if_pos (.inr hlast), List.append_assoc]
      by_cases hu : u = []
      · subst hu
        exact components_root_name h
      · exact (components_append h hu).trans (by rw [components_append_separator hu])
    · rw [if_neg (not_or.mpr ⟨hnil, hlast⟩)]
      exact components_append h hnil

/-- A name that is joined is a part at the end, behind a separator. -/
theorem segments_join {p : Path} (htext : p.text ≠ []) {n : OsText} (hn : Proper n) :
    ∃ parts, segments (p.join n).text = parts ++ [n] ∧
      (segments p.text = parts ∨ segments p.text = parts ++ [[]]) := by
  have hparts (t : OsText) : segments (t ++ separator :: n) = segments t ++ [n] := by
    rw [segments_append, segments_of_notMem hn.separator_notMem]
  rw [join, if_neg hn.head?_ne]
  by_cases hlast : p.text.getLast? = some separator
  · obtain ⟨u, hu⟩ : ∃ u, p.text = u ++ [separator] :=
      ⟨_, (List.dropLast_append_getLast? _ hlast).symm⟩
    rw [if_pos (.inr hlast), hu, List.append_assoc]
    exact ⟨segments u, hparts u, .inr (segments_append u [])⟩
  · rw [if_neg (not_or.mpr ⟨htext, hlast⟩)]
    exact ⟨segments p.text, hparts p.text, .inl rfl⟩

theorem head?_join {p : Path} (htext : p.text ≠ []) {n : OsText} (hn : Proper n) :
    (p.join n).text.head? = p.text.head? := by
  rw [join, if_neg hn.head?_ne]
  split_ifs <;> exact List.head?_append_of_ne_nil _ htext

theorem mem_join {p : Path} {n : OsText} {b : UInt8} (hb : b ≠ separator)
    (h : b ∈ (p.join n).text) : b ∈ p.text ∨ b ∈ n := by
  rw [join] at h
  split_ifs at h
  · exact .inr h
  · exact List.mem_append.mp h
  · rcases List.mem_append.mp h with h | h
    · exact .inl h
    · exact .inr (List.mem_of_ne_of_mem hb h)

theorem join_ne_nil {p : Path} {n : OsText} (hn : Proper n) : (p.join n).text ≠ [] := by
  rw [join, if_neg hn.head?_ne]
  split_ifs
  · exact List.append_ne_nil_of_right_ne_nil _ hn.ne_nil
  · simp

/-- The path that a way of names leads to. -/
def joinAll (p : Path) (names : List OsText) : Path := names.foldl join p

/-! ## Parts of paths -/

/-- A part that stays where it is. -/
def Blank (part : OsText) : Prop := part = [] ∨ part = [dot]

instance : DecidablePred Blank := fun part =>
  inferInstanceAs (Decidable (part = [] ∨ part = [dot]))

/-- The parts that go anywhere. -/
def solid (parts : List OsText) : List OsText := parts.filter fun part => ¬Blank part

theorem solid_append (xs ys : List OsText) : solid (xs ++ ys) = solid xs ++ solid ys :=
  List.filter_append ..

theorem solid_solid (xs : List OsText) : solid (solid xs) = solid xs := by
  simp [solid]

theorem solid_cons_of_blank {part : OsText} (h : Blank part) (xs : List OsText) :
    solid (part :: xs) = solid xs :=
  List.filter_cons_of_neg (by simpa using h)

theorem solid_cons_of_not_blank {part : OsText} (h : ¬Blank part) (xs : List OsText) :
    solid (part :: xs) = part :: solid xs :=
  List.filter_cons_of_pos (by simpa using h)

/-- How a component is written. -/
def Component.spelling : Component → OsText
  | .root => []
  | .here => [dot]
  | .up => [dot, dot]
  | .name n => n

/-- The parts that go anywhere are spelled by the components. -/
theorem solid_components (p : Path) :
    solid (p.components.map Component.spelling) = solid (segments p.text) := by
  have hinner (parts : List OsText) :
      (parts.filterMap inner?).map Component.spelling = solid parts := by
    induction parts with
    | nil => rfl
    | cons part parts ih =>
        by_cases hblank : Blank part
        · have hnone : inner? part = none := if_pos hblank
          rw [List.filterMap_cons_none hnone, solid_cons_of_blank hblank, ih]
        · have hsome : ∃ c, inner? part = some c ∧ c.spelling = part := by
            rw [inner?, if_neg (not_or.mpr (not_or.mp hblank))]
            split
            · next hup => exact ⟨_, rfl, hup.symm⟩
            · exact ⟨_, rfl, rfl⟩
          obtain ⟨c, hc, hspelling⟩ := hsome
          rw [List.filterMap_cons_some hc, solid_cons_of_not_blank hblank, List.map_cons, ih,
            hspelling]
  rw [components, List.map_append, solid_append, hinner, solid_solid]
  split_ifs <;> rfl

theorem inner?_ne_root (part : OsText) : inner? part ≠ some .root := by
  rw [inner?]
  split_ifs <;> nofun

theorem root_mem_components {p : Path} : .root ∈ p.components ↔ p.isAbsolute = true := by
  rw [components, List.mem_append, List.mem_filterMap]
  constructor
  · rintro (hfirst | ⟨part, -, hpart⟩)
    · split_ifs at hfirst with habsolute hhere
      · exact habsolute
      · simp at hfirst
      · cases hfirst
    · exact absurd hpart (inner?_ne_root part)
  · intro habsolute
    left
    rw [if_pos habsolute]
    exact List.mem_cons_self

/-- Only the empty path has no components. -/
theorem text_eq_nil_of_components {p : Path} (h : p.components = []) : p.text = [] := by
  by_contra htext
  obtain ⟨b, rest, hcons⟩ := List.exists_cons_of_ne_nil htext
  have hrelative : p.isAbsolute = false := by
    by_contra habsolute
    have hroot := root_mem_components.mpr (Bool.eq_true_of_not_eq_false habsolute)
    rw [h] at hroot
    cases hroot
  have hb : b ≠ separator := by
    rintro rfl
    simp [isAbsolute, hcons] at hrelative
  obtain ⟨s, more, hparts⟩ : ∃ s more, segments p.text = (b :: s) :: more := by
    rw [hcons, segments, if_neg hb]
    split <;> exact ⟨_, _, rfl⟩
  have hblank : Blank (b :: s) := by
    by_contra hsolid
    have hnone := solid_components p
    rw [h, hparts, solid_cons_of_not_blank hsolid] at hnone
    cases hnone
  have hdot : b :: s = [dot] := hblank.resolve_left (List.cons_ne_nil _ _)
  rw [components, hrelative, hparts, hdot] at h
  cases h

theorem isAbsolute_eq_of_components {p q : Path} (h : p.components = q.components) :
    p.isAbsolute = q.isAbsolute := by
  rw [Bool.eq_iff_iff, ← root_mem_components, ← root_mem_components, h]

/-- A byte that is written nowhere but in names is in one of the parts. -/
theorem mem_text_iff {b : UInt8} (hseparator : b ≠ separator) (hdot : b ≠ dot) (t : OsText) :
    b ∈ t ↔ ∃ part ∈ solid (segments t), b ∈ part := by
  have hsegments : b ∈ t ↔ ∃ part ∈ segments t, b ∈ part := by
    induction t with
    | nil => simp [segments]
    | cons c rest ih =>
        rw [segments]
        split_ifs with hc
        · subst hc
          simp [ih, hseparator]
        · obtain ⟨s, more, hrest⟩ := List.exists_cons_of_ne_nil (segments_ne_nil rest)
          rw [hrest] at ih ⊢
          simp [ih, or_assoc]
  rw [hsegments]
  constructor
  · rintro ⟨part, hpart, hb⟩
    refine ⟨part, List.mem_filter.mpr ⟨hpart, ?_⟩, hb⟩
    rw [decide_eq_true_iff]
    rintro (rfl | rfl)
    · cases hb
    · exact hdot (List.mem_singleton.mp hb)
  · rintro ⟨part, hpart, hb⟩
    exact ⟨part, (List.mem_filter.mp hpart).1, hb⟩

end Frontier.Path
