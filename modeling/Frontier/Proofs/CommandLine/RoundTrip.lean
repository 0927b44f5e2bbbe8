/-
# Command lines — the arguments come back from every way to write them

Reading follows the word groups one by one:

| step                                                            | lemma             |
| --------------------------------------------------------------- | ----------------- |
| a word group is read as what it says                            | `reads_of_fits`   |
| what has been read is told by the word groups so far            | `Tells.concat`    |
| what comes next can still be said, as nothing is written twice  | `Tells.fits`      |
| word groups tell one `Arguments` only                           | `Tells.unique`    |

The state between two word groups is `Holds`: recording what is pending, a value or a run
of paths, gives the arguments so far.
-/
import Frontier.Proofs.CommandLine.Spelling
import Mathlib

namespace Frontier.CommandLine

/-! ## Reading one word group -/

section Reading

variable {p : Progress} {a : Arguments} {settings : List Setting} {s : Setting} {value : String}
  {w : Written}

/-- Once what is pending is recorded, the arguments so far are `a`, and `settings` are the
options that have their value. -/
structure Holds (p : Progress) (a : Arguments) (settings : List Setting) : Prop where
  options : p.onlyPaths = false
  settle : p.settle = .ok { args := a, settings }

/-- The value is one that the option can have. -/
def Readable (s : Setting) (value : String) : Prop :=
  s.isNumber = true → ∃ n < numberLimit, value = toString n

/-- `a` with what a word group says is `b`, and `before` with the option it gives `after`. -/
structure Adds (a : Arguments) (before : List Setting) (w : Written) (b : Arguments)
    (after : List Setting) : Prop where
  roots : b.roots = a.roots ++ w.root?.toList
  values : ∀ s, b.value? s = (w.given? s).or (a.value? s)
  verbose : b.verbose = (a.verbose || w = .verbose)
  settings : ∀ s, s ∈ after ↔ w.given? s ≠ none ∨ s ∈ before

/-- What a word group says can still be said. -/
structure Fits (w : Written) (a : Arguments) (settings : List Setting) : Prop where
  fresh : ∀ s value, w.given? s = some value → s ∉ settings ∧ Readable s value
  verbose : w = .verbose → a.verbose = false

/-- A value that the option can have is stored as it is written. -/
theorem store_ofString (p : Progress) (h : Readable s value) :
    ∃ b, p.store s (OsText.ofString value) = .ok { p with args := b } ∧ b.roots = p.args.roots ∧
      b.verbose = p.args.verbose ∧
      ∀ t, b.value? t = (if s = t then some value else none).or (p.args.value? t) := by
  have hnumber (hs : s.isNumber = true) :
      ∃ n, readNumber value = .ok n ∧ value = toString n := by
    obtain ⟨n, hn, rfl⟩ := h hs
    exact ⟨n, readNumber_toString hn, rfl⟩
  rw [Progress.store, OsText.toString?_ofString]
  cases s
  case minDepth | maxDepth | jobs =>
    obtain ⟨n, hread, rfl⟩ := hnumber rfl
    simp only [hread]
    exact ⟨_, rfl, rfl, rfl, fun t => by cases t <;> rfl⟩
  all_goals exact ⟨_, rfl, rfl, rfl, fun t => by cases t <;> rfl⟩

theorem record_ofString (hfresh : s ∉ settings) (hread : Readable s value) :
    ∃ b, Progress.record { args := a, settings } s (OsText.ofString value) =
        .ok { args := b, settings := s :: settings } ∧ b.roots = a.roots ∧
      b.verbose = a.verbose ∧
      ∀ t, b.value? t = (if s = t then some value else none).or (a.value? t) := by
  rw [Progress.record, if_neg hfresh]
  exact store_ofString { args := a, settings := s :: settings } hread

/-! ### What a word begins -/

theorem take_plain {word : OsText} (h : p.onlyPaths = false) (hplain : Plain word) :
    p.take word = p.takeValue word := by
  rw [Progress.take.eq_def, if_neg (by simp [h])]
  rcases hplain with rfl | hhead
  · rfl
  · split
    · exact absurd rfl hhead
    · exact absurd rfl hhead
    · exact absurd rfl hhead
    · rfl

theorem take_long {body : OsText} (h : p.onlyPaths = false) (hne : body ≠ []) :
    p.take (dash :: dash :: body) = p.takeLong body := by
  rw [Progress.take.eq_def, if_neg (by simp [h])]
  cases body with
  | nil => exact absurd rfl hne
  | cons b rest => rfl

theorem find_long (s : Setting) :
    Setting.all.find? (OsText.ofString ·.long == OsText.ofString s.long) = some s := by
  cases s <;> decide

theorem takeWhile_long (s : Setting) (rest : OsText) :
    (OsText.ofString s.long ++ rest).takeWhile (· ≠ Progress.equals) =
      OsText.ofString s.long ++ rest.takeWhile (· ≠ Progress.equals) := by
  have hall : ((OsText.ofString s.long).all (· ≠ Progress.equals)) = true := by
    cases s <;> decide
  exact List.takeWhile_append_of_pos (List.all_eq_true.mp hall)

theorem long_ne_nil (s : Setting) : OsText.ofString s.long ≠ [] := by
  cases s <;> decide

/-- The name of an option begins it. -/
theorem takeLong_name (p : Progress) (s : Setting) :
    p.takeLong (OsText.ofString s.long) = p.beginSetting s none := by
  have hname := takeWhile_long s []
  rw [List.append_nil, List.takeWhile_nil, List.append_nil] at hname
  simp only [Progress.takeLong, hname, find_long, lt_irrefl, if_false]

/-- The name of an option and `=` begin it with the value behind them. -/
theorem takeLong_joined (p : Progress) (s : Setting) (value : OsText) :
    p.takeLong (OsText.ofString s.long ++ Progress.equals :: value) =
      p.beginSetting s (some value) := by
  have hname := takeWhile_long s (Progress.equals :: value)
  rw [List.takeWhile_cons_of_neg (by simp), List.append_nil] at hname
  have hdrop : (OsText.ofString s.long ++ Progress.equals :: value).drop
      ((OsText.ofString s.long).length + 1) = value := by
    rw [List.drop_append, List.drop_eq_nil_of_le (Nat.le_succ _), Nat.add_sub_cancel_left]
    rfl
  have hlt : (OsText.ofString s.long).length <
      (OsText.ofString s.long ++ Progress.equals :: value).length := by
    rw [List.length_append, List.length_cons]
    omega
  simp only [Progress.takeLong, hname, find_long, if_pos hlt, hdrop]

/-- An option in front of its value begins. -/
theorem take_flag (h : p.onlyPaths = false) (s : Setting) :
    p.take (OsText.ofString (if s = .jobs then "-j" else "--" ++ s.long)) =
      p.beginSetting s none := by
  by_cases hs : s = .jobs
  · subst hs
    rw [Progress.take.eq_def, if_neg (by simp [h])]
    rfl
  · rw [if_neg hs, OsText.ofString_append, ← takeLong_name]
    exact take_long h (long_ne_nil s)

theorem attachedValue_chars (cs : List Char) :
    Progress.attachedValue (cs.map .char) =
      match OsText.ofChars cs with
      | [] => none
      | b :: more => some (if b = Progress.equals then more else OsText.ofChars cs) := by
  have hflat (f : OsText.Piece → OsText) (hf : ∀ c, f (.char c) = OsText.ofChars [c]) :
      (cs.map OsText.Piece.char).flatMap f = OsText.ofChars cs := by
    rw [List.flatMap_map]
    exact congrArg (List.flatMap · cs) (funext fun c => (hf c).trans (List.append_nil _))
  unfold Progress.attachedValue
  rw [hflat _ fun _ => rfl]
  cases OsText.ofChars cs <;> rfl

/-- A number right behind its letter begins the option with it. -/
theorem take_letter (h : p.onlyPaths = false) (n : Nat) :
    p.take (OsText.ofString ("-j" ++ toString n)) =
      p.beginSetting .jobs (some (OsText.ofString (toString n))) := by
  obtain ⟨b, rest, hbytes, -, hb⟩ := ofString_toString_head n
  have hpieces : OsText.pieces (106 :: OsText.ofString (toString n)) =
      .char 'j' :: (toString n).toList.map .char :=
    OsText.pieces_ofChars ('j' :: (toString n).toList)
  have hattached : Progress.attachedValue ((toString n).toList.map .char) =
      some (OsText.ofString (toString n)) := by
    rw [attachedValue_chars, ← OsText.ofString, hbytes]
    exact congrArg some (if_neg hb)
  rw [ofString_letter, Progress.take.eq_def, if_neg (by simp [h])]
  exact (congrArg p.takeLetters hpieces).trans (congrArg (p.beginSetting .jobs) hattached)

/-! ### What a word group adds -/

theorem beginSetting_none (h : Holds p a settings) (s : Setting) :
    p.beginSetting s none = .ok { args := a, settings, pending := .wanting s } := by
  rw [Progress.beginSetting, h.settle]
  rfl

theorem beginSetting_some (h : Holds p a settings) (s : Setting) (value : OsText) :
    p.beginSetting s (some value) = Progress.record { args := a, settings } s value := by
  rw [Progress.beginSetting, h.settle]
  rfl

/-- A path stays pending behind the paths before it. -/
theorem takeValue_path (h : Holds p a settings) {path : Path} (hne : path.text ≠ []) :
    ∃ q, p.takeValue path.text = .ok q ∧
      Holds q { a with roots := a.roots ++ [path] } settings := by
  have hempty : [path.text].any (·.isEmpty) = false := by simp [hne]
  have hfirst (hpath : p.takeValue path.text =
      (p.settle.bind fun q => .ok { q with pending := .paths [path.text] })) :
      ∃ q, p.takeValue path.text = .ok q ∧
        Holds q { a with roots := a.roots ++ [path] } settings := by
    rw [h.settle] at hpath
    refine ⟨_, hpath, rfl, ?_⟩
    exact if_neg (by simp [hne])
  obtain ⟨args, recorded, pending, onlyPaths⟩ := p
  obtain rfl : onlyPaths = false := h.options
  cases pending with
  | nothing => exact hfirst rfl
  | wanting s => exact absurd h.settle (by simp [Progress.settle])
  | given s value => exact hfirst rfl
  | paths ps =>
      refine ⟨_, rfl, rfl, ?_⟩
      have hsettle := h.settle
      simp only [Progress.settle, Progress.recordPaths] at hsettle ⊢
      split at hsettle
      · cases hsettle
      · next hany =>
          rw [List.any_append, hempty, Bool.or_false, if_neg hany]
          cases hsettle
          simp

/-- From there on the word group is read as what it says. -/
def Reads (p : Progress) (a : Arguments) (settings : List Setting) (w : Written) : Prop :=
  ∃ q b after, (∀ rest, parseFrom p (w.normalWords ++ rest) = parseFrom q rest) ∧
    Holds q b after ∧ Adds a settings w b after

theorem reads_root (h : Holds p a settings) {path : Path} (hallowed : (Written.root path).Allowed) :
    Reads p a settings (.root path) := by
  obtain ⟨q, htake, hq⟩ := takeValue_path h hallowed.1
  refine ⟨q, _, _, fun rest => ?_, hq, rfl, fun s => by cases s <;> rfl, by simp, by
    simp [Written.given?]⟩
  change parseFrom p (path.text :: rest) = _
  rw [parseFrom, take_plain h.options hallowed.2, htake]
  rfl

theorem reads_apart (h : Holds p a settings) (hplain : Plain (OsText.ofString value))
    (hfresh : s ∉ settings) (hread : Readable s value) : Reads p a settings (.apart s value) := by
  obtain ⟨b, hrecord, hroots, hverbose, hvalues⟩ := record_ofString (a := a) hfresh hread
  refine ⟨{ args := a, settings, pending := .given s (OsText.ofString value) }, b,
    s :: settings, fun rest => ?_, ⟨rfl, hrecord⟩, by simp [hroots, Written.root?], hvalues, by
      simp [hverbose], by simp [Written.given?, eq_comm]⟩
  -- the option is wanting its value, and the next word is that
  rw [Written.normalWords, List.cons_append, List.singleton_append, parseFrom,
    take_flag h.options, beginSetting_none h]
  dsimp only [bind, Except.bind]
  rw [parseFrom, take_plain rfl hplain]
  rfl

theorem reads_joined (h : Holds p a settings) (hfresh : s ∉ settings) (hread : Readable s value) :
    Reads p a settings (.joined s value) := by
  obtain ⟨b, hrecord, hroots, hverbose, hvalues⟩ := record_ofString (a := a) hfresh hread
  refine ⟨{ args := b, settings := s :: settings }, b, s :: settings, fun rest => ?_,
    ⟨rfl, rfl⟩, by simp [hroots, Written.root?], hvalues, by simp [hverbose], by
      simp [Written.given?, eq_comm]⟩
  change parseFrom p (OsText.ofString ("--" ++ s.long ++ "=" ++ value) :: rest) = _
  rw [parseFrom, ofString_joined, take_long h.options (by simp), takeLong_joined,
    beginSetting_some h, hrecord]
  rfl

theorem reads_letter (h : Holds p a settings) (hfresh : .jobs ∉ settings)
    (hread : Readable .jobs value) : Reads p a settings (.letter value) := by
  obtain ⟨b, hrecord, hroots, hverbose, hvalues⟩ := record_ofString (a := a) hfresh hread
  refine ⟨{ args := b, settings := .jobs :: settings }, b, .jobs :: settings, fun rest => ?_,
    ⟨rfl, rfl⟩, by simp [hroots, Written.root?], ?_, by simp [hverbose], by
      simp [Written.given?]⟩
  · obtain ⟨n, -, rfl⟩ := hread rfl
    change parseFrom p (OsText.ofString ("-j" ++ toString n) :: rest) = _
    rw [parseFrom, take_letter h.options, beginSetting_some h, hrecord]
    rfl
  · simpa [Written.given?, eq_comm] using hvalues

theorem reads_verbose (h : Holds p a settings) (hnot : a.verbose = false) :
    Reads p a settings .verbose := by
  refine ⟨{ args := { a with verbose := true }, settings }, _, settings, fun rest => ?_,
    ⟨rfl, rfl⟩, by simp [Written.root?], fun s => by cases s <;> rfl, by simp, by
      simp [Written.given?]⟩
  have htake : p.take (OsText.ofString "-v") =
      (p.beginToggle .verbose false).bind fun q => q.takeLetters [] := by
    rw [Progress.take.eq_def, if_neg (by simp [h.options])]
    rfl
  have hbegin : p.beginToggle .verbose false =
      .ok { args := { a with verbose := true }, settings } := by
    rw [Progress.beginToggle, h.settle]
    exact if_neg (by simp [hnot])
  change parseFrom p (OsText.ofString "-v" :: rest) = _
  rw [parseFrom, htake, hbegin]
  rfl

/-- The second machine reads a word group as what it says. -/
theorem reads_of_fits (h : Holds p a settings) (hallowed : w.Allowed) (hfits : Fits w a settings) :
    Reads p a settings w := by
  cases w with
  | root path => exact reads_root h hallowed
  | apart s value =>
      obtain ⟨hfresh, hread⟩ := hfits.fresh s value (if_pos rfl)
      exact reads_apart h hallowed hfresh hread
  | joined s value =>
      obtain ⟨hfresh, hread⟩ := hfits.fresh s value (if_pos rfl)
      exact reads_joined h hfresh hread
  | letter value =>
      obtain ⟨hfresh, hread⟩ := hfits.fresh .jobs value rfl
      exact reads_letter h hfresh hread
  | verbose => exact reads_verbose h (hfits.verbose rfl)

end Reading

/-! ## Reading all of them -/

section Telling

variable {args a b : Arguments} {settings after : List Setting} {s : Setting} {w : Written}
  {done ws : List Written}

theorem valuesOf_append (s : Setting) (ws vs : List Written) :
    valuesOf s (ws ++ vs) = valuesOf s ws ++ valuesOf s vs := List.filterMap_append

theorem valuesOf_cons (s : Setting) (w : Written) (ws : List Written) :
    valuesOf s (w :: ws) = (w.given? s).toList ++ valuesOf s ws := by
  rw [valuesOf, List.filterMap_cons]
  cases w.given? s <;> rfl

theorem valuesOf_concat (s : Setting) (ws : List Written) (w : Written) :
    valuesOf s (ws ++ [w]) = valuesOf s ws ++ (w.given? s).toList := by
  rw [valuesOf, List.filterMap_append, List.filterMap_cons]
  cases w.given? s <;> rfl

theorem value?_jobs (a : Arguments) : a.value? .jobs = some (toString a.jobs) := rfl

theorem toString_inj {n m : Nat} : toString n = toString m ↔ n = m := by
  rw [Nat.toString_eq_repr, Nat.toString_eq_repr, Nat.repr_inj]

/-- Arguments are known by their paths, the values of their options and whether they are
verbose. -/
theorem Arguments.ext_values (hroots : a.roots = b.roots) (hvalues : ∀ s, a.value? s = b.value? s)
    (hverbose : a.verbose = b.verbose) : a = b := by
  have hnumber {n m : Option Nat} (h : n.map toString = m.map toString) : n = m :=
    Option.map_injective (fun _ _ => toString_inj.mp) h
  have hname : a.name = b.name := hvalues .name
  have hiname : a.iname = b.iname := hvalues .iname
  have hregex : a.regex = b.regex := hvalues .regex
  have hiregex : a.iregex = b.iregex := hvalues .iregex
  have htype : a.type = b.type := hvalues .type
  have hmin : a.minDepth = b.minDepth := hnumber (hvalues .minDepth)
  have hmax : a.maxDepth = b.maxDepth := hnumber (hvalues .maxDepth)
  have hjobs : a.jobs = b.jobs := toString_inj.mp (Option.some.inj (hvalues .jobs))
  obtain ⟨⟩ := a
  obtain ⟨⟩ := b
  simp_all only

/-- Word groups tell one `Arguments` only. -/
theorem Tells.unique (ha : Tells a ws) (hb : Tells b ws) : a = b := by
  refine Arguments.ext_values (ha.roots.symm.trans hb.roots) (fun s => ?_) ?_
  · have htoList {x y : Option String} (h : x.toList = y.toList) : x = y := by
      cases x <;> cases y <;> simp_all
    rcases ha.values s with hva | ⟨hs, hja, hva⟩
    · rcases hb.values s with hvb | ⟨rfl, -, hvb⟩
      · exact htoList (hva.symm.trans hvb)
      · cases hva.symm.trans hvb
    · subst hs
      rcases hb.values .jobs with hvb | ⟨-, hjb, -⟩
      · cases hva.symm.trans hvb
      · rw [value?_jobs, value?_jobs, hja, hjb]
  · have hcount := ha.verbose.symm.trans hb.verbose
    cases hva : a.verbose <;> cases hvb : b.verbose <;> simp [hva, hvb] at hcount ⊢

/-- What is told before a word group and what it adds is told with it. -/
theorem Tells.concat (h : Tells a done) (hadds : Adds a settings w b after)
    (hfits : Fits w a settings) (hsettings : ∀ s, s ∈ settings ↔ valuesOf s done ≠ []) :
    Tells b (done ++ [w]) where
  roots := by
    rw [List.filterMap_append, h.roots, hadds.roots]
    cases w <;> rfl
  values := by
    intro s
    rw [valuesOf_concat, hadds.values]
    cases hgiven : w.given? s with
    | none =>
        refine (h.values s).imp (fun hv => by simpa using hv) fun ⟨hs, hjobs, hv⟩ => ?_
        subst hs
        have hsame : b.value? .jobs = a.value? .jobs := by rw [hadds.values, hgiven]; rfl
        refine ⟨rfl, ?_, by simpa using hv⟩
        rw [value?_jobs, value?_jobs, Option.some.injEq, toString_inj] at hsame
        rw [hsame, hjobs]
    | some value =>
        have hnone : valuesOf s done = [] := by
          by_contra hne
          exact (hfits.fresh s value hgiven).1 ((hsettings s).mpr hne)
        exact .inl (by rw [hnone]; rfl)
  verbose := by
    rw [List.count_append, h.verbose, hadds.verbose, List.count_singleton]
    by_cases hw : w = .verbose
    · simp [hw, hfits.verbose hw]
    · simp [hw]

/-- The option of the next word group has no value yet, and is given the one it has. -/
theorem Tells.value_of_given (h : Tells args (done ++ w :: ws)) {value : String}
    (hgiven : w.given? s = some value) :
    valuesOf s done = [] ∧ args.value? s = some value := by
  have hcut : valuesOf s (done ++ w :: ws) = valuesOf s done ++ value :: valuesOf s ws := by
    rw [valuesOf_append, valuesOf_cons, hgiven]
    rfl
  rcases h.values s with hv | ⟨-, -, hv⟩
  · -- at most one value is written, and this is one
    have hvalues := hcut.symm.trans hv
    cases hargs : args.value? s with
    | none => simp [hargs] at hvalues
    | some v =>
        rw [hargs, Option.toList_some] at hvalues
        have hnil : valuesOf s done = [] := by
          have hlength := congrArg List.length hvalues
          simp only [List.length_append, List.length_cons, List.length_nil] at hlength
          exact List.length_eq_zero_iff.mp (by omega)
        rw [hnil] at hvalues
        exact ⟨hnil, congrArg some (List.cons.inj hvalues).1.symm⟩
  · exact absurd (hcut.symm.trans hv) (by simp)

/-- The values of arguments in range can be read. -/
theorem Arguments.InRange.readable (h : args.InRange) {value : String}
    (hvalue : args.value? s = some value) : Readable s value := by
  intro hnumber
  cases s
  case minDepth =>
    obtain ⟨n, hn, rfl⟩ := Option.map_eq_some_iff.mp hvalue
    exact ⟨n, h.minDepth n hn, rfl⟩
  case maxDepth =>
    obtain ⟨n, hn, rfl⟩ := Option.map_eq_some_iff.mp hvalue
    exact ⟨n, h.maxDepth n hn, rfl⟩
  case jobs => exact ⟨args.jobs, h.jobs, (Option.some.inj hvalue).symm⟩
  all_goals cases hnumber

/-- Arguments that are written have what the next word group says still to be said, where
`done` has been read. -/
theorem Tells.fits (h : Tells args (done ++ w :: ws)) (hrange : args.InRange) (hdone : Tells a done)
    (hsettings : ∀ s, s ∈ settings ↔ valuesOf s done ≠ []) : Fits w a settings where
  fresh := by
    intro s value hgiven
    obtain ⟨hnil, hvalue⟩ := h.value_of_given hgiven
    exact ⟨fun hmem => (hsettings s).mp hmem hnil, hrange.readable hvalue⟩
  verbose := by
    rintro rfl
    have hcount := h.verbose
    rw [List.count_append, hdone.verbose, List.count_cons_self] at hcount
    cases hverbose : a.verbose with
    | false => rfl
    | true =>
        have hle : (if args.verbose then 1 else 0) ≤ 1 := by split <;> decide
        rw [hverbose, if_pos rfl] at hcount
        omega

/-- From what has been read the second machine reads on to the arguments that were written. -/
theorem parseFrom_flatMap (hrange : args.InRange) (ws : List Written) :
    ∀ {done p a settings}, Holds p a settings → Tells a done →
      (∀ s, s ∈ settings ↔ valuesOf s done ≠ []) → Tells args (done ++ ws) →
      (∀ w ∈ ws, w.Allowed) →
      (parseFrom p (ws.flatMap Written.normalWords)).map Progress.args = .ok args := by
  induction ws with
  | nil =>
      intro done p a settings h hdone hsettings htells hallowed
      rw [List.append_nil] at htells
      rw [List.flatMap_nil, parseFrom, h.settle, hdone.unique htells]
      rfl
  | cons w ws ih =>
      intro done p a settings h hdone hsettings htells hallowed
      have hfits := htells.fits hrange hdone hsettings
      obtain ⟨q, b, after, hread, hq, hadds⟩ :=
        reads_of_fits h (hallowed w List.mem_cons_self) hfits
      rw [List.flatMap_cons, hread]
      refine ih hq (hdone.concat hadds hfits hsettings) (fun s => ?_) (by simpa using htells)
        fun v hv => hallowed v (List.mem_cons_of_mem w hv)
      rw [hadds.settings, hsettings, valuesOf_concat]
      cases w.given? s <;> simp

end Telling

/-- However arguments are written, with one dash or two, values apart or attached, options
and paths in any order, they are read as what they are, and so ask for one configuration. -/
theorem arguments_of_rendering {args : Arguments} {ws : List Written} (h : Renders args ws)
    (hroots : ∀ path ∈ args.roots, path.text ≠ [] ∧ Plain path.text) (hrange : args.InRange) :
    arguments? (OsText.ofString programName :: ws.flatMap Written.words) = .ok args ∧
      (arguments? (OsText.ofString programName :: ws.flatMap Written.words)).map
        Configuration.ofArguments = .ok (Configuration.ofArguments args) := by
  have hallowed : ∀ w ∈ ws, w.Allowed := by
    intro w hw
    cases w with
    | root path => exact hroots path (h.roots ▸ List.mem_filterMap.mpr ⟨_, hw, rfl⟩)
    | apart s value => exact h.apart s value hw
    | joined | letter | verbose => trivial
  have hread : arguments? (OsText.ofString programName :: ws.flatMap Written.words) = .ok args := by
    have hstart : Holds {} {} [] := ⟨rfl, rfl⟩
    have hnothing : Tells {} [] :=
      ⟨rfl, fun s => by cases s <;> first | exact .inl rfl | exact .inr ⟨rfl, rfl, rfl⟩, rfl⟩
    have hparse := parseFrom_flatMap hrange ws hstart hnothing (fun s => by simp [valuesOf])
      h.toTells hallowed
    rw [arguments?, normalize, normalizeFrom_cons (by decide), normalizeFrom_flatMap hallowed, parse,
      List.tail_cons]
    exact hparse
  exact ⟨hread, by rw [hread]; rfl⟩

/-- Arguments whose values look like options, or like nothing. -/
def crowded : Arguments where
  roots := [⟨OsText.ofString "-"⟩, ⟨OsText.ofString "a=b"⟩, ⟨[0xFF]⟩]
  name := some ""
  iname := some "-type=f"
  type := some "-"
  maxDepth := some 18446744073709551615
  jobs := 8
  verbose := true

/-- A way to write them. -/
def crowdedWords : List Written :=
  [.joined .iname "-type=f", .root ⟨OsText.ofString "-"⟩, .apart .name "", .letter "8",
    .root ⟨OsText.ofString "a=b"⟩, .apart .type "-", .verbose, .root ⟨[0xFF]⟩,
    .apart .maxDepth "18446744073709551615"]

theorem arguments_of_rendering_crowded :
    Renders crowded crowdedWords ∧ crowded.InRange ∧
      (∀ path ∈ crowded.roots, path.text ≠ [] ∧ Plain path.text) ∧
      arguments? (OsText.ofString programName :: crowdedWords.flatMap Written.words) = .ok crowded ∧
      (arguments? (OsText.ofString programName :: crowdedWords.flatMap Written.words)).map
        Configuration.ofArguments = .ok (Configuration.ofArguments crowded) := by
  have hrenders : Renders crowded crowdedWords :=
    { roots := by decide
      values := fun s => .inl (by cases s <;> decide)
      verbose := by decide
      apart := fun s value hmem => by
        simp only [crowdedWords, List.mem_cons, Written.apart.injEq, reduceCtorEq, false_or,
          List.not_mem_nil, or_false] at hmem
        obtain ⟨rfl, rfl⟩ | ⟨rfl, rfl⟩ | ⟨rfl, rfl⟩ := hmem <;> decide }
  have hrange : crowded.InRange :=
    { minDepth := nofun
      maxDepth := fun n hn => by cases hn; decide
      jobs := by decide }
  have hroots : ∀ path ∈ crowded.roots, path.text ≠ [] ∧ Plain path.text := by decide
  exact ⟨hrenders, hrange, hroots, arguments_of_rendering hrenders hroots hrange⟩

end Frontier.CommandLine
