/-
# The ledger — what a search that goes on has claimed, and what became of it

On a disk with links no one walk is what every search takes: which of two ways
to a key is taken depends on who comes first.  What does not depend on it is
kept in a ledger of the places that were claimed.

    each was come to on a way, and no two have one key              (`Claimed`)
    what is noted, owed and lost are the notes of all of them       (`notes`)
    what is looked at or ahead are the children of all of them      (`steps`)

When the dispatcher has been drained nothing is owed and nothing is ahead.  So
a search that was not cut short has `Explored` its disk: what it examined is
closed under looking, and is counted as what it is (`explored_of_runs`).
-/
import Frontier.Proofs.Search.Claims
import Mathlib

namespace Frontier.Search

open Dispatcher
open Dispatcher.Machine (Runs History accepted)

variable {plan : Plan} {roots : List Path} {n : Neighbours} {v v' : Record}
  {s s' : Shared Place} {f : SearchFrame} {fs fs' below above rest : Multiset SearchFrame}
  {r r' : Option Result} {told told' : List (Occurrence Place)} {claims : List Place}
  {looked : Multiset (Place × Place)} {lost : Multiset Note} {p c : Place}

/-! ## Sums -/

theorem mem_sum_map {α β : Type} {g : α → Multiset β} {l : List α} {x : β} :
    x ∈ (l.map g).sum ↔ ∃ a ∈ l, x ∈ g a := by
  induction l with
  | nil => simp
  | cons a l ih => simp [ih]

/-- Of several places the claims come first. -/
theorem sum_placeNotes_eq (ps : List Place) :
    (ps.map (placeNotes plan)).sum =
      .ofList ((ps.map Place.mark).map .claimed) + (ps.map (ownNotes plan)).sum := by
  have hplace : placeNotes plan = fun p => {.claimed p.mark} + ownNotes plan p :=
    funext placeNotes_eq
  rw [hplace, List.sum_map_add, sum_map_singleton, List.map_map]
  rfl

/-! ## The invariant -/

/-- What a search that goes on has claimed, and what became of it. -/
structure Ledger (plan : Plan) (roots : List Path) (v : Record) (s : Shared Place)
    (fs : Multiset SearchFrame) (claims : List Place) (looked : Multiset (Place × Place))
    (lost : Multiset Note) : Prop extends Claimed plan roots v.visited claims where
  looked_visited : ∀ x ∈ looked, x.2.mark ∈ v.visited.keys
  breaks : Lost plan lost
  notes : v.notes + ((dues plan).total s fs).1 + lost = (claims.map (placeNotes plan)).sum
  steps : looked + ((dues plan).total s fs).2 = (claims.map (stepsFrom plan)).sum

theorem Examination.mem_ahead_of_looks {ex : Examination} {x : Place × Place}
    (hx : x ∈ ex.looks plan) : x ∈ ex.ahead plan := by
  cases ex with
  | children p kind rest =>
      rcases rest with _ | ⟨_ | e, rest⟩
      · cases hx
      · cases hx
      · rw [looks, List.mem_singleton] at hx
        rw [ahead, List.map_cons, partOf, partSteps_ok, hx]
        exact Multiset.mem_add.mpr (.inl (Multiset.mem_singleton_self _))
  | _ => cases hx

/-- The child that an examination looks at is that of a place which was claimed. -/
theorem Ledger.of_looks (h : Ledger plan roots v s fs claims looked lost) {ex : Examination}
    {others : Multiset Note × Multiset (Place × Place)}
    (hbody : (dues plan).total s fs = (dues plan).body ex + others) {x : Place × Place}
    (hx : x ∈ ex.looks plan) : x.1 ∈ claims ∧ x.2 ∈ childrenOf plan x.1 := by
  have hahead : x ∈ ((dues plan).total s fs).2 := by
    rw [hbody]
    exact Multiset.mem_add.mpr (.inl (Examination.mem_ahead_of_looks hx))
  have hsteps : x ∈ (claims.map (stepsFrom plan)).sum := by
    rw [← h.steps]
    exact Multiset.mem_add.mpr (.inr hahead)
  obtain ⟨p, hp, hmem⟩ := mem_sum_map.mp hsteps
  obtain ⟨rfl, hchild⟩ := mem_stepsFrom.mp hmem
  exact ⟨hp, hchild⟩

/-- An examination acts, and its claim comes into the ledger. -/
theorem Ledger.act (h : Ledger plan roots v s fs claims looked lost) {ex : Examination}
    {after : Record × Examination} {others : Multiset Note × Multiset (Place × Place)}
    (hadvances : Examination.Advances plan v ex after)
    (hbody : (dues plan).total s fs = (dues plan).body ex + others)
    (hbody' : (dues plan).total s' fs' = (dues plan).body after.2 + others) :
    ∃ lost', Ledger plan roots after.1 s' fs' (ex.claims plan v ++ claims)
      (.ofList (ex.looks plan) + looked) lost' := by
  obtain ⟨lost₁, hlost₁, hnotes₁⟩ := hadvances.notes
  have hnotes := h.notes
  have hsteps := h.steps
  rw [hbody] at hnotes hsteps
  refine ⟨lost + lost₁, h.toClaimed.act (fun x hx => h.of_looks hbody hx) hadvances.visited, ?_,
    h.breaks.add hlost₁, ?_, ?_⟩
  · intro x hx
    rw [hadvances.visited, List.mem_append]
    rcases Multiset.mem_add.mp hx with hx | hx
    · by_cases hold : x.2.mark ∈ v.visited.keys
      · exact .inr hold
      · exact .inl (List.mem_map_of_mem (Examination.mem_claims hx hold))
    · exact .inr (h.looked_visited x hx)
  · rw [hbody', List.map_append, List.sum_append, ← hnotes]
    calc after.1.notes + (after.2.owed plan + others.1) + (lost + lost₁)
        = after.1.notes + after.2.owed plan + lost₁ + (others.1 + lost) := by abel
      _ = v.notes + ex.owed plan + ((ex.claims plan v).map (placeNotes plan)).sum +
            (others.1 + lost) := by rw [hnotes₁]
      _ = ((ex.claims plan v).map (placeNotes plan)).sum +
            (v.notes + (ex.owed plan + others.1) + lost) := by abel
  · rw [hbody', List.map_append, List.sum_append, ← hsteps]
    calc .ofList (ex.looks plan) + looked + (after.2.ahead plan + others.2)
        = .ofList (ex.looks plan) + after.2.ahead plan + (looked + others.2) := by abel
      _ = ex.ahead plan + ((ex.claims plan v).map (stepsFrom plan)).sum +
            (looked + others.2) := by rw [hadvances.steps]
      _ = ((ex.claims plan v).map (stepsFrom plan)).sum +
            (looked + (ex.ahead plan + others.2)) := by abel

/-- What only changes hands stays in the ledger. -/
theorem Ledger.hand (h : Ledger plan roots v s fs claims looked lost)
    (hrecord : v' = { v with flag := v'.flag })
    (htotal : (dues plan).total s' fs' = (dues plan).total s fs) :
    Ledger plan roots v' s' fs' claims looked lost := by
  have hvisited : v'.visited = v.visited := by rw [hrecord]
  have hnotes : v'.notes = v.notes := by rw [hrecord]; rfl
  exact ⟨by rw [hvisited]; exact h.toClaimed, by rw [hvisited]; exact h.looked_visited, h.breaks,
    by rw [hnotes, htotal]; exact h.notes, by rw [htotal]; exact h.steps⟩

section Runs

variable {disk : Disk} {search : Search} {bystanders : List (List Bool)} {reliable : Bool}
  {m : Machine Place Examination Record} {history : History Place}

/-- At first the roots are claimed. -/
theorem ledger_machine (hdisk : plan.disk = disk) :
    Ledger plan search.roots (search.machine disk bystanders).world
      (search.machine disk bystanders).shared (search.machine disk bystanders).frames
      (keptRoots plan.disk search.roots) 0 0 := by
  have hclaimed : Claimed plan search.roots (search.machine disk bystanders).world.visited
      (keptRoots plan.disk search.roots) := .of_machine disk search bystanders hdisk
  subst hdisk
  have htotal := (dues plan).total_machine plan.disk search bystanders
  rw [show (dues plan).offered = fun p => (ownNotes plan p, stepsFrom plan p) from rfl,
    sum_map_prod] at htotal
  have hnotes : (search.machine plan.disk bystanders).world.notes =
      .ofList (((keptRoots plan.disk search.roots).map Place.mark).map .claimed) := by
    have hvisited : (search.machine plan.disk bystanders).world.notes =
        .ofList ((search.beginnings plan.disk).1.keys.map .claimed) := by
      simp [machine, Machine.ofClients, Record.notes, Record.empty]
    rw [hvisited]
    exact Multiset.coe_eq_coe.mpr (hclaimed.keys.map _)
  refine ⟨hclaimed, by simp, .zero plan, ?_, ?_⟩
  · rw [htotal, hnotes, sum_placeNotes_eq, add_zero]
  · rw [htotal, zero_add]

/-- In a smooth turn an examination acts, and its claim comes into the ledger, or what is owed
changes hands. -/
theorem Ledger.turn (h : Ledger plan roots v s (f ::ₘ (below + rest)) claims looked lost)
    (hpatient : plan.Patient) (hscripted : ∀ g ∈ f ::ₘ (below + rest), Scripted g)
    (hcourse : OnCourse plan f) (hturn : Turn (workload plan) n v s f v' s' fs r told)
    (hpasses : Passes r below above r' told') (hsmooth : Smooth f r told) :
    (∃ k held ex lost', f = .run k held ex ∧
        Ledger plan roots v' s' (fs + (above + rest)) (ex.claims plan v ++ claims)
          (.ofList (ex.looks plan) + looked) lost') ∨
      Ledger plan roots v' s' (fs + (above + rest)) claims looked lost := by
  rcases (dues plan).step hturn hpasses hscripted (.inr ⟨hsmooth.not_refused, hsmooth.not_told⟩)
    with ⟨k, held, ex, next, others, hacts, rfl, -, hbody, hbody'⟩ | ⟨hrecord, hbalance⟩
  · have hadvances := hacts.advances hpatient hcourse
      fun p heq => hsmooth.not_skip k held p (by rw [heq])
    obtain ⟨lost', hledger⟩ := h.act hadvances hbody hbody'
    exact .inl ⟨k, held, ex, lost', rfl, hledger⟩
  · exact .inr (h.hand hrecord (add_right_cancel hbalance))

/-- As long as no place was passed over, there is a ledger. -/
theorem ledger_of_runs (hpatient : plan.Patient) (hdisk : plan.disk = disk)
    (run : Runs (workload plan) reliable (search.machine disk bystanders) history m)
    (hgoes : m.world.interrupted = false) :
    ∃ claims looked lost,
      Ledger plan search.roots m.world m.shared m.frames claims looked lost := by
  refine goes_on_induction (P := fun m _ => ∃ claims looked lost,
      Ledger plan search.roots m.world m.shared m.frames claims looked lost) run hgoes
    ⟨_, _, _, ledger_machine hdisk⟩ ?_
  intro n f fs below above rest r r' told told' past m₁ m₂ run₁ _ _ _ hbefore hafter hturn hpasses
    hsmooth h
  obtain ⟨claims, looked, lost, hledger⟩ := h
  have hscripted := scripted_of_runs run₁
  have hcourse := onCourse_of_runs run₁
  rw [hbefore] at hledger hscripted hcourse
  rw [hafter]
  rcases hledger.turn hpatient hscripted (hcourse f (Multiset.mem_cons_self ..)) hturn hpasses
    hsmooth with ⟨_, _, _, _, -, hafter⟩ | hafter
  · exact ⟨_, _, _, hafter⟩
  · exact ⟨_, _, _, hafter⟩

end Runs

/-! ## When the dispatcher has been drained -/

/-- Places on ways from the roots, no key twice, and with each place all that it holds. -/
structure Covered (plan : Plan) (roots : List Path) (ps : List Place) : Prop where
  nodup : (ps.map Place.mark).Nodup
  roots_subset : ∀ p ∈ keptRoots plan.disk roots, p ∈ ps
  ways : ∀ p ∈ ps, ∃ before, Way plan roots (p :: before) ∧ ∀ q ∈ before, q ∈ ps
  closed : ∀ p ∈ ps, ∀ c ∈ childrenOf plan p, c.mark ∈ ps.map Place.mark

/-- What a search that was not cut short has examined covers what it can come to, and the record
counts it as what it is. -/
structure Explored (plan : Plan) (roots : List Path) (record : Record) : Prop extends
    Covered plan roots record.examined where
  files : record.files = (recordOf plan record.examined).files
  dirs : record.dirs = (recordOf plan record.examined).dirs
  errors : record.errors = (recordOf plan record.examined).errors
  agrees_of_steady : plan.Steady → record.Agrees (recordOf plan record.examined)

theorem Explored.agrees {record : Record} (h : Explored plan roots record) (hcalm : plan.Calm) :
    record.Agrees (recordOf plan record.examined) :=
  h.agrees_of_steady hcalm.steady

theorem Record.count_examined (r : Record) (p : Place) :
    r.notes.count (.examined p) = r.examined.count p := by
  have hinj : Function.Injective Note.examined := fun _ _ h => Note.examined.inj h
  have hexamined : (r.examined.map Note.examined).count (.examined p) = r.examined.count p :=
    List.count_map_of_injective _ _ hinj p
  simp [notes, Multiset.count_replicate, hexamined, List.count_eq_zero]

/-- What was lost has nothing of what was examined and counted. -/
theorem Record.agrees_of_firm {r r' : Record} (hlost : ∀ note ∈ lost, ¬note.Firm)
    (h : r.notes + lost = r'.notes) :
    r.examined.Perm r'.examined ∧ r.files = r'.files ∧ r.dirs = r'.dirs ∧
      r.errors = r'.errors := by
  have hcount (note : Note) (hfirm : note.Firm) : r.notes.count note = r'.notes.count note := by
    have hnone : lost.count note = 0 :=
      Multiset.count_eq_zero.mpr fun hmem => hlost note hmem hfirm
    rw [← h, Multiset.count_add, hnone, add_zero]
  refine ⟨?_, ?_, ?_, ?_⟩
  · refine List.perm_iff_count.mpr ?_
    intro p
    rw [← r.count_examined, ← r'.count_examined]
    exact hcount _ trivial
  · simpa [notes, Multiset.count_replicate] using hcount (.counted false) trivial
  · simpa [notes, Multiset.count_replicate] using hcount (.counted true) trivial
  · simpa [notes, Multiset.count_replicate] using hcount .failed trivial

/-- Where nothing is owed any more, the places that were claimed are examined. -/
theorem Ledger.examined_perm (h : Ledger plan roots v s fs claims looked lost)
    (hdone : (dues plan).total s fs = 0) : v.examined.Perm claims := by
  have hnotes := h.notes
  rw [hdone, Prod.fst_zero, add_zero, sum_placeNotes] at hnotes
  exact (Record.agrees_of_firm h.breaks.not_firm hnotes).1

/-- Where nothing is ahead any more, what they hold was looked at. -/
theorem Ledger.mem_looked (h : Ledger plan roots v s fs claims looked lost)
    (hdone : (dues plan).total s fs = 0) (hp : p ∈ claims) (hc : c ∈ childrenOf plan p) :
    (p, c) ∈ looked := by
  have hsteps := h.steps
  rw [hdone, Prod.snd_zero, add_zero] at hsteps
  rw [hsteps]
  exact mem_sum_map.mpr ⟨p, hp, mem_stepsFrom.mpr ⟨rfl, hc⟩⟩

theorem Ledger.explored (h : Ledger plan roots v s fs claims looked lost)
    (hdone : (dues plan).total s fs = 0) : Explored plan roots v := by
  have hperm := h.examined_perm hdone
  have hrecord : v.notes + lost = (recordOf plan v.examined).notes := by
    have hnotes := h.notes
    rw [hdone, Prod.fst_zero, add_zero] at hnotes
    rw [hnotes, ← sum_placeNotes]
    exact ((hperm.map _).sum_eq).symm
  obtain ⟨-, hfiles, hdirs, herrors⟩ := Record.agrees_of_firm h.breaks.not_firm hrecord
  refine ⟨⟨(hperm.map Place.mark).nodup_iff.mpr h.nodup, ?_, ?_, ?_⟩, hfiles, hdirs, herrors, ?_⟩
  · exact fun p hp => hperm.mem_iff.mpr (h.roots_subset p hp)
  · intro p hp
    obtain ⟨ps, hway, hps⟩ := h.ways p (hperm.mem_iff.mp hp)
    exact ⟨ps, hway, fun q hq => hperm.mem_iff.mpr (hps q hq)⟩
  · intro p hp c hc
    have hlooked := h.mem_looked hdone (hperm.mem_iff.mp hp) hc
    exact (h.keys.trans (hperm.map Place.mark).symm).mem_iff.mp (h.looked_visited _ hlooked)
  · intro hsteady
    rw [h.breaks.eq_zero hsteady, add_zero] at hrecord
    exact Record.agrees_of_notes hrecord

section Runs

variable {disk : Disk} {search : Search} {bystanders : List (List Bool)} {reliable : Bool}
  {m : Machine Place Examination Record} {history : History Place}

/-- A search that has come to an outcome and was not cut short has explored the disk. -/
theorem explored_of_runs (hpatient : plan.Patient) (hdisk : plan.disk = disk)
    (run : Runs (workload plan) reliable (search.machine disk bystanders) history m)
    (hgoes : m.world.interrupted = false) {result : Except Failure Results}
    (hresult : outcome history m.world = some result) : Explored plan search.roots m.world := by
  obtain ⟨stats, -, hdrained⟩ := exists_results_of_outcome run hresult
  have hq := (counts_of_drained run hdrained).1
  obtain ⟨claims, looked, lost, hledger⟩ := ledger_of_runs hpatient hdisk run hgoes
  exact hledger.explored ((dues plan).total_of_quiescent run hq)

end Runs

end Frontier.Search
