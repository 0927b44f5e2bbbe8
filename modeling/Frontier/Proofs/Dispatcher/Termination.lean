/-
# Termination — a dispatcher of bodies that come to an end comes to an end

A `Ranking` of a workload says how much a body has still to do, the jobs that
it submits included.  From it every step of the machine gets a measure of three
parts that decreases lexicographically.

| part | what it counts | what makes it smaller |
| :-- | :-- | :-- |
| labour | what jobs, calls and scripts have still to do | work |
| chores | attempts to fill slots, looks at the queue, workers to join | an attempt, a look |
| awake | threads that do not sleep | falling asleep once more |

A worker that finds the queue empty, gives its slot back and looks again does
no labour.  It cannot go on so for ever: as long as no job is pushed or popped,
the queue is either empty, and it leaves, or not, and it finds a job.
-/
import Frontier.Proofs.Dispatcher.Inversion
import Frontier.Proofs.Dispatcher.Operations
import Frontier.Proofs.Dispatcher.Threads
import Mathlib

namespace Frontier.Dispatcher

variable {J B ω : Type} {w : Workload J B ω} {n : Neighbours} {v v' : ω} {s s' : Shared J}
  {f g : Frame J B ω} {fs gs below above rest : Multiset (Frame J B ω)} {q : Result}
  {r r' : Option Result} {told told' : List (Occurrence J)}

/-- How much bodies have still to do.  What a body submits counts as its own, with what a submission
costs. -/
structure Ranking (w : Workload J B ω) where
  toil : B → Nat
  act {b : B} {effect : ω → ω × B} : w.move b = .act effect → ∀ v, toil (effect v).2 < toil b
  wait {b next : B} {ready : ω → Bool} : w.move b = .wait ready next → toil next < toil b
  submit {b : B} {job : J} {given : Nat} {next : Bool → B} : w.move b = .submit job given next →
    ∀ ok, 12 + toil (w.enter job) + toil (next ok) < toil b
  start {b next : B} : w.move b = .start next → 4 + toil next < toil b
  close {b next : B} : w.move b = .close next → toil next < toil b
  ask {b : B} {question : Question} {next : Answer → B} : w.move b = .ask question next →
    ∀ a, toil (next a) < toil b
  clone {b next : B} : w.move b = .clone next → 1 + toil next < toil b
  drop {b next : B} : w.move b = .drop next → toil next < toil b

namespace Ranking

variable (ρ : Ranking w)

/-! ## The measure -/

/-- A job that is queued has still to do what its body has, and to be popped. -/
def itemLabour (job : J) (handles : Nat) : Nat := 5 + handles + ρ.toil (w.enter job)

def requestLabour : Request J ω → Nat
  | .submit job given => 8 + ρ.itemLabour job given
  | .start | .stats => 5
  | .drain => 16
  | .drop _ => 20
  | .close | .clone | .give _ | .touch _ => 1

/-- The counters that are still to be read. -/
def readingLabour : Reading → Nat
  | .submitted => 4
  | .executed _ => 3
  | .panicked .. => 2
  | .peak .. => 1

def labour : Frame J B ω → Nat
  | .client _ _ script => (script.map ρ.requestLabour).sum
  | .filling .checkOpen => 3
  | .filling .readLength => 2
  | .filling _ => 1
  | .enroll job handles => 7 + ρ.itemLabour job handles
  | .discard left => left + 1
  | .count a => 6 + ρ.itemLabour a.job a.handles
  | .push a => 5 + ρ.itemLabour a.job a.handles
  | .checkOpen | .start => 4
  | .accepted | .pop | .release | .checkEmpty | .reacquire => 0
  | .run _ h b => 4 + h + ρ.toil b
  | .submitting _ h next => 4 + h + max (ρ.toil (next true)) (ρ.toil (next false))
  | .starting _ h next => 4 + h + ρ.toil next
  | .shed left _ => 4 + left
  | .countExecuted _ => 3
  | .countPanicked _ => 2
  | .complete => 1
  | .opening | .acquireSelf => 11
  | .serve | .declare => 10
  | .parked => 9
  | .checkIdle => 8
  | .dozing => 7
  | .takeRegistry => 6
  | .join .. => 5
  | .concluding p | .reading p => readingLabour p
  | .decrement _ => 19
  | .checkLifecycle => 18
  | .reclaim => 17
  | .drain | .forget => 1

def queueLabour (items : List (Admitted J)) : Nat :=
  (items.map fun a => ρ.itemLabour a.job a.handles).sum

end Ranking

/-- What a frame does besides, if the queue is empty and if it is not. -/
def Frame.chores (empty : Bool) : Frame J B ω → Nat
  | filling (.acquire left) => 10 * left + 10
  | filling (.checkQuiescent left) => 10 * left + 9
  | filling (.takeNumber left) => 10 * left + 8
  | filling (.spawn left _) => 10 * left + 7
  | filling .handBack | filling .giveUp => 1
  | reacquire => if empty then 5 else 2
  | pop => if empty then 4 else 1
  | release => if empty then 3 else 4
  | checkEmpty => if empty then 2 else 3
  | join _ others => others.length + 1
  | _ => 0

/-! ## One turn -/

/-- How a turn makes the measure smaller. -/
inductive Descent (ρ : Ranking w) (n : Neighbours) (s s' : Shared J) (f : Frame J B ω)
    (fs : Multiset (Frame J B ω)) (r : Option Result) (told : List (Occurrence J)) : Prop
  | labour : weigh ρ.labour fs + ρ.queueLabour s'.queue.items <
      ρ.labour f + ρ.queueLabour s.queue.items → Descent ρ n s s' f fs r told
  | chores : weigh ρ.labour fs ≤ ρ.labour f → s'.queue = s.queue →
      weigh (Frame.chores s.queue.isEmpty) fs < f.chores s.queue.isEmpty →
      Descent ρ n s s' f fs r told
  | park : f = .parked → fs = {.parked} → n.self ∉ s.gateSleepers → s' = s.parked n.self →
      r = none → told = [] → Descent ρ n s s' f fs r told
  | doze : f = .dozing → fs = {.dozing} → n.self ∉ s.slotSleepers → s' = s.dozing n.self →
      r = none → told = [] → Descent ρ n s s' f fs r told

theorem Ranking.labour_ended (ρ : Ranking w) (h : Nat) (e : Ending) :
    ρ.labour (.ended h e) < 4 + h := by
  cases h with
  | zero => exact Nat.lt_succ_self 3
  | succ left => exact Nat.lt_succ_self (4 + left)

theorem Ranking.labour_joining (ρ : Ranking w) (ts : List ThreadId) :
    ρ.labour (.joining ts) ≤ 5 := by
  cases ts with
  | nil => exact Nat.le_succ 4
  | cons t rest => exact Nat.le_refl 5

theorem Ranking.readingLabour_next {p p' : Reading} (hnext : (p.step s).next = .more p') :
    readingLabour p' < readingLabour p := by
  cases p <;> cases hnext <;> exact Nat.lt_succ_self _

theorem Ranking.readingLabour_pos (p : Reading) : 0 < readingLabour p := by
  cases p <;> exact Nat.succ_pos _

/-- A turn that leaves the queue as it is and has less labour. -/
theorem Descent.of_frames {ρ : Ranking w} (hqueue : s'.queue = s.queue)
    (h : weigh ρ.labour fs < ρ.labour f) : Descent ρ n s s' f fs r told :=
  .labour (by rw [hqueue]; exact Nat.add_lt_add_right h _)

theorem Turn.descent (ρ : Ranking w) (h : Turn w n v s f v' s' fs r told) :
    Descent ρ n s s' f fs r told := by
  cases h with
  -- chores
  | takeSlot ha =>
      obtain ⟨-, rfl⟩ := Shared.acquire?_eq_some_iff.mp ha
      exact .chores (by simp [Ranking.labour]) rfl (by simp [Frame.chores])
  | seeQuiescent | seeLive | takeNumber | failToSpawn =>
      exact .chores (by simp [Ranking.labour]) rfl (by simp [Frame.chores]; try omega)
  | spawn =>
      refine .chores (by simp [Ranking.labour]) rfl ?_
      simp only [Multiset.insert_eq_cons, weigh_cons, weigh_singleton, Frame.chores]
      split <;> omega
  | popNothing hp =>
      have hempty : s.queue.isEmpty = true := List.isEmpty_iff.mpr (Shared.pop?_eq_none_iff.mp hp)
      exact .chores (by simp [Ranking.labour]) rfl (by simp [Frame.chores, hempty])
  | release =>
      obtain ⟨_, _, _, hrelease, -⟩ := s.exists_release_eq
      rw [hrelease]
      refine .chores (by simp [Ranking.labour]) rfl ?_
      simp only [weigh_singleton, Frame.chores]
      split <;> omega
  | leaveEmpty | leaveFull =>
      refine .chores (by simp [Ranking.labour]) rfl ?_
      simp only [weigh_zero, Frame.chores]
      split <;> omega
  | lookAgain hempty =>
      exact .chores (by simp [Ranking.labour]) rfl (by simp [Frame.chores, hempty])
  | reacquire ha =>
      obtain ⟨-, rfl⟩ := Shared.acquire?_eq_some_iff.mp ha
      refine .chores (by simp [Ranking.labour]) rfl ?_
      simp only [weigh_singleton, Frame.chores]
      split <;> omega
  | @join _ ws =>
      cases ws with
      | nil => exact .of_frames rfl (by simp [Frame.joining, Ranking.labour, Ranking.readingLabour])
      | cons u ws =>
          exact .chores (by simp [Frame.joining, Ranking.labour]) rfl
            (by simp [Frame.joining, Frame.chores])
  -- falling asleep again
  | parkAgain hself => exact .park rfl rfl hself rfl rfl rfl
  | dozeAgain hself => exact .doze rfl rfl hself rfl rfl rfl
  -- labour
  | handBack | giveUp =>
      refine .of_frames ?_ (by simp [Ranking.labour])
      obtain ⟨_, _, _, hrelease, -⟩ := s.exists_release_eq
      rw [hrelease]
  | acquireSelf ha =>
      obtain ⟨-, rfl⟩ := Shared.acquire?_eq_some_iff.mp ha
      exact .of_frames rfl (by simp [Ranking.labour])
  | accept he =>
      obtain ⟨-, rfl, rfl⟩ := Shared.enroll_eq_ok_iff.mp he
      exact .of_frames rfl (by simp [Ranking.labour])
  | refuse => exact .of_frames rfl (by simp [Ranking.labour, Ranking.itemLabour]; omega)
  | refuseBare => exact .of_frames rfl (by simp [Ranking.labour])
  | push =>
      refine .labour ?_
      simp only [Shared.push, Queue.items_push, Ranking.queueLabour, List.map_append,
        List.sum_append, List.map_singleton, List.sum_singleton, weigh_singleton, Ranking.labour]
      omega
  | pop hp =>
      obtain ⟨rest, hitems, rfl⟩ := Shared.pop?_eq_some_iff.mp hp
      refine .labour ?_
      simp only [hitems, Ranking.queueLabour, List.map_cons, List.sum_cons, weigh_singleton,
        Ranking.labour, Ranking.itemLabour]
      omega
  | finish | panic =>
      have hended := ρ.labour_ended
      refine .of_frames rfl ?_
      rw [weigh_singleton, Ranking.labour]
      exact Nat.lt_of_lt_of_le (hended _ _) (Nat.le_add_right _ _)
  | shed =>
      have hended := ρ.labour_ended
      refine .of_frames rfl ?_
      rw [weigh_singleton]
      exact hended _ _
  | act hmove =>
      have hless := ρ.act hmove v
      exact .of_frames rfl (by simpa [Ranking.labour] using hless)
  | wait hmove =>
      have hless := ρ.wait hmove
      exact .of_frames rfl (by simpa [Ranking.labour] using hless)
  | submit hmove hgiven =>
      have htrue := ρ.submit hmove true
      have hfalse := ρ.submit hmove false
      refine .of_frames rfl ?_
      simp only [Multiset.insert_eq_cons, weigh_cons, weigh_singleton, Ranking.labour,
        Ranking.itemLabour]
      omega
  | startInside hmove =>
      have hless := ρ.start hmove
      refine .of_frames rfl ?_
      simp only [Multiset.insert_eq_cons, weigh_cons, weigh_singleton, Ranking.labour]
      omega
  | closeInside hmove =>
      have hless := ρ.close hmove
      exact .of_frames rfl (by simpa [Ranking.labour] using hless)
  | ask hmove =>
      have hless := ρ.ask hmove
      exact .of_frames rfl (by simpa [Ranking.labour] using hless _)
  | cloneInside hmove =>
      have hless := ρ.clone hmove
      refine .of_frames rfl ?_
      simp only [weigh_singleton, Ranking.labour]
      omega
  | dropInside hmove =>
      have hless := ρ.drop hmove
      refine .of_frames rfl ?_
      simp only [weigh_singleton, Ranking.labour]
      omega
  | takeRegistry =>
      have hjoining := ρ.labour_joining s.registry
      refine .of_frames rfl ?_
      rw [weigh_singleton]
      exact Nat.lt_succ_of_le hjoining
  | conclude hnext | read hnext =>
      have hless := Ranking.readingLabour_next hnext
      exact .of_frames rfl (by simpa [Ranking.labour] using hless)
  | concluded | readLast => exact .of_frames rfl (Ranking.readingLabour_pos _)
  | askDrain =>
      refine .of_frames rfl ?_
      simp only [Multiset.insert_eq_cons, weigh_cons, weigh_singleton, Ranking.labour,
        List.map_cons, List.sum_cons, Ranking.requestLabour]
      omega
  | _ =>
      exact .of_frames rfl
        (by simp [Ranking.labour, Ranking.requestLabour, Ranking.readingLabour])

theorem Receives.labour_le (ρ : Ranking w) (h : Receives q g gs r told) :
    weigh ρ.labour gs ≤ ρ.labour g := by
  cases h with
  | @submitBody ok =>
      cases ok <;> simp [Ranking.labour]
  | _ => simp [Ranking.labour]

theorem Receives.chores_eq (empty : Bool) (h : Receives q g gs r told) :
    g.chores empty = weigh (Frame.chores empty) gs := by
  cases h <;> rfl

/-- A weight that receiving does not raise is not raised by passing on. -/
theorem Passes.weigh_le {a : Frame J B ω → Nat}
    (ha : ∀ {q g gs q' told}, Receives q g gs q' told → weigh a gs ≤ a g)
    (h : Passes r below above r' told) : weigh a above ≤ weigh a below := by
  induction h with
  | refl => exact Nat.le_refl 0
  | receive _ hg ih =>
      rw [weigh_cons, weigh_add]
      exact Nat.add_le_add (ha hg) ih

/-! ## Steps of the machine -/

namespace Machine

variable {m m' : Machine J B ω} {t : ThreadId} {canSpawn : Bool} {occurred : List (Occurrence J)}

/-- How many threads are not among the sleepers. -/
def awake (length : Nat) (sleepers : List ThreadId) : Nat :=
  ((Finset.range length).filter (· ∉ sleepers)).card

theorem awake_cons_lt {length : Nat} {sleepers : List ThreadId} (hlt : t < length)
    (ht : t ∉ sleepers) : awake length (t :: sleepers) < awake length sleepers := by
  refine Finset.card_lt_card ⟨?_, ?_⟩
  · intro u hu
    rw [Finset.mem_filter] at hu ⊢
    exact ⟨hu.1, fun hmem => hu.2 (List.mem_cons_of_mem _ hmem)⟩
  · intro hsub
    have hmem := hsub (Finset.mem_filter.mpr ⟨Finset.mem_range.mpr hlt, ht⟩)
    exact (Finset.mem_filter.mp hmem).2 List.mem_cons_self

/-- Labour, chores, and how many threads are awake. -/
def rank (ρ : Ranking w) (m : Machine J B ω) : Nat × Nat × Nat :=
  (weigh ρ.labour m.frames + ρ.queueLabour m.shared.queue.items,
    weigh (Frame.chores m.shared.queue.isEmpty) m.frames,
    awake m.threads.length m.shared.gateSleepers + awake m.threads.length m.shared.slotSleepers)

/-- One machine has a smaller rank than another. -/
def Below (ρ : Ranking w) (m' m : Machine J B ω) : Prop :=
  Prod.Lex (· < ·) (Prod.Lex (· < ·) (· < ·)) (m'.rank ρ) (m.rank ρ)

theorem Below.of_labour {ρ : Ranking w} (h : (m'.rank ρ).1 < (m.rank ρ).1) : Below ρ m' m :=
  Prod.lex_def.mpr (.inl h)

theorem Below.of_chores {ρ : Ranking w} (hlabour : (m'.rank ρ).1 ≤ (m.rank ρ).1)
    (h : (m'.rank ρ).2.1 < (m.rank ρ).2.1) : Below ρ m' m := by
  rcases Nat.lt_or_eq_of_le hlabour with hlt | heq
  · exact .of_labour hlt
  · exact Prod.lex_def.mpr (.inr ⟨heq, Prod.lex_def.mpr (.inl h)⟩)

theorem Below.of_awake {ρ : Ranking w} (hframes : m'.frames = m.frames)
    (hqueue : m'.shared.queue = m.shared.queue) (h : (m'.rank ρ).2.2 < (m.rank ρ).2.2) :
    Below ρ m' m := by
  refine Prod.lex_def.mpr (.inr ⟨?_, Prod.lex_def.mpr (.inr ⟨?_, h⟩)⟩)
  · simp only [rank, hframes, hqueue]
  · simp only [rank, hframes, hqueue]

/-- Every step makes the rank smaller. -/
theorem below_of_step (ρ : Ranking w) (hstep : m.step w t canSpawn = some (m', occurred)) :
    Below ρ m' m := by
  have hlt := lt_of_step hstep
  have hlength := (step_keeps hstep).length
  obtain ⟨r, -, f, fs, below, above, rest, r₀, told₀, told₁, hturn, hpasses, hbefore, hafter,
    rfl⟩ := step_rewrites hstep
  have hlabour := hpasses.weigh_le (Receives.labour_le ρ)
  have hchores := fun empty => hpasses.weigh_eq (Receives.chores_eq empty)
  have hframes (a : Frame J B ω → Nat) : weigh a m.frames =
      a f + (weigh a below + weigh a rest) := by
    rw [hbefore, weigh_cons, weigh_add]
  have hframes' (a : Frame J B ω → Nat) : weigh a m'.frames =
      weigh a fs + (weigh a above + weigh a rest) := by
    rw [hafter, weigh_add, weigh_add]
  cases hturn.descent ρ with
  | labour hless =>
      refine .of_labour ?_
      simp only [rank, hframes, hframes']
      omega
  | chores hle hqueue hless =>
      refine .of_chores ?_ ?_
      · simp only [rank, hframes, hframes', hqueue]
        omega
      · simp only [rank, hframes, hframes', hqueue, hchores]
        omega
  | park hf hfs hself hs hr htold =>
      subst hf hfs hr htold
      obtain ⟨rfl, rfl, -, rfl⟩ := hpasses.of_none
      refine .of_awake (by rw [hafter, hbefore]; rfl) (by rw [hs]; rfl) ?_
      have hfewer : awake m.threads.length (t :: m.shared.gateSleepers) <
        awake m.threads.length m.shared.gateSleepers := awake_cons_lt hlt hself
      simp only [rank, hlength, hs]
      exact Nat.add_lt_add_right hfewer _
  | doze hf hfs hself hs hr htold =>
      subst hf hfs hr htold
      obtain ⟨rfl, rfl, -, rfl⟩ := hpasses.of_none
      refine .of_awake (by rw [hafter, hbefore]; rfl) (by rw [hs]; rfl) ?_
      have hfewer : awake m.threads.length (t :: m.shared.slotSleepers) <
        awake m.threads.length m.shared.slotSleepers := awake_cons_lt hlt hself
      simp only [rank, hlength, hs]
      exact Nat.add_lt_add_left hfewer _

/-- The steps of a dispatcher of bodies that come to an end are well founded. -/
theorem step_wellFounded (ρ : Ranking w) :
    WellFounded fun m' m : Machine J B ω =>
      ∃ t canSpawn occurred, m.step w t canSpawn = some (m', occurred) := by
  refine Subrelation.wf (r := Below ρ) (fun ⟨_, _, _, h⟩ => below_of_step ρ h) ?_
  exact InvImage.wf (rank ρ) (WellFounded.prod_lex wellFounded_lt
    (WellFounded.prod_lex wellFounded_lt wellFounded_lt))

/-- It takes no infinite sequence of steps. -/
theorem no_infinite_run (ρ : Ranking w) :
    ¬∃ path : Nat → Machine J B ω, ∀ k, ∃ t canSpawn occurred,
      (path k).step w t canSpawn = some (path (k + 1), occurred) := by
  rintro ⟨path, hpath⟩
  exact (wellFounded_iff_isEmpty_descending_chain.mp (step_wellFounded ρ)).false ⟨path, hpath⟩

end Machine

end Frontier.Dispatcher
