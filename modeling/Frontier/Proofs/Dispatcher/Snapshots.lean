/-
# Snapshots — what the counters say, and what a thread reads of them

A job is counted as submitted before it is pushed, as executed when it has run, and
as broken off after that.  So at every moment

    broken off ≤ executed ≤ submitted         (`Runs.counters_ordered`)

But nobody reads the counters at one moment.  A thread reads them one after
another, submitted first, and the jobs of others go on meanwhile:

| | |
| :-- | :-- |
| each value | is one that the counter had during the call (`Runs.snapshot_between`) |
| the values together | are in order if no counter was changed during the call |
| else | a job may come between two readings, and is executed but not submitted, or broken off but not executed (`snapshot_torn`) |
-/
import Frontier.Dispatcher.Script
import Frontier.Proofs.Dispatcher.Completion
import Frontier.Proofs.Dispatcher.LatestFirst
import Mathlib

namespace Frontier.Dispatcher

variable {J B ω : Type} {w : Workload J B ω} {n : Neighbours} {v v' : ω} {s s' s₀ : Shared J}
  {f g : Frame J B ω} {fs gs below above rest : Multiset (Frame J B ω)} {q : Result}
  {r r' : Option Result} {told told' : List (Occurrence J)} {p p' : Reading} {stats : Stats}

/-! ## The counters -/

/-- A job that was counted as submitted, is not in the queue and was not counted as executed. -/
def Frame.underway : Frame J B ω → Nat
  | push _ | run .. | submitting .. | starting .. | shed .. | countExecuted _ => 1
  | _ => 0

/-- A job that was counted as executed, has broken off and was not counted as such. -/
def Frame.unnoted : Frame J B ω → Nat
  | countPanicked _ => 1
  | _ => 0

/-- Jobs that were submitted are queued, under way or executed, and what has broken off was
executed. -/
structure Ordered (s : Shared J) (fs : Multiset (Frame J B ω)) : Prop where
  submitted : s.executed + s.queue.items.length + weigh Frame.underway fs = s.submitted
  panicked : s.panicked + weigh Frame.unnoted fs ≤ s.executed

/-- What a turn does to the counters, and to the jobs that are counted next. -/
structure Tallies (s s' : Shared J) (f : Frame J B ω) (fs : Multiset (Frame J B ω)) : Prop where
  submitted : s'.executed + s'.queue.items.length + weigh Frame.underway fs + s.submitted =
    s.executed + s.queue.items.length + f.underway + s'.submitted
  panicked : s'.panicked + weigh Frame.unnoted fs + s.executed ≤
    s.panicked + f.unnoted + s'.executed

theorem Turn.tallies (h : Turn w n v s f v' s' fs r told) : Tallies s s' f fs := by
  cases h with
  | takeSlot ha | reacquire ha | acquireSelf ha =>
      obtain ⟨-, rfl⟩ := Shared.acquire?_eq_some_iff.mp ha
      exact ⟨rfl, le_rfl⟩
  | handBack | giveUp | release =>
      obtain ⟨_, _, _, hrelease, -⟩ := s.exists_release_eq
      rw [hrelease]
      exact ⟨rfl, le_rfl⟩
  | accept he =>
      obtain ⟨-, -, rfl⟩ := Shared.enroll_eq_ok_iff.mp he
      exact ⟨rfl, le_rfl⟩
  | count =>
      refine ⟨?_, le_rfl⟩
      simp only [Frame.underway, Shared.countSubmitted, weigh_singleton]
      omega
  | push =>
      refine ⟨?_, le_rfl⟩
      simp only [Frame.underway, Shared.push, Queue.items_push, weigh_singleton,
        List.length_append, List.length_singleton]
      omega
  | pop hp =>
      obtain ⟨_, hitems, rfl⟩ := Shared.pop?_eq_some_iff.mp hp
      refine ⟨?_, le_rfl⟩
      simp only [Frame.underway, hitems, weigh_singleton, List.length_cons]
      omega
  | countFinished =>
      refine ⟨?_, ?_⟩ <;>
        simp only [Frame.underway, Frame.unnoted, Shared.countExecuted, weigh_singleton] <;> omega
  | countBroken =>
      refine ⟨?_, ?_⟩ <;>
        simp only [Frame.underway, Frame.unnoted, Shared.countExecuted, weigh_singleton] <;> omega
  | countPanicked =>
      refine ⟨rfl, ?_⟩
      simp only [Frame.unnoted, Shared.countPanicked, weigh_singleton]
      omega
  | finish | panic | shed =>
      refine ⟨?_, ?_⟩
      · rw [weigh_ended (x := 1) (fun _ => rfl) rfl]
        rfl
      · rw [weigh_ended (x := 0) (fun _ => rfl) rfl]
        exact le_rfl
  | takeRegistry | join =>
      refine ⟨?_, ?_⟩
      · rw [weigh_joining (x := 0) (fun _ _ => rfl) rfl]
        rfl
      · rw [weigh_joining (x := 0) (fun _ _ => rfl) rfl]
        exact le_rfl
  | _ => exact ⟨rfl, le_rfl⟩

theorem Receives.tallies (h : Receives q g gs r told) :
    g.underway = weigh Frame.underway gs ∧ g.unnoted = weigh Frame.unnoted gs := by
  cases h <;> exact ⟨rfl, rfl⟩

theorem Ordered.turn (h : Ordered s (f ::ₘ (below + rest)))
    (hturn : Turn w n v s f v' s' fs r told) (hpasses : Passes r below above r' told') :
    Ordered s' (fs + (above + rest)) := by
  obtain ⟨hsubmitted, hpanicked⟩ := h
  obtain ⟨hsubmitted', hpanicked'⟩ := hturn.tallies
  rw [weigh_cons, weigh_add] at hsubmitted hpanicked
  rw [hpasses.weigh_eq fun hg => hg.tallies.1] at hsubmitted
  rw [hpasses.weigh_eq fun hg => hg.tallies.2] at hpanicked
  constructor <;> rw [weigh_add, weigh_add] <;> omega

/-- No counter of jobs goes back. -/
def NoFewer (s s' : Shared J) : Prop :=
  s.submitted ≤ s'.submitted ∧ s.executed ≤ s'.executed ∧ s.panicked ≤ s'.panicked

theorem NoFewer.rfl : NoFewer s s := ⟨le_rfl, le_rfl, le_rfl⟩

theorem NoFewer.trans {s'' : Shared J} (h : NoFewer s s') (h' : NoFewer s' s'') :
    NoFewer s s'' :=
  ⟨h.1.trans h'.1, h.2.1.trans h'.2.1, h.2.2.trans h'.2.2⟩

theorem Turn.noFewer (h : Turn w n v s f v' s' fs r told) : NoFewer s s' := by
  cases h with
  | takeSlot ha | reacquire ha | acquireSelf ha =>
      obtain ⟨-, rfl⟩ := Shared.acquire?_eq_some_iff.mp ha
      exact .rfl
  | handBack | giveUp | release =>
      obtain ⟨_, _, _, hrelease, -⟩ := s.exists_release_eq
      rw [hrelease]
      exact .rfl
  | accept he =>
      obtain ⟨-, -, rfl⟩ := Shared.enroll_eq_ok_iff.mp he
      exact .rfl
  | pop hp =>
      obtain ⟨_, -, rfl⟩ := Shared.pop?_eq_some_iff.mp hp
      exact .rfl
  | count => exact ⟨Nat.le_succ _, le_rfl, le_rfl⟩
  | countFinished | countBroken => exact ⟨le_rfl, Nat.le_succ _, le_rfl⟩
  | countPanicked => exact ⟨le_rfl, le_rfl, Nat.le_succ _⟩
  | _ => exact .rfl

/-! ## Reading them -/

/-- What was read are values that the counters had between two moments. -/
def Reading.Between (s₀ s : Shared J) : Reading → Prop
  | submitted => True
  | executed a => s₀.submitted ≤ a ∧ a ≤ s.submitted
  | panicked a b => (s₀.submitted ≤ a ∧ a ≤ s.submitted) ∧ s₀.executed ≤ b ∧ b ≤ s.executed
  | peak a b c => (s₀.submitted ≤ a ∧ a ≤ s.submitted) ∧ (s₀.executed ≤ b ∧ b ≤ s.executed) ∧
      s₀.panicked ≤ c ∧ c ≤ s.panicked

/-- The statistics are values that the counters had between two moments. -/
structure Stats.Between (s₀ s : Shared J) (stats : Stats) : Prop where
  submitted : s₀.submitted ≤ stats.submitted ∧ stats.submitted ≤ s.submitted
  executed : s₀.executed ≤ stats.executed ∧ stats.executed ≤ s.executed
  panicked : s₀.panicked ≤ stats.panicked ∧ stats.panicked ≤ s.panicked

theorem Reading.Between.later (h : p.Between s₀ s) (hs : NoFewer s s') : p.Between s₀ s' := by
  obtain ⟨hsubmitted, hexecuted, hpanicked⟩ := hs
  cases p with
  | submitted => trivial
  | executed a => exact ⟨h.1, h.2.trans hsubmitted⟩
  | panicked a b => exact ⟨⟨h.1.1, h.1.2.trans hsubmitted⟩, h.2.1, h.2.2.trans hexecuted⟩
  | peak a b c =>
      exact ⟨⟨h.1.1, h.1.2.trans hsubmitted⟩, ⟨h.2.1.1, h.2.1.2.trans hexecuted⟩, h.2.2.1,
        h.2.2.2.trans hpanicked⟩

theorem Stats.Between.later (h : stats.Between s₀ s) (hs : NoFewer s s') : stats.Between s₀ s' :=
  ⟨⟨h.submitted.1, h.submitted.2.trans hs.1⟩, ⟨h.executed.1, h.executed.2.trans hs.2.1⟩,
    ⟨h.panicked.1, h.panicked.2.trans hs.2.2⟩⟩

theorem Reading.Between.next (h : p.Between s₀ s) (hs : NoFewer s₀ s)
    (hnext : (p.step s).next = .more p') : p'.Between s₀ s := by
  cases p with
  | submitted => cases hnext; exact ⟨hs.1, le_rfl⟩
  | executed a => cases hnext; exact ⟨h, hs.2.1, le_rfl⟩
  | panicked a b => cases hnext; exact ⟨h.1, h.2, hs.2.2, le_rfl⟩
  | peak a b c => cases hnext

theorem Reading.Between.done (h : p.Between s₀ s) (hnext : (p.step s).next = .done stats) :
    stats.Between s₀ s := by
  cases p with
  | submitted | executed a | panicked a b => cases hnext
  | peak a b c => cases hnext; exact ⟨h.1, h.2.1, h.2.2⟩

/-- What a frame reads next, and what it returns, are values between the moments, too. -/
theorem Turn.reading (h : Turn w n v s f v' s' fs r told) (hs : NoFewer s₀ s)
    (hf : ∀ p, f = .reading p → p.Between s₀ s) :
    (∀ g ∈ fs, ∀ p, g = .reading p → p.Between s₀ s') ∧
      ∀ stats, r = some (.read stats) → stats.Between s₀ s' := by
  cases h with
  | read hnext =>
      refine ⟨?_, nofun⟩
      intro g hg p hp
      rw [Multiset.mem_singleton.mp hg] at hp
      cases hp
      exact (hf _ rfl).next hs hnext
  | readLast hnext =>
      refine ⟨by simp, ?_⟩
      rintro stats ⟨rfl⟩
      exact (hf _ rfl).done hnext
  | askStats => simp [Reading.Between]
  | finish | panic | shed => exact ⟨forall_mem_ended (fun _ => nofun) nofun, nofun⟩
  | takeRegistry | join => exact ⟨forall_mem_joining (fun _ _ => nofun) nofun, nofun⟩
  | _ => simp

theorem Turn.stats_notMem (h : Turn w n v s f v' s' fs r told) :
    .returned (.stats stats) ∉ told := by
  cases h <;> simp

theorem Receives.not_reading (h : Receives q g gs r told) : ∀ f ∈ gs, ∀ p, f ≠ .reading p := by
  cases h <;> simp

theorem Passes.eq_of_read (h : Passes r below above (some (.read stats)) told) :
    r = some (.read stats) := by
  cases h with
  | refl => rfl
  | receive _ hg => cases hg

/-- A client is told of statistics that were read. -/
theorem Passes.eq_of_stats (h : Passes r below above r' told)
    (hmem : .returned (.stats stats) ∈ told) : r = some (.read stats) := by
  induction h with
  | refl => cases hmem
  | receive hpasses hg ih =>
      rcases List.mem_append.mp hmem with hmem | hmem
      · exact ih hmem
      · cases hg with
        | readClient =>
            cases List.mem_singleton.mp hmem
            exact hpasses.eq_of_read
        | _ => simp at hmem

namespace Machine

variable {limit : Nat} {world : ω} {first : List (Request J ω)}
  {others : List (List (Request J ω))} {reliable : Bool} {m m' : Machine J B ω}
  {history later : History J}

theorem Runs.ordered (run : Runs w reliable (ofClients limit world first others) history m) :
    Ordered m.shared m.frames := by
  refine run.frames_induction (P := fun _ s fs _ => Ordered s fs) ?_ ?_
  · constructor <;> rw [weigh_ofClients fun _ _ => rfl]
    · rfl
    · exact Nat.le_refl 0
  · intro n v s f v' s' fs below above rest r r' told told' past _ hturn hpasses _ h
    exact h.turn hturn hpasses

/-- At every moment the counters are in order. -/
theorem Runs.counters_ordered
    (run : Runs w reliable (ofClients limit world first others) history m) :
    m.shared.panicked ≤ m.shared.executed ∧ m.shared.executed ≤ m.shared.submitted := by
  obtain ⟨hsubmitted, hpanicked⟩ := run.ordered
  omega

/-- Where no call has read anything yet, each value that a call returns from there on is one that
the counter had meanwhile. -/
theorem Runs.stats_between (run : Runs w reliable m later m')
    (hfresh : ∀ p, .reading p ∈ m.frames → p = .submitted) {t : ThreadId}
    (hstats : (t, .returned (.stats stats)) ∈ later) : stats.Between m.shared m'.shared := by
  have hall : NoFewer m.shared m'.shared ∧
      (∀ f ∈ m'.frames, ∀ p, f = .reading p → p.Between m.shared m'.shared) ∧
      ∀ t stats, (t, .returned (.stats stats)) ∈ later → stats.Between m.shared m'.shared := by
    refine run.frames_induction (P := fun _ s fs past => NoFewer m.shared s ∧
      (∀ f ∈ fs, ∀ p, f = .reading p → p.Between m.shared s) ∧
      ∀ t stats, (t, .returned (.stats stats)) ∈ past → stats.Between m.shared s)
      ⟨.rfl, ?_, fun _ _ => nofun⟩ ?_
    · rintro f hf p rfl
      rw [hfresh p hf]
      trivial
    · intro n v s f v' s' fs below above rest r r' told told' past _ hturn hpasses _ h
      obtain ⟨hs, hreading, hreturned⟩ := h
      have hmore := hturn.noFewer
      obtain ⟨hfs, hr⟩ := hturn.reading hs (hreading f (Multiset.mem_cons_self ..))
      refine ⟨hs.trans hmore, ?_, ?_⟩
      · refine hpasses.forall_after (fun hg _ _ f hf p hp => absurd hp (hg.not_reading f hf p)) hfs ?_
        intro g hg p hp
        exact (hreading g (Multiset.mem_cons_of_mem hg) p hp).later hmore
      · intro t stats hmem
        rw [List.mem_append, List.mem_map] at hmem
        rcases hmem with hmem | ⟨o, ho, heq⟩
        · exact (hreturned t stats hmem).later hmore
        · cases heq
          exact hr stats <| hpasses.eq_of_stats <|
            (List.mem_append.mp ho).resolve_left hturn.stats_notMem
  exact hall.2.2 t stats hstats

/-- What a call returns, if none has read anything when it begins: values that the counters had
during the call.  So no more is executed than is submitted when it returns, and no more has broken
off than is executed; and if no counter was changed meanwhile, the values themselves are in
order. -/
theorem Runs.snapshot_between
    (run : Runs w reliable (ofClients limit world first others) history m)
    (hlater : Runs w reliable m later m') (hfresh : ∀ p, .reading p ∈ m.frames → p = .submitted)
    {t : ThreadId} (hstats : (t, .returned (.stats stats)) ∈ later) :
    stats.Between m.shared m'.shared ∧
      stats.panicked ≤ m'.shared.executed ∧ stats.executed ≤ m'.shared.submitted ∧
      (SameCounts m.shared m'.shared →
        stats.panicked ≤ stats.executed ∧ stats.executed ≤ stats.submitted) := by
  have hbetween := hlater.stats_between hfresh hstats
  obtain ⟨hpanicked, hexecuted⟩ := (run.trans hlater).counters_ordered
  refine ⟨hbetween, hbetween.panicked.2.trans hpanicked, hbetween.executed.2.trans hexecuted, ?_⟩
  rintro ⟨hsubmitted', hexecuted', hpanicked'⟩
  obtain ⟨⟨_, _⟩, ⟨_, _⟩, ⟨_, _⟩⟩ := hbetween
  omega

/-- A client reads the counters while another one submits a job that breaks off. -/
def observed : Machine Script.Job Script.Body Script.World :=
  ofClients 1 .empty [.start, .clone, .give 1, .stats] [[.submit [.panic "x"] 0]]

/-- If the job comes behind the first reading, more jobs are executed than submitted; if it comes
behind the second, more have broken off than were executed. -/
theorem snapshot_torn :
    (∃ history m stats, Runs Script.workload true observed history m ∧
      (0, .returned (.stats stats)) ∈ history ∧ stats.submitted < stats.executed) ∧
    ∃ history m stats, Runs Script.workload true observed history m ∧
      (0, .returned (.stats stats)) ∈ history ∧ stats.executed < stats.panicked := by
  refine ⟨⟨_, _, ⟨0, 1, 1, 1⟩, runs_overtake 22 (runs_settle Script.workload 8 observed), ?_,
    by decide⟩, ⟨_, _, ⟨0, 0, 1, 1⟩, runs_overtake 22 (runs_settle Script.workload 9 observed), ?_,
    by decide⟩⟩
  · exact List.mem_of_getLast? (by rfl)
  · exact List.mem_of_getLast? (by rfl)

end Machine

end Frontier.Dispatcher
