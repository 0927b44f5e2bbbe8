/-
# Acts — the moves of an examination, one by one

What an examination does next depends on the disk, the matcher, the sink and the
record.  Here its moves stand one by one, each with the condition under which it
is made:

    Acts plan r ex r' next     `ex` makes of the record `r` the record `r'`,
                               and goes on with `next`
    Makes plan ex mv           the next move of `ex` is `mv`

What is claimed of every step of an examination is then claimed of each of them
(`acts_of_move`, `makes_of_move`), and none of the functions that it consists of is
opened again.
-/
import Frontier.Search.Examination

namespace Frontier.Search

open Dispatcher

/-- How an examination goes on when it has submitted the job of a place. -/
def afterSubmission (p : Place) (kind : EntryKind) (rest : Listing) (accepted : Bool) :
    Examination :=
  if accepted then .children p kind rest else .judge p kind

namespace Examination

/-- What an examination that acts makes of the record, and how it goes on. -/
inductive Acts (plan : Plan) (r : Record) : Examination → Record → Examination → Prop
  | passOver (p : Place) : (plan.watchesFlag && r.flag) = true → Acts plan r (arrive p) r (skip p)
  | look (p : Place) : (plan.watchesFlag && r.flag) = false →
      Acts plan r (arrive p) r (classify p)
  | skipFirst (p : Place) : r.interrupted = false →
      Acts plan r (skip p) { r with interrupted := true, skipped := r.skipped ++ [p] } close
  | skipNext (p : Place) : r.interrupted = true →
      Acts plan r (skip p) { r with interrupted := true, skipped := r.skipped ++ [p] } finish
  | classified {p : Place} {kind : EntryKind} : plan.disk.classify p.path = .ok kind →
      Acts plan r (classify p) { r with examined := r.examined ++ [p] } (countKind p kind)
  | unclassified {p : Place} {f : Failure} : plan.disk.classify p.path = .error f →
      Acts plan r (classify p)
        { r with examined := r.examined ++ [p], unclassified := r.unclassified ++ [p] }
        (countFailure f finish)
  | descend (p : Place) (kind : EntryKind) : descends plan p kind = true →
      Acts plan r (countKind p kind) (r.countKind kind) (list p kind)
  | stay (p : Place) (kind : EntryKind) : descends plan p kind = false →
      Acts plan r (countKind p kind) (r.countKind kind) (judge p kind)
  | listed {p : Place} (kind : EntryKind) {listing : Listing} :
      plan.disk.list p.path = .ok listing →
        Acts plan r (list p kind) r (children p kind listing)
  | unlisted {p : Place} (kind : EntryKind) {e : SystemError} :
      plan.disk.list p.path = .error e →
        Acts plan r (list p kind) { r with unlisted := r.unlisted ++ [p] }
          (countFailure (.ofSystem p.path e) (judge p kind))
  | noneLeft (p : Place) (kind : EntryKind) : Acts plan r (children p kind []) r (judge p kind)
  | unread (p : Place) (kind : EntryKind) (e : SystemError) (rest : Listing) :
      Acts plan r (children p kind (.error e :: rest)) { r with unread := r.unread ++ [p] }
        (countFailure (.ofSystem p.path e) (children p kind rest))
  | fresh (p : Place) (kind : EntryKind) (e : DirEntry) (rest : Listing) :
      (r.visited.insert (p.ofEntry plan.disk e).key).2 = true →
        Acts plan r (children p kind (.ok e :: rest))
          { r with visited := (r.visited.insert (p.ofEntry plan.disk e).key).1 }
          (prepare p kind (p.ofEntry plan.disk e) rest)
  | known (p : Place) (kind : EntryKind) (e : DirEntry) (rest : Listing) :
      (r.visited.insert (p.ofEntry plan.disk e).key).2 = false →
        Acts plan r (children p kind (.ok e :: rest))
          { r with visited := (r.visited.insert (p.ofEntry plan.disk e).key).1 }
          (children p kind rest)
  | judge (p : Place) (kind : EntryKind) : isCandidate plan p kind = true →
      Acts plan r (judge p kind)
        { r with judged := r.judged ++ [Entry.ofPath p.path kind p.depth] }
        (afterVerdict p.path (plan.matcher (Entry.ofPath p.path kind p.depth)))
  | countMatch (path : Path) :
      Acts plan r (countMatch path) { r with matched := r.matched + 1 } (tellMatch path)
  | muteMatch (path : Path) : plan.sink = none → Acts plan r (tellMatch path) r (keepMatch path)
  | tellMatch (path : Path) {sink : Sink} : plan.sink = some sink →
      (r.tellMatch sink path).2.panics = none →
        Acts plan r (tellMatch path) (r.tellMatch sink path).1 (keepMatch path)
  | breakMatch (path : Path) {sink : Sink} {message : String} : plan.sink = some sink →
      (r.tellMatch sink path).2.panics = some message →
        Acts plan r (tellMatch path) (r.tellMatch sink path).1 (breakOff message)
  | keepMatch (path : Path) : plan.keepsPaths = true →
      Acts plan r (keepMatch path) { r with paths := r.paths ++ [path] } finish
  | discardMatch (path : Path) : plan.keepsPaths = false → Acts plan r (keepMatch path) r finish
  | countFailure (f : Failure) (next : Examination) :
      Acts plan r (countFailure f next) { r with errors := r.errors + 1 } (tellFailure f next)
  | muteFailure (f : Failure) (next : Examination) : plan.sink = none →
      Acts plan r (tellFailure f next) r (keepFailure f next)
  | tellFailure (f : Failure) (next : Examination) {sink : Sink} : plan.sink = some sink →
      (r.tellFailure sink f).2.panics = none →
        Acts plan r (tellFailure f next) (r.tellFailure sink f).1 (keepFailure f next)
  | breakFailure (f : Failure) (next : Examination) {sink : Sink} {message : String} :
      plan.sink = some sink → (r.tellFailure sink f).2.panics = some message →
        Acts plan r (tellFailure f next) (r.tellFailure sink f).1 (breakOff message)
  | keepFailure (f : Failure) (next : Examination) : plan.keepsFailures = true →
      Acts plan r (keepFailure f next) { r with failures := r.failures ++ [f] } next
  | discardFailure (f : Failure) (next : Examination) : plan.keepsFailures = false →
      Acts plan r (keepFailure f next) r next

variable {plan : Plan}

/-- An examination that acts does one of these things. -/
theorem acts_of_move {ex : Examination} {effect : Record → Record × Examination}
    (hmove : move plan ex = .act effect) (r : Record) :
    Acts plan r ex (effect r).1 (effect r).2 := by
  cases ex with
  | arrive p =>
      cases hmove
      dsimp only
      split
      · next hflag => exact .passOver p hflag
      · next hflag => exact .look p (Bool.eq_false_iff.mpr hflag)
  | skip p =>
      cases hmove
      dsimp only
      split
      · next hnoted => exact .skipNext p hnoted
      · next hnoted => exact .skipFirst p (Bool.eq_false_iff.mpr hnoted)
  | classify p =>
      cases hmove
      dsimp only
      split
      · next hkind => exact .classified hkind
      · next hfailure => exact .unclassified hfailure
  | countKind p kind =>
      cases hmove
      dsimp only
      split
      · next hdescends => exact .descend p kind hdescends
      · next hstays => exact .stay p kind (Bool.eq_false_iff.mpr hstays)
  | list p kind =>
      cases hmove
      dsimp only
      split
      · next hlist => exact .listed kind hlist
      · next herror => exact .unlisted kind herror
  | children p kind rest =>
      rcases rest with _ | ⟨e | e, rest⟩
      · cases hmove
        exact .noneLeft p kind
      · cases hmove
        exact .unread p kind e rest
      · cases hmove
        dsimp only
        split
        · next hfresh => exact .fresh p kind e rest hfresh
        · next hknown => exact .known p kind e rest (Bool.eq_false_iff.mpr hknown)
  | judge p kind =>
      simp only [move] at hmove
      split at hmove
      · next hcandidate =>
          cases hmove
          exact .judge p kind hcandidate
      · cases hmove
  | countMatch path =>
      cases hmove
      exact .countMatch path
  | tellMatch path =>
      cases hmove
      dsimp only
      split
      · next hnone => exact .muteMatch path hnone
      · next hsink =>
          dsimp only
          unfold afterReaction
          split
          · next hpanics => exact .breakMatch path hsink hpanics
          · next hcalm => exact .tellMatch path hsink hcalm
  | keepMatch path =>
      cases hmove
      dsimp only
      split
      · next hkeeps => exact .keepMatch path hkeeps
      · next hnot => exact .discardMatch path (Bool.eq_false_iff.mpr hnot)
  | countFailure f next =>
      cases hmove
      exact .countFailure f next
  | tellFailure f next =>
      cases hmove
      dsimp only
      split
      · next hnone => exact .muteFailure f next hnone
      · next hsink =>
          dsimp only
          unfold afterReaction
          split
          · next hpanics => exact .breakFailure f next hsink hpanics
          · next hcalm => exact .tellFailure f next hsink hcalm
  | keepFailure f next =>
      cases hmove
      dsimp only
      split
      · next hkeeps => exact .keepFailure f next hkeeps
      · next hnot => exact .discardFailure f next (Bool.eq_false_iff.mpr hnot)
  | close | prepare | submit | breakOff | finish => cases hmove

/-- What an examination does next. -/
inductive Makes (plan : Plan) : Examination → Move Place Examination Record → Prop
  | act {ex : Examination} {effect : Record → Record × Examination} :
      (∀ r, Acts plan r ex (effect r).1 (effect r).2) → Makes plan ex (.act effect)
  | close : Makes plan close (.close finish)
  | prepare (p : Place) (kind : EntryKind) (child : Place) (rest : Listing) :
      Makes plan (prepare p kind child rest) (.clone (submit p kind child rest))
  | submit (p : Place) (kind : EntryKind) (child : Place) (rest : Listing) :
      Makes plan (submit p kind child rest) (.submit child 1 (afterSubmission p kind rest))
  | pass (p : Place) (kind : EntryKind) : isCandidate plan p kind = false →
      Makes plan (judge p kind) .finish
  | breakOff (message : String) : Makes plan (breakOff message) (.panic message)
  | finish : Makes plan finish .finish

theorem makes (plan : Plan) (ex : Examination) : Makes plan ex (move plan ex) := by
  cases ex with
  | close => exact .close
  | prepare p kind child rest => exact .prepare p kind child rest
  | submit p kind child rest => exact .submit p kind child rest
  | judge p kind =>
      cases hcandidate : isCandidate plan p kind with
      | true =>
          have hmove : move plan (.judge p kind) = .act _ := if_pos hcandidate
          rw [hmove]
          exact .act (acts_of_move hmove)
      | false =>
          have hmove : move plan (.judge p kind) = .finish := if_neg (by simp [hcandidate])
          rw [hmove]
          exact .pass p kind hcandidate
  | children p kind rest => rcases rest with _ | ⟨_ | _, _⟩ <;> exact .act (acts_of_move rfl)
  | breakOff message => exact .breakOff message
  | finish => exact .finish
  | _ => exact .act (acts_of_move rfl)

/-- An examination neither waits nor starts the dispatcher, nor does it ask anything or drop a
handle: no constructor makes such a move. -/
theorem makes_of_move {ex : Examination} {mv : Move Place Examination Record}
    (hmove : move plan ex = mv) : Makes plan ex mv :=
  hmove ▸ makes plan ex

end Examination

end Frontier.Search
