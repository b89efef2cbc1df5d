import HiddenEquation.Proofs.Feedback.Laws
import HiddenEquation.Proofs.Game.Transitions
import Mathlib.Data.List.Induction

/-!
# Calls to observers

A session calls its observers after each accepted guess and after each new game, one after another
in the order in which they were subscribed, and it calls nobody otherwise. Observers may join at any
time, so who is called depends on the moves made so far. This file describes the calls of a whole
run by the moves and their answers alone, without the number of observers that a session keeps, and
says what an observer finds when it is called: the session as the move leaves it, never something
in between.

## Main definitions

* `Session.callLog` : the calls of a run.
* `Move.isAnnounced` : the answers that tell of an accepted guess or of a new game.
* `Session.announcement` : the calls that are due to one move of a run.
* `Session.SeesGuess`, `Session.SeesNewGame` : what an observer finds when it is called.

## Main results

* `Session.calls_perform` : the calls of one move.
* `Session.observers_after` : the observers of a session are those subscribed in its run.
* `Session.callLog_after_start` : the calls of a run are the announcements of its moves.
-/

namespace HiddenEquation

/-- Whether observers hear of a move with such an answer: a guess was accepted, or another game was
started. -/
def Move.isAnnounced : Move → Answer → Bool
  | .submit _, .row (.ok _) => true
  | .process _, .done (.ok ()) => true
  | .newGame, .done (.ok ()) => true
  | _, _ => false

namespace Session

variable {s first : Session}

/-! ### The calls of one move -/

namespace Submission

variable {text : String} {effect : Effect (Except SessionError Row)}

/-- Submitting a text calls every observer if a row is the answer, and nobody otherwise. -/
theorem calls_eq (h : s.Submission text effect) :
    effect.calls = if effect.answer.isOk then effect.session.notify else [] := by
  cases h <;> rfl

theorem observers_eq (h : s.Submission text effect) : effect.session.observers = s.observers := by
  cases h <;> rfl

end Submission

theorem isAnnounced_submit (text : String) (answer : Except SessionError Row) :
    Move.isAnnounced (.submit text) (.row answer) = answer.isOk := by
  cases answer <;> rfl

theorem isAnnounced_process (text : String) (answer : Except SessionError Row) :
    Move.isAnnounced (.process text) (.done (answer.map fun _ => ())) = answer.isOk := by
  cases answer <;> rfl

theorem isAnnounced_subscribe (answer : Answer) :
    Move.isAnnounced .subscribe answer = false := by
  cases answer <;> rfl

/-- The calls of a move go to every observer, or to none. -/
theorem calls_perform (s : Session) (move : Move) :
    (s.perform move).calls =
      if move.isAnnounced (s.perform move).answer then (s.perform move).session.notify else [] := by
  cases move with
  | submit text =>
    simp only [perform, Effect.map, isAnnounced_submit]
    exact (s.submission_submit text).calls_eq
  | process text =>
    simp only [perform, process, Effect.map, isAnnounced_process]
    exact (s.submission_submit text).calls_eq
  | check text =>
    rw [perform, check]
    cases Guess.validate text <;> rfl
  | newGame =>
    rw [perform, newGame]
    cases s.options.selection.pick? s.corpus (s.draws s.drawn) <;> rfl
  | subscribe => rfl

/-- Only a subscription changes the number of observers. -/
theorem observers_perform (s : Session) (move : Move) :
    (s.perform move).session.observers = s.observers + [move].count .subscribe := by
  cases move with
  | submit text => exact (s.submission_submit text).observers_eq
  | process text => exact (s.submission_submit text).observers_eq
  | check text =>
    rw [perform, check]
    cases Guess.validate text <;> rfl
  | newGame =>
    rw [perform, newGame]
    cases s.options.selection.pick? s.corpus (s.draws s.drawn) <;> rfl
  | subscribe => rfl

/-! ### The calls of a run -/

/-- The calls to observers in a run, in order. -/
def callLog (s : Session) (moves : List Move) : List Call := (s.run moves).flatMap Effect.calls

theorem run_append (s : Session) (moves later : List Move) :
    s.run (moves ++ later) = s.run moves ++ (s.after moves).run later := by
  induction moves generalizing s with
  | nil => rfl
  | cons move moves ih => exact congrArg (s.perform move :: ·) (ih _)

theorem callLog_concat (s : Session) (moves : List Move) (move : Move) :
    s.callLog (moves ++ [move]) = s.callLog moves ++ ((s.after moves).perform move).calls := by
  rw [callLog, run_append, List.flatMap_append]
  exact congrArg (s.callLog moves ++ ·) (List.append_nil _)

theorem after_concat (s : Session) (moves : List Move) (move : Move) :
    s.after (moves ++ [move]) = ((s.after moves).perform move).session := after_append s moves _

/-- The observers of a session are those that it had and those that its moves subscribe. -/
theorem observers_after (s : Session) (moves : List Move) :
    (s.after moves).observers = s.observers + moves.count .subscribe := by
  induction moves using List.reverseRecOn with
  | nil => rfl
  | append_singleton moves move ih =>
    rw [after_concat, observers_perform, ih, List.count_append, Nat.add_assoc]

/-- The calls that are due to a move after earlier ones: if the move is announced, one for each
subscription so far, with the session that the move leaves. -/
def announcement (first : Session) (earlier : List Move) (move : Move) : List Call :=
  if move.isAnnounced ((first.after earlier).perform move).answer then
    (List.range (earlier.count .subscribe)).map fun k => ⟨k, first.after (earlier ++ [move])⟩
  else []

/-- In a run that starts without observers, the calls of a move are those that are due. -/
theorem calls_perform_after (hfirst : first.observers = 0) (earlier : List Move) (move : Move) :
    ((first.after earlier).perform move).calls = first.announcement earlier move := by
  rw [calls_perform, announcement]
  by_cases hannounced : move.isAnnounced ((first.after earlier).perform move).answer = true
  · have hmove : move ≠ .subscribe := by
      rintro rfl
      rw [isAnnounced_subscribe] at hannounced
      cases hannounced
    have hobservers : (first.after (earlier ++ [move])).observers = earlier.count .subscribe := by
      rw [observers_after, hfirst, Nat.zero_add, List.count_append, List.count_singleton,
        if_neg (by simpa using hmove), Nat.add_zero]
    rw [if_pos hannounced, if_pos hannounced, ← after_concat, notify, hobservers]
  · rw [if_neg hannounced, if_neg hannounced]

/-- The calls of a run are the announcements of its moves, in order. -/
theorem callLog_eq (hfirst : first.observers = 0) (moves : List Move) :
    first.callLog moves =
      moves.zipIdx.flatMap fun (move, i) => first.announcement (moves.take i) move := by
  induction moves using List.reverseRecOn with
  | nil => rfl
  | append_singleton moves move ih =>
    have hearlier : ∀ place ∈ moves.zipIdx,
        first.announcement ((moves ++ [move]).take place.2) place.1 =
          first.announcement (moves.take place.2) place.1 := by
      intro place hplace
      have hlt : place.2 < moves.length := List.snd_lt_of_mem_zipIdx hplace
      rw [List.take_append_of_le_length (Nat.le_of_lt hlt)]
    rw [callLog_concat, ih, calls_perform_after hfirst, List.zipIdx_append, List.flatMap_append,
      List.flatMap_congr hearlier]
    simp

/-! ### What an observer finds -/

/-- What an observer finds when it is called about a guess: the guess is in the history, its attempt
is used, and the status is final. -/
structure SeesGuess (before seen : Session) (guess : Equation) : Prop where
  history : seen.history = before.history ++ [(guess, feedback guess before.target)]
  remaining : seen.remaining + 1 = before.remaining
  target : seen.target = before.target
  status_won : seen.status = .won ↔ guess = before.target
  status_lost : seen.status = .lost ↔ guess ≠ before.target ∧ seen.remaining = 0

/-- What an observer finds when it is called about a new game. -/
structure SeesNewGame (seen : Session) : Prop where
  history : seen.history = []
  remaining : seen.remaining = 6
  status : seen.status = .active

/-- What an observer finds when it is called about a move. -/
def Sees (before : Session) : Move → Session → Prop
  | .submit text, seen | .process text, seen =>
    ∃ guess, Guess.validate text = .ok guess ∧ SeesGuess before seen guess
  | .newGame, seen => SeesNewGame seen
  | .check _, _ | .subscribe, _ => False

theorem seesGuess_play (hopen : s.isOver = false) (guess : Equation) :
    SeesGuess s (s.play guess) guess := by
  have hwon : (s.play guess).won = true ↔ guess = s.target := by
    rw [← feedback_eq_perfect_iff]
    exact beq_iff_eq
  have hremaining := (isOver_eq_false_iff.mp hopen).2
  exact
    { history := rfl
      remaining := Nat.sub_add_cancel (Nat.pos_of_ne_zero hremaining)
      target := rfl
      status_won := status_eq_won_iff.trans hwon
      status_lost := by rw [status_eq_lost_iff, ← Bool.not_eq_true, hwon] }

theorem Submission.exists_seesGuess {text : String} {effect : Effect (Except SessionError Row)}
    (h : s.Submission text effect) (hok : effect.answer.isOk = true) :
    ∃ guess, Guess.validate text = .ok guess ∧ SeesGuess s effect.session guess := by
  cases h with
  | refused | rejected => cases hok
  | accepted hopen hguess => exact ⟨_, hguess, seesGuess_play hopen _⟩

/-- A move that is announced leaves a session in which its outcome is seen. -/
theorem sees_perform (s : Session) {move : Move}
    (h : move.isAnnounced (s.perform move).answer = true) :
    Sees s move (s.perform move).session := by
  cases move with
  | submit text =>
    rw [perform, Effect.map, isAnnounced_submit] at h
    exact (s.submission_submit text).exists_seesGuess h
  | process text =>
    rw [perform, process, Effect.map, Effect.map, isAnnounced_process] at h
    exact (s.submission_submit text).exists_seesGuess h
  | check text => cases h
  | newGame =>
    rw [perform, newGame] at h ⊢
    cases hpick : s.options.selection.pick? s.corpus (s.draws s.drawn) with
    | none =>
      rw [hpick] at h
      cases h
    | some target => exact ⟨rfl, rfl, rfl⟩
  | subscribe => cases h

variable {corpus : List Equation} {options : GameOptions} {draws : Draws}

/-- **The log of calls.** In every run from the opening of a session, the observers are called about
the accepted guesses and the new games only. About each of them, those that are subscribed by then
are called once, in the order of subscription, with the session that the move leaves: the guess is
in its history and its attempt is used, or a new game is at its beginning. -/
theorem callLog_after_start (hstart : start corpus options draws = .ok first) :
    (∀ moves, first.callLog moves =
      moves.zipIdx.flatMap fun (move, i) => first.announcement (moves.take i) move) ∧
    ∀ earlier move, ∀ call ∈ first.announcement earlier move,
      call.seen = first.after (earlier ++ [move]) ∧ Sees (first.after earlier) move call.seen := by
  obtain ⟨target, -, rfl⟩ := exists_opened_of_start hstart
  refine ⟨callLog_eq rfl, fun earlier move call hcall => ?_⟩
  rw [announcement] at hcall
  split at hcall
  case isTrue hannounced =>
    obtain ⟨k, -, rfl⟩ := List.mem_map.mp hcall
    refine ⟨rfl, ?_⟩
    rw [after_concat]
    exact sees_perform _ hannounced
  case isFalse => cases hcall

/-- Two observers, the second of whom joins after a rejected text: both hear of the guess and of the
new game after it. -/
theorem callLog_two_observers :
    let target : Equation := ⟨[.digit 1, .operator .add, .digit 2, .operator .add, .digit 3,
      .equals, .digit 6], rfl⟩
    let first := opened [target] GameOptions.fixed id target
    let moves : List Move :=
      [.subscribe, .process "1+1=2", .subscribe, .submit "6-5+1=2", .check "2", .newGame]
    start [target] GameOptions.fixed id = .ok first ∧
      (first.callLog moves = moves.zipIdx.flatMap fun (move, i) =>
        first.announcement (moves.take i) move) ∧
      (first.callLog moves).map (fun call => (call.observer, call.seen.remaining)) =
        [(0, 5), (1, 5), (0, 6), (1, 6)] := by
  intro target first moves
  have hstart : start [target] GameOptions.fixed id = .ok first := rfl
  exact ⟨hstart, (callLog_after_start hstart).1 moves, rfl⟩

end Session

end HiddenEquation
