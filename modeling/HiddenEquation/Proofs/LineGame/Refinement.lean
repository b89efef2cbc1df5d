import HiddenEquation.Proofs.LineGame.PlainGame

/-!
# The line game follows the rules

The line game asks, judges a line before it plays it, is called back by its own session to show
hints, and comes to an end in many places. This file shows that it does what the rules say, line by
line: it waits with the session of the machine that states the rules, or has ended as the machine
has, and it tells the player the same about guesses and games.

The two go in step because a line that passes the check is played exactly once and is never refused
then, and a line that fails the check is remembered by the session just as it would be if it were
submitted. The hints come out right because the one observer is called once for each accepted guess;
it is called for another game too, but then there is no guess to show.

## Main definitions

* `LineGame.waitingAfter` : the line game that waits after some lines.
* `LineGame.Mirrors` : a line game waits with the session of the machine.
* `LineGame.Brings` : how a turn of the line game goes on, given the session of the machine.

## Main results

* `LineGame.brings_answer` : the line game answers one line as the machine does.
* `LineGame.rel_waitingAfter`, `LineGame.follow_of_waits` : so it does for many lines.
* `LineGame.brings_opening` : a run begins as the machine does.
-/

namespace HiddenEquation

/-- The notices about guesses and games. The others are the rules, prompts and what is rejected. -/
def Notice.isNews : Notice → Bool
  | .hints _ _ _ | .victory _ | .defeat _ | .restarted => true
  | .rules | .target _ | .attempts _ | .prompt _ | .rejected _ | .farewell => false

/-- There is nothing to tell about a text that is accepted. -/
theorem Guess.events_of_validate {text : String} {guess : Equation}
    (h : validate text = .ok guess) : events text = [] := by
  rw [validate] at h
  rw [events]
  cases hform : checkForm text with
  | error => rfl
  | ok =>
    rw [hform] at h
    cases hbalance : balance text with
    | error =>
      rw [hbalance] at h
      cases h
    | ok sides =>
      rw [hbalance] at h
      obtain ⟨left, right⟩ := sides
      by_cases hequal : left = right
      · exact if_pos hequal
      · simp [checkBalance, hequal, bind, Except.bind] at h

namespace LineGame

variable {corpus : List Equation} {s : Session} {game : LineGame} {turn : Turn}

/-! ### Turns of the line game -/

/-- The line game that waits after some lines, unless it has ended. -/
def waitingAfter (turn : Turn) : List String → Option LineGame
  | [] =>
    match turn.progress with
    | .waiting game => some game
    | .ended _ => none
  | line :: rest =>
    match turn.progress with
    | .waiting game => waitingAfter (game.answer line) rest
    | .ended _ => none

/-- The line game waits with a session of the machine. -/
structure Mirrors (s : Session) (game : LineGame) : Prop where
  /-- Its session is that of the machine, with one more observer. -/
  session_eq : game.session = s.subscribe.session
  /-- It asks for a guess as long as the game goes on. -/
  asking_iff : game.asking = .replay ↔ s.isOver = true
  /-- A line that passes the check is not refused when it is played. -/
  processed : s.isOver = false → ∀ line, (game.session.check line).answer = true →
    ((game.session.check line).session.process line).answer = .ok ()
  /-- A line that is no guess costs no attempt. -/
  free : ∀ line reason, Guess.validate line = .error reason →
    (s.submit line).session.remaining = s.remaining

/-- The line game waits with a session of the machine, and its own number among the observers is the
first one. -/
structure Waits (corpus : List Equation) (s : Session) (game : LineGame) : Prop where
  proper : PlainGame.Proper corpus s
  session_eq : game.session = s.subscribe.session
  asking_iff : game.asking = .replay ↔ s.isOver = true
  observer_eq : game.observer = 0

/-- How a turn goes on, given the session of the machine. -/
inductive Brings (corpus : List Equation) (turn : Turn) : Option Session → Prop
  | waits {s : Session} {game : LineGame} (hprogress : turn.progress = .waiting game)
      (h : Waits corpus s game) : Brings corpus turn (some s)
  | leaves (hprogress : turn.progress = .ended .left) : Brings corpus turn none

/-- The notices of a turn about guesses and games. -/
def newsOf (turn : Turn) : List Notice := turn.notices.filter Notice.isNews

theorem newsOf_preceded (notices : List Notice) (journal : List Event) (turn : Turn) :
    newsOf (preceded notices journal turn) = notices.filter Notice.isNews ++ newsOf turn :=
  List.filter_append _ _

theorem Brings.preceded {next : Option Session} (h : Brings corpus turn next)
    (notices : List Notice) (journal : List Event) :
    Brings corpus (preceded notices journal turn) next := by
  cases h with
  | waits hprogress h => exact .waits hprogress h
  | leaves hprogress => exact .leaves hprogress

theorem brings_leave : Brings corpus leave none := .leaves rfl

theorem newsOf_ask (session : Session) (observer : Nat) (asking : Asking) :
    newsOf (ask session observer asking) = [] := rfl

/-- What a player is told at the end of a game: a game that is won used as many attempts as it has
guesses. -/
theorem result_eq (h : PlainGame.Proper corpus s) (hover : s.isOver = true) :
    [result s.subscribe.session] = PlainGame.outcome s := by
  have hbudget := h.sound.budget
  have hguesses : maxAttempts - s.remaining = s.history.length := by omega
  rw [PlainGame.outcome]
  cases hstatus : s.status with
  | won =>
    have hwon : s.subscribe.session.won = true := Session.status_eq_won_iff.mp hstatus
    rw [result, if_pos hwon, ← hguesses]
    rfl
  | lost =>
    have hlost : ¬ s.subscribe.session.won = true :=
      Bool.eq_false_iff.mp (Session.status_eq_lost_iff.mp hstatus).1
    rw [result, if_neg hlost]
    rfl
  | active => exact absurd hstatus (Session.isOver_iff_status.mp hover)

/-- After a guess and at the beginning of a game, the line game tells how the game ended, if it has,
and then waits. -/
theorem brings_nextTurn (h : PlainGame.Proper corpus s) :
    Brings corpus (nextTurn s.subscribe.session 0) (some s) ∧
      newsOf (nextTurn s.subscribe.session 0) = PlainGame.outcome s := by
  have hsame : s.subscribe.session.isOver = s.isOver := rfl
  rw [nextTurn, hsame]
  by_cases hover : s.isOver = true
  · rw [if_pos hover, newsOf_preceded, newsOf_ask, result_eq h hover, List.append_nil]
    refine ⟨.waits rfl ⟨h, rfl, iff_of_true rfl hover, rfl⟩, ?_⟩
    rw [List.filter_eq_self]
    intro notice hnotice
    rw [PlainGame.outcome] at hnotice
    split at hnotice <;> simp_all [Notice.isNews]
  · rw [if_neg hover, newsOf_preceded, newsOf_ask]
    refine ⟨.waits rfl ⟨h, rfl, iff_of_false (by simp) hover, rfl⟩, ?_⟩
    rw [PlainGame.outcome, Session.isOver_eq_false_iff_status.mp (Bool.eq_false_iff.mpr hover)]
    rfl

theorem brings_firstTurn (h : PlainGame.Proper corpus s) :
    Brings corpus (firstTurn s.subscribe.session 0) (some s) ∧
      newsOf (firstTurn s.subscribe.session 0) = PlainGame.outcome s := by
  obtain ⟨hbrings, hnews⟩ := brings_nextTurn h
  refine ⟨hbrings.preceded _ _, ?_⟩
  rw [firstTurn, newsOf_preceded, hnews]
  split <;> rfl

/-! ### Hints -/

/-- The one observer shows the last guess of the session that it is called with. -/
theorem hintsFor_notify_play (h : PlainGame.Proper corpus s) {line : String} {guess : Equation}
    (hguess : Guess.validate line = .ok guess) :
    hintsFor 0 (s.subscribe.session.play guess).notify =
      [.hints guess (feedback guess s.target)
        (unusedIn (s.history ++ [(guess, feedback guess s.target)]))] := by
  have hobservers : (s.subscribe.session.play guess).observers = 1 :=
    congrArg (· + 1) h.observers_eq
  have hunused : (s.subscribe.session.play guess).unused =
      unusedIn (s.history ++ [(guess, feedback guess s.target)]) :=
    (h.upToDate.played hguess).unused
  have hlast : (s.subscribe.session.play guess).history.getLast? =
      some (guess, feedback guess s.target) := List.getLast?_concat
  simp [hintsFor, Session.notify, hobservers, hunused, hlast]

/-- A new game has no guess to show. -/
theorem hintsFor_notify_restarted (s : Session) (target : Equation) (observer : Nat) :
    hintsFor observer (s.restarted target).notify = [] := by
  simp [hintsFor, Session.notify, Session.restarted]

/-! ### One line -/

theorem isQuit_iff {line : String} :
    isQuit line = true ↔ line = "quit" ∨ line = "q" ∨ line = "exit" := by
  simp [isQuit]

theorem acceptsReplay_iff {line : String} :
    acceptsReplay line = true ↔ line.toLower = "y" ∨ line.toLower = "yes" := by
  simp [acceptsReplay]

/-- After the end of a game, a line starts another one or leaves. -/
theorem brings_answerReplay (h : Waits corpus s game) (hover : s.isOver = true) (line : String) :
    Brings corpus (game.answerReplay line) (PlainGame.step s line).1 ∧
      newsOf (game.answerReplay line) = (PlainGame.step s line).2 := by
  rw [answerReplay, PlainGame.step, if_pos hover]
  by_cases haccepts : acceptsReplay line = true
  · obtain ⟨target, htarget, hpick⟩ := h.proper.sound.exists_pick?
    have hnext := h.proper.restarted htarget
    have hstarted := Session.newGame_of_pick (s := s.subscribe.session) hpick
    obtain ⟨hbrings, hnews⟩ := brings_firstTurn hnext
    rw [if_pos haccepts, if_pos (acceptsReplay_iff.mp haccepts), Session.newGame_of_pick hpick,
      h.session_eq, h.observer_eq, hstarted]
    simp only [hintsFor_notify_restarted]
    refine ⟨hbrings.preceded _ _, ?_⟩
    rw [newsOf_preceded]
    exact congrArg _ hnews
  · rw [if_neg haccepts, if_neg (mt acceptsReplay_iff.mpr haccepts)]
    exact ⟨brings_leave, rfl⟩

/-- A line that is no guess is remembered, and another one is asked for. -/
theorem answerGuess_of_error {line : String} (hstays : ¬ isQuit line = true) {reason : Rejection}
    (hreason : Guess.validate line = .error reason) :
    game.answerGuess line =
      preceded (if game.session.options.showErrors then [.rejected reason] else [])
        (Guess.events line)
        (ask { game.session with lastError := some reason } game.observer .guessAgain) := by
  rw [answerGuess, if_neg hstays, Session.check, hreason]
  rfl

/-- A line that is a guess is played, and it is not refused. It is judged twice before that, which
leaves no trace in the journal. -/
theorem answerGuess_of_ok {line : String} (hstays : ¬ isQuit line = true)
    (hopen : game.session.isOver = false) {guess : Equation}
    (hguess : Guess.validate line = .ok guess) :
    game.answerGuess line =
      preceded (hintsFor game.observer (game.session.play guess).notify)
        (.guessPlayed guess (feedback guess game.session.target) (game.session.remaining - 1) ::
          (game.session.play guess).outcome)
        (nextTurn (game.session.play guess) game.observer) := by
  have hsilent := Guess.events_of_validate hguess
  rw [answerGuess, if_neg hstays, Session.check, hguess]
  simp only [Session.process, Session.submit, hopen, hguess, hsilent]
  rfl

/-- As long as the game goes on, a line leaves or is submitted, in effect. -/
theorem brings_answerGuess (h : Waits corpus s game) (hopen : s.isOver = false) (line : String) :
    Brings corpus (game.answerGuess line) (PlainGame.step s line).1 ∧
      newsOf (game.answerGuess line) = (PlainGame.step s line).2 := by
  rw [PlainGame.step, if_neg (Bool.eq_false_iff.mp hopen)]
  by_cases hquit : isQuit line = true
  · rw [answerGuess, if_pos hquit, if_pos (isQuit_iff.mp hquit)]
    exact ⟨brings_leave, rfl⟩
  · rw [if_neg (mt isQuit_iff.mpr hquit), PlainGame.hints]
    have hopen' : game.session.isOver = false := h.session_eq ▸ hopen
    cases hguess : Guess.validate line with
    | error reason =>
      have hsubmit : (s.submit line).session = { s with lastError := some reason } := by
        rw [Session.submit, if_neg (Bool.eq_false_iff.mp hopen), hguess]
      rw [answerGuess_of_error hquit hguess, hsubmit, h.session_eq, h.observer_eq, newsOf_preceded,
        newsOf_ask]
      refine ⟨.waits rfl ⟨h.proper.rejected reason, rfl, iff_of_false (by simp) ?_, rfl⟩, ?_⟩
      · exact Bool.eq_false_iff.mp hopen
      · split <;> rfl
    | ok guess =>
      -- The check leaves the session as it is, so the guess is played on the machine's session.
      have hnext := h.proper.played hopen hguess
      obtain ⟨hbrings, hnews⟩ := brings_nextTurn hnext
      rw [answerGuess_of_ok hquit hopen' hguess, (Session.submit_accepted hopen hguess).2,
        h.session_eq, h.observer_eq, newsOf_preceded, hintsFor_notify_play h.proper hguess]
      exact ⟨hbrings.preceded _ _, congrArg _ hnews⟩

/-- The line game asks for guesses only as long as the game goes on. -/
theorem Waits.isOver_eq_false (h : Waits corpus s game) (hasking : game.asking ≠ .replay) :
    s.isOver = false :=
  Bool.eq_false_iff.mpr (mt h.asking_iff.mpr hasking)

/-- The line game answers a line as the machine does. -/
theorem brings_answer (h : Waits corpus s game) (line : String) :
    Brings corpus (game.answer line) (PlainGame.step s line).1 ∧
      newsOf (game.answer line) = (PlainGame.step s line).2 := by
  rw [answer]
  cases hasking : game.asking with
  | guess | guessAgain => exact brings_answerGuess h (h.isOver_eq_false (by simp [hasking])) line
  | replay => exact brings_answerReplay h (h.asking_iff.mp hasking) line

/-! ### Many lines -/

/-- A line game that waits with a session of the machine does all that is promised of it. -/
theorem Waits.mirrors (h : Waits corpus s game) : Mirrors s game where
  session_eq := h.session_eq
  asking_iff := h.asking_iff
  processed hopen line haccepted := by
    rw [h.session_eq] at haccepted ⊢
    have hopen' : s.subscribe.session.isOver = false := hopen
    rw [Session.check] at haccepted ⊢
    cases hguess : Guess.validate line with
    | error reason => simp [hguess] at haccepted
    | ok guess => simp [Session.process, Session.submit, Effect.map, Except.map, hopen', hguess]
  free line reason hreason := by
    have hsubmission := s.submission_submit line
    generalize s.submit line = effect at hsubmission
    cases hsubmission with
    | refused | rejected => rfl
    | accepted hopen hguess => simp [hguess] at hreason

/-- After any lines, the line game and the machine both wait, with the same session, or neither
does. -/
theorem rel_waitingAfter {next : Option Session} (h : Brings corpus turn next)
    (lines : List String) :
    Option.Rel Mirrors (next.bind fun s => PlainGame.after s lines) (waitingAfter turn lines) := by
  induction lines generalizing turn next with
  | nil =>
    cases h with
    | leaves hprogress =>
      rw [waitingAfter, hprogress]
      exact .none
    | waits hprogress h =>
      rw [waitingAfter, hprogress]
      exact .some h.mirrors
  | cons line rest ih =>
    cases h with
    | leaves hprogress =>
      rw [waitingAfter, hprogress]
      exact .none
    | waits hprogress h =>
      rw [waitingAfter, hprogress]
      exact ih (brings_answer h line).1

/-- A turn with which the line game ended is the last one. -/
theorem follow_of_ended {ending : Ending} (hprogress : turn.progress = .ended ending)
    (input : List InputLine) : follow turn input = lastTurn turn ending := by
  cases input <;> simp only [follow, hprogress]

/-- Once the line game waits, the rest of its run is that of the machine. -/
theorem follow_of_waits {s : Session} {game : LineGame} (hprogress : turn.progress = .waiting game)
    (h : Waits corpus s game) (lines : List String) :
    (follow turn (lines.map .text)).ending = PlainGame.ending s lines ∧
      (follow turn (lines.map .text)).notices.filter Notice.isNews =
        newsOf turn ++ PlainGame.news s lines := by
  induction lines generalizing turn s game with
  | nil =>
    simp only [List.map_nil, follow, hprogress]
    exact ⟨rfl, (List.append_nil _).symm⟩
  | cons line rest ih =>
    obtain ⟨hbrings, hnews⟩ := brings_answer h line
    simp only [List.map_cons, follow, hprogress]
    rw [List.filter_append, PlainGame.news, PlainGame.ending, PlainGame.after, ← hnews]
    generalize (PlainGame.step s line).1 = next at hbrings
    cases hbrings with
    | leaves hleft =>
      rw [follow_of_ended hleft]
      exact ⟨rfl, congrArg _ (List.append_nil _).symm⟩
    | waits hwaiting hnext =>
      obtain ⟨hending, htold⟩ := ih hwaiting hnext
      rw [htold]
      exact ⟨hending, rfl⟩

/-- The first turn waits for a guess and has no news. -/
theorem brings_opening {options : GameOptions} {draws : Draws} {session : Session}
    (hstart : Session.start corpus options draws = .ok session) :
    Brings corpus (opening session) (some session) ∧ newsOf (opening session) = [] := by
  obtain ⟨target, htarget, rfl⟩ := Session.exists_opened_of_start hstart
  obtain ⟨hbrings, hnews⟩ := brings_firstTurn (PlainGame.Proper.opened options draws htarget)
  refine ⟨hbrings.preceded _ _, ?_⟩
  rw [opening, newsOf_preceded]
  exact congrArg _ hnews

end LineGame

end HiddenEquation
