import HiddenEquation.LineGame.Notice
import HiddenEquation.Text.Blank
import HiddenEquation.Text.Lines

/-!
# The line game

The line game plays a session over lines of text. It asks for a guess until the game is over, then
asks whether to play again. It subscribes to the session and shows hints whenever it is called with
a guess in the history.

Every answer gives one turn: notices, journal entries, and either the game that waits for the next
line or the way in which it ended. A whole run is a recursion over the input lines.

## Main definitions

* `LineGame` : a session, and what the game waits for.
* `LineGame.opening` : the first turn.
* `LineGame.answer` : the turn that a line of text gives.
* `LineGame.play` : the transcript of a run.
-/

namespace HiddenEquation

/-- A line of input: a text, or bytes that are no text. -/
inductive InputLine where
  | text (line : String)
  | garbled
  deriving DecidableEq, Repr

/-- The lines of some input, each without the blanks around it. -/
def InputLine.ofBytes (input : ByteArray) : List InputLine :=
  (Text.splitAfter (· == 10) input.toList).map fun line =>
    match String.fromUTF8? ⟨line.toArray⟩ with
    | some content => .text (Text.trim content)
    | none => .garbled

/-- How a line game ends. -/
inductive Ending where
  /-- The player left. -/
  | left
  /-- Something failed, for this reason. -/
  | failed (reason : String)
  deriving DecidableEq, Repr

/-- A line game that waits for a line. -/
structure LineGame where
  session : Session
  asking : Asking
  /-- The game's own number among the observers of the session. -/
  observer : Nat

/-- What follows a turn. -/
inductive Progress where
  | waiting (game : LineGame)
  | ended (ending : Ending)

/-- What one line brings about. -/
structure Turn where
  notices : List Notice
  journal : List Event := []
  progress : Progress

/-- What a whole run brings about. -/
structure Transcript where
  notices : List Notice
  journal : List Event
  ending : Ending

namespace LineGame

/-- Put notices and journal entries in front of a turn. -/
def preceded (notices : List Notice) (journal : List Event) (turn : Turn) : Turn :=
  { turn with notices := notices ++ turn.notices, journal := journal ++ turn.journal }

/-- Wait for a line. -/
def ask (session : Session) (observer : Nat) (asking : Asking) : Turn :=
  { notices := [.prompt asking], progress := .waiting ⟨session, asking, observer⟩ }

/-- The notice of how a game ended. -/
def result (session : Session) : Notice :=
  if session.won then .victory (maxAttempts - session.remaining) else .defeat session.target

/-- Ask for the next guess, or tell how the game ended and ask for another one. -/
def nextTurn (session : Session) (observer : Nat) : Turn :=
  if session.isOver then preceded [result session] [] (ask session observer .replay)
  else preceded [.attempts session.remaining] [] (ask session observer .guess)

/-- The first turn of a game. -/
def firstTurn (session : Session) (observer : Nat) : Turn :=
  preceded (if session.options.showTarget then [.target session.target] else []) []
    (nextTurn session observer)

/-- The first turn of a run. -/
def opening (session : Session) : Turn :=
  preceded [.rules] [] (firstTurn session.subscribe.session session.observers)

/-- What the game shows when the session calls it: hints on the last guess, if there is one. -/
def hintsFor (observer : Nat) (calls : List Call) : List Notice :=
  calls.filterMap fun call =>
    if call.observer = observer then
      call.seen.history.getLast?.map fun (guess, row) => .hints guess row call.seen.unused
    else none

/-- Leave the game. -/
def leave : Turn := { notices := [.farewell], progress := .ended .left }

/-- The lines that leave the game when a guess is asked for. -/
def isQuit (line : String) : Bool := ["quit", "q", "exit"].contains line

/-- The lines that accept another game, in any mix of capitals. -/
def acceptsReplay (line : String) : Bool := ["y", "yes"].contains line.toLower

/-- Judge a line as a guess, and play it if it is one. -/
def answerGuess (game : LineGame) (line : String) : Turn :=
  if isQuit line then leave
  else
    let checked := game.session.check line
    if checked.answer then
      let played := checked.session.process line
      let journal := checked.journal ++ played.journal
      let shown := hintsFor game.observer played.calls
      match played.answer with
      | .ok () | .error .gameOver =>
        preceded shown journal (nextTurn played.session game.observer)
      | .error reason =>
        { notices := shown, journal, progress := .ended (.failed reason.message) }
    else
      let shown :=
        if checked.session.options.showErrors then
          (checked.session.lastError.map Notice.rejected).toList
        else []
      preceded shown checked.journal (ask checked.session game.observer .guessAgain)

/-- Start another game, or leave. -/
def answerReplay (game : LineGame) (line : String) : Turn :=
  if acceptsReplay line then
    let started := game.session.newGame
    let shown := hintsFor game.observer started.calls
    match started.answer with
    | .ok () =>
      preceded (shown ++ [.restarted]) started.journal (firstTurn started.session game.observer)
    | .error reason =>
      { notices := shown, journal := started.journal, progress := .ended (.failed reason.message) }
  else leave

/-- The turn that a line brings about. -/
def answer (game : LineGame) (line : String) : Turn :=
  match game.asking with
  | .guess | .guessAgain => game.answerGuess line
  | .replay => game.answerReplay line

/-- The reason of failure when the input has no further line. -/
def inputClosed : String := "input closed"

/-- The transcript of a turn after which nothing else happens. -/
def lastTurn (turn : Turn) (ending : Ending) : Transcript :=
  { notices := turn.notices, journal := turn.journal, ending }

/-- Follow a turn with the remaining input. -/
def follow (turn : Turn) : List InputLine → Transcript
  | [] =>
    match turn.progress with
    | .ended ending => lastTurn turn ending
    | .waiting _ => lastTurn turn (.failed inputClosed)
  | line :: rest =>
    match turn.progress, line with
    | .ended ending, _ => lastTurn turn ending
    | .waiting _, .garbled => lastTurn turn (.failed FileError.notUtf8.message)
    | .waiting game, .text content =>
      let later := follow (game.answer content) rest
      { later with
        notices := turn.notices ++ later.notices
        journal := turn.journal ++ later.journal }

/-- The transcript of a run on some input. -/
def play (session : Session) (input : List InputLine) : Transcript := follow (opening session) input

end LineGame

end HiddenEquation
