import HiddenEquation.Journal.Event
import HiddenEquation.Keyboard

/-!
# Sessions

A session holds a corpus and plays one game after another. A game has a target and six attempts; a
guess uses one attempt, a rejected text uses none. The session keeps the history of the current
game, the colours of the keyboard, the symbols not guessed yet and the last rejection, and it calls
its observers after each accepted guess and each new game.

## Main definitions

* `Session` : the state of a session.
* `Status` : whether the current game goes on, is won or is lost.
* `Effect` : what an operation does: the session it leaves, its answer, the calls to observers and
  the journal entries.
* `Session.start` : opening a session.
* `Session.submit`, `Session.process`, `Session.check`, `Session.newGame`, `Session.subscribe` :
  the operations.
-/

namespace HiddenEquation

/-- The number of accepted guesses that a game allows. -/
def maxAttempts : Nat := 6

/-- Whether a game goes on. -/
inductive Status where
  | active
  | won
  | lost
  deriving DecidableEq, Repr

/-- Why an operation on a session fails. -/
inductive SessionError where
  /-- The text is not a guess. -/
  | invalid (reason : Rejection)
  /-- The current game has ended. -/
  | gameOver
  /-- The corpus is empty. -/
  | noEquations
  deriving DecidableEq, Repr

/-- The wording of a session error. -/
def SessionError.message : SessionError → String
  | invalid reason => reason.message
  | gameOver => "the game is over; start a new game"
  | noEquations => "no equations available"

/-- The state of a session. -/
structure Session where
  corpus : List Equation
  options : GameOptions
  /-- The numbers for random selection. -/
  draws : Draws
  /-- The number of targets taken so far. -/
  drawn : Nat
  target : Equation
  /-- The attempts left in the current game. -/
  remaining : Nat
  /-- Whether the last guess of the current game found the target. -/
  won : Bool
  /-- The symbols that no guess of the current game holds, in keyboard order. -/
  unused : List Symbol
  keyboard : Keyboard
  /-- The guesses of the current game with their rows, oldest first. -/
  history : List (Equation × Row)
  /-- The last rejection since the current game started. -/
  lastError : Option Rejection
  /-- The number of observers. -/
  observers : Nat

/-- A call to an observer, with the session as the observer sees it. -/
structure Call where
  observer : Nat
  seen : Session

/-- What an operation on a session does. -/
structure Effect (α : Type) where
  session : Session
  answer : α
  calls : List Call := []
  journal : List Event := []

/-- The same effect with another answer. -/
def Effect.map {α β : Type} (f : α → β) (e : Effect α) : Effect β :=
  { session := e.session, answer := f e.answer, calls := e.calls, journal := e.journal }

namespace Session

/-- Whether the current game goes on, is won or is lost. -/
def status (s : Session) : Status :=
  if s.won then .won else if s.remaining = 0 then .lost else .active

/-- Whether the current game has ended. -/
def isOver (s : Session) : Bool := s.won || s.remaining == 0

/-- The row of the last guess of the current game. -/
def lastRow? (s : Session) : Option Row := s.history.getLast?.map Prod.snd

/-- Call every observer, in the order of subscription. -/
def notify (s : Session) : List Call := (List.range s.observers).map fun k => ⟨k, s⟩

/-- Open a session on its first game. An empty corpus has no target. -/
def start (corpus : List Equation) (options : GameOptions) (draws : Draws) :
    Except SessionError Session :=
  match options.selection.pick? corpus (draws 0) with
  | none => .error .noEquations
  | some target => .ok
    { corpus, options, draws, target
      drawn := 1
      remaining := maxAttempts
      won := false
      unused := Symbol.all
      keyboard := Keyboard.empty
      history := []
      lastError := none
      observers := 0 }

/-- The journal entry for the opening of a session. -/
def opening (s : Session) : Event := .sessionOpened s.corpus.length s.options.selection

/-- Add an observer. -/
def subscribe (s : Session) : Effect Unit :=
  { session := { s with observers := s.observers + 1 }, answer := () }

/-- Start another game, whatever the state of the current one. -/
def newGame (s : Session) : Effect (Except SessionError Unit) :=
  match s.options.selection.pick? s.corpus (s.draws s.drawn) with
  | none => { session := s, answer := .error .noEquations }
  | some target =>
    let next : Session :=
      { s with
        drawn := s.drawn + 1
        target := target
        remaining := maxAttempts
        won := false
        unused := Symbol.all
        keyboard := Keyboard.empty
        history := []
        lastError := none }
    { session := next, answer := .ok (), calls := next.notify, journal := [.gameStarted] }

/-- Judge a text without playing it. A rejection is remembered, also after the end of a game. -/
def check (s : Session) (text : String) : Effect Bool :=
  match Guess.validate text with
  | .ok _ => { session := s, answer := true, journal := Guess.events text }
  | .error reason =>
    { session := { s with lastError := some reason }, answer := false
      journal := Guess.events text }

/-- The session after an accepted guess. -/
def play (s : Session) (guess : Equation) : Session :=
  let row := feedback guess s.target
  { s with
    keyboard := s.keyboard.record guess row
    unused := s.unused.filter fun symbol => !guess.contains symbol
    remaining := s.remaining - 1
    won := row.isPerfect
    history := s.history ++ [(guess, row)] }

/-- What the journal tells about the end of a game, given the session after a guess. -/
def outcome (s : Session) : List Event :=
  match s.status with
  | .won => [.gameWon s.history.length]
  | .lost => [.gameLost s.target]
  | .active => []

/-- Play a text as a guess. When the game is over nothing is judged; a rejection is remembered and
uses no attempt. -/
def submit (s : Session) (text : String) : Effect (Except SessionError Row) :=
  if s.isOver then { session := s, answer := .error .gameOver }
  else
    match Guess.validate text with
    | .error reason =>
      { session := { s with lastError := some reason }
        answer := .error (.invalid reason)
        journal := Guess.events text ++ [.guessRejected text reason] }
    | .ok guess =>
      let next := s.play guess
      let row := feedback guess s.target
      { session := next
        answer := .ok row
        calls := next.notify
        journal := Guess.events text ++ .guessPlayed guess row next.remaining :: next.outcome }

/-- Play a text as a guess, without asking for its row. -/
def process (s : Session) (text : String) : Effect (Except SessionError Unit) :=
  (s.submit text).map fun answer => answer.map fun _ => ()

end Session

end HiddenEquation
