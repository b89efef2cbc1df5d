import HiddenEquation.Decimal.Fixed
import HiddenEquation.Game.Session

/-!
# The screen game

The screen game plays a session on a full screen. The player types symbols into a buffer and submits
it. The game tells the player what happened in a short list of messages and keeps statistics over
all games of the session.

## Main definitions

* `Message`, `Statistics`, `Mode` : what the screen game keeps beside its session.
* `ScreenGame` : the state of the screen game.
* `ScreenGame.start` : the state at the beginning.
* `ScreenGame.type`, `ScreenGame.erase`, `ScreenGame.submit`, `ScreenGame.newGame`,
  `ScreenGame.post` : the operations.
* `ScreenGame.Action`, `ScreenGame.perform` : the operations as data.
-/

namespace HiddenEquation

/-- What kind of news a message brings. -/
inductive Tone where
  | info
  | success
  | error
  deriving DecidableEq, Repr

/-- A line of news for the player. -/
structure Message where
  tone : Tone
  text : String
  deriving DecidableEq, Repr

/-- Counts over all games. -/
structure Statistics where
  /-- The games that ended or were abandoned after a guess. -/
  totalGames : Nat := 0
  gamesWon : Nat := 0
  /-- At each place, the number of games won with so many guesses. -/
  distribution : List Nat := List.replicate (maxAttempts + 1) 0
  deriving DecidableEq, Repr

namespace Statistics

/-- The share of games that were won, in percent. -/
def winRate (s : Statistics) : Float := Decimal.percent s.gamesWon s.totalGames

/-- One more game that was not won. -/
def countLoss (s : Statistics) : Statistics := { s with totalGames := s.totalGames + 1 }

/-- One more game that was won, with so many guesses. -/
def countWin (s : Statistics) (guesses : Nat) : Statistics :=
  { totalGames := s.totalGames + 1
    gamesWon := s.gamesWon + 1
    distribution := s.distribution.modify guesses (· + 1) }

end Statistics

/-- What the keys of the player mean. -/
inductive Mode where
  | guessing
  | gameOver
  deriving DecidableEq, Repr

/-- The state of the screen game. -/
structure ScreenGame where
  session : Session
  /-- The symbols typed so far. -/
  buffer : List Symbol := []
  /-- The latest messages, oldest first. -/
  messages : List Message := []
  statistics : Statistics := {}
  mode : Mode := .guessing
  /-- Whether the player has asked to leave. -/
  leaving : Bool := false
  /-- The journal entries so far, oldest first. -/
  journal : List Event := []

namespace ScreenGame

/-- The number of messages that are kept. -/
def maxMessages : Nat := 5

/-- The text of the buffer. -/
def bufferText (g : ScreenGame) : String := String.ofList (g.buffer.map Symbol.toChar)

/-- Post a message. When there are too many, the oldest one goes. -/
def post (g : ScreenGame) (tone : Tone) (text : String) : ScreenGame :=
  let messages := g.messages ++ [Message.mk tone text]
  { g with messages := if messages.length > maxMessages then messages.drop 1 else messages }

/-- Tell the target to a player who asked to see it. -/
def announceTarget (g : ScreenGame) : ScreenGame :=
  if g.session.options.showTarget then g.post .info ("Target equation: " ++ g.session.target.text)
  else g

/-- The screen game at the beginning. -/
def start (session : Session) : ScreenGame :=
  let g : ScreenGame := { session := session }
  (g.post .info "Welcome! Guess the hidden equation in six tries.").announceTarget

/-- Type a character. Only symbols are taken, and only while the buffer has room. -/
def type (g : ScreenGame) (c : Char) : ScreenGame :=
  match Symbol.ofChar? c with
  | some s => if g.buffer.length < equationLength then { g with buffer := g.buffer ++ [s] } else g
  | none => g

/-- Type the characters of a text one after another. -/
def typeText (g : ScreenGame) (text : String) : ScreenGame := text.toList.foldl type g

/-- Take the last symbol back. -/
def erase (g : ScreenGame) : ScreenGame := { g with buffer := g.buffer.dropLast }

/-- Praise for a game won with so many guesses. -/
def celebration : Nat → String
  | 1 => "🎯 HOLE IN ONE! Extraordinary! 🌟"
  | 2 => "🔥 MAGNIFICENT! Two guesses! 🔥"
  | 3 => "✨ SPLENDID! Three guesses! ✨"
  | 4 => "👏 GREAT JOB! Four guesses! 👏"
  | 5 => "🎉 NICE WORK! Five guesses! 🎉"
  | _ => "😅 PHEW! Got it in six! 😅"

/-- What to do after the end of a game. -/
def whatNext (g : ScreenGame) : ScreenGame :=
  g.post .info "Press 'n' for new game or 'q' to quit."

/-- A game was won. -/
def finishWon (g : ScreenGame) : ScreenGame :=
  let guesses := g.session.history.length
  let counted :=
    { g with statistics := g.statistics.countWin guesses, mode := .gameOver }
  (counted.post .success (celebration guesses)).whatNext

/-- A game was lost. -/
def finishLost (g : ScreenGame) : ScreenGame :=
  let counted := { g with statistics := g.statistics.countLoss, mode := .gameOver }
  (counted.post .error ("You lost. The answer was " ++ g.session.target.text)).whatNext

/-- The message about a rejected guess. The reason is given if the player wants it. -/
def rejectionText (options : GameOptions) (reason : Rejection) : String :=
  if options.showErrors then "Invalid guess: " ++ reason.message else "Invalid guess"

/-- Submit the buffer. It is emptied if the guess is accepted. -/
def submit (g : ScreenGame) : ScreenGame :=
  let effect := g.session.submit g.bufferText
  let g := { g with session := effect.session, journal := g.journal ++ effect.journal }
  match effect.answer with
  | .ok _ =>
    let g := { g with buffer := [] }
    match g.session.status with
    | .won => g.finishWon
    | .lost => g.finishLost
    | .active => g.post .info (toString g.session.remaining ++ " attempts remaining")
  | .error (.invalid reason) => g.post .error (rejectionText g.session.options reason)
  | .error reason => g.post .error reason.message

/-- Start another game. A game that is abandoned after a guess counts as lost. -/
def newGame (g : ScreenGame) : ScreenGame :=
  let g :=
    if !g.session.isOver && !g.session.history.isEmpty then
      { g with statistics := g.statistics.countLoss }
    else g
  let effect := g.session.newGame
  let g := { g with session := effect.session, journal := g.journal ++ effect.journal }
  match effect.answer with
  | .ok () =>
    let cleared := { g with buffer := [], messages := [], mode := .guessing }
    (cleared.post .info "New game started!").announceTarget
  | .error reason => g.post .error reason.message

/-- An operation of the screen game. -/
inductive Action where
  | type (text : String)
  | erase
  | submit
  /-- Type a text in place of the buffer and submit it. -/
  | guess (text : String)
  | newGame
  | post (tone : Tone) (text : String)
  deriving DecidableEq, Repr

/-- Carry out an operation. -/
def perform (g : ScreenGame) : Action → ScreenGame
  | .type text => g.typeText text
  | .erase => g.erase
  | .submit => g.submit
  | .guess text => (({ g with buffer := [] } : ScreenGame).typeText text).submit
  | .newGame => g.newGame
  | .post tone text => g.post tone text

end ScreenGame

end HiddenEquation
