import HiddenEquation.Game.Session
import HiddenEquation.Print.Report

/-!
# Notices of the line game

The line game talks to the player in notices. A notice is data first; its text is made from it.

## Main definitions

* `Asking` : what the line game waits for.
* `Notice` : something the line game tells the player.
* `Notice.pieces` : the printed form of a notice.
-/

namespace HiddenEquation

open Piece (plain painted)

/-- What the line game waits for. -/
inductive Asking where
  /-- A guess. -/
  | guess
  /-- A guess in place of a rejected one. -/
  | guessAgain
  /-- Whether to play another game. -/
  | replay
  deriving DecidableEq, Repr

/-- The prompt for what the line game waits for. -/
def Asking.prompt : Asking → String
  | guess => "Please enter your guess: "
  | guessAgain => "Enter your guess again: "
  | replay => "Do you want to play again? (Y/N): "

/-- Something the line game tells the player. -/
inductive Notice where
  /-- The rules of the game. -/
  | rules
  /-- The target, for a player who asked to see it. -/
  | target (target : Equation)
  /-- The attempts left before a guess. -/
  | attempts (remaining : Nat)
  /-- A prompt without a line end. -/
  | prompt (asking : Asking)
  /-- Why a text is not a guess. -/
  | rejected (reason : Rejection)
  /-- The colours of a guess, and the symbols not guessed yet. -/
  | hints (guess : Equation) (row : Row) (unused : List Symbol)
  /-- The game was won with so many guesses. -/
  | victory (used : Nat)
  /-- The game was lost. -/
  | defeat (target : Equation)
  /-- Another game begins. -/
  | restarted
  /-- The player leaves. -/
  | farewell
  deriving DecidableEq, Repr

namespace Notice

/-- The lines in front of the first game. -/
def ruleLines : List String :=
  ["",
    "╔══════════════════════════════════════════════════════════════╗",
    "║                   Numberle - Interactive Mode                ║",
    "╚══════════════════════════════════════════════════════════════╝",
    "",
    "Guess the hidden equation in " ++ toString maxAttempts ++ " tries.",
    "Every guess must be a valid equation:",
    "",
    "  1. Use numbers 0-9 and the signs + - * / =",
    "  2. Exactly " ++ toString equationLength ++ " characters long",
    "  3. Exactly one '=' sign, with both sides equal",
    "  4. At least one of + - * /, never two in a row",
    "  5. No letters or other symbols",
    "",
    "Commands: 'quit' to exit",
    ""]

/-- The rule between two turns. -/
def separator : String := String.ofList (List.replicate 60 '─') ++ "\n"

/-- The printed form of a notice. -/
def pieces : Notice → List Piece
  | rules => [plain (String.join (ruleLines.map (· ++ "\n")))]
  | target e => [plain ("Target equation: " ++ e.text ++ "\n")]
  | attempts remaining =>
    [plain (separator ++ "Remaining attempts: " ++ toString remaining ++ " "),
      painted { hue := .brightBlack } (attemptsGauge remaining maxAttempts), plain "\n"]
  | prompt asking => [plain asking.prompt]
  | rejected reason => [plain "❌ ", painted { hue := .red } reason.message, plain "\n"]
  | hints guess row unused => hintsReport guess row unused
  | victory used =>
    [plain (separator ++ "\n"), painted (.strong .brightGreen) "🎉 You won!", plain " ",
      painted { hue := .brightWhite }
        ("Solved in " ++ toString used ++ if used = 1 then " guess" else " guesses"),
      plain "\n"]
  | defeat e =>
    [plain (separator ++ "\n"), painted (.strong .red) "You lost. The answer was:", plain " ",
      painted (.strong .brightYellow) e.text, plain "\n"]
  | restarted => [plain "\n🔄 New game started!\n\n"]
  | farewell => [plain "\n👋 Bye!\n\n"]

end Notice

end HiddenEquation
