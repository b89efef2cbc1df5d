import HiddenEquation.Corpus
import HiddenEquation.Feedback.RowText
import HiddenEquation.Game.Options
import HiddenEquation.Guess
import HiddenEquation.Journal.Level
import HiddenEquation.Print.Gauge

/-!
# Journal entries

The journal tells what happened: which corpus was loaded, which guesses were played or rejected, and
how games ended. An entry has a level, a title and some fields. A verbose journal also names the
part of the program that wrote the entry, and a very verbose one its place there.

## Main definitions

* `Event` : what the journal can tell.
* `Event.line` : the text of an entry under a verbosity.
* `Journal.lines` : the texts of the entries that a verbosity keeps.
* `Guess.events` : what judging a text has to tell.
-/

namespace HiddenEquation

/-- Something that happened. -/
inductive Event where
  /-- A corpus file was read. -/
  | corpusRead (path : String) (count : Nat)
  /-- A line of a corpus file repeats an equation. -/
  | duplicateEquation (line : Nat) (equation : Equation)
  /-- The corpus for a session is at hand. -/
  | corpusLoaded (count : Nat) (source : String)
  /-- A session was opened on a corpus of so many equations. -/
  | sessionOpened (equations : Nat) (selection : Selection)
  /-- Another game of a session was started. -/
  | gameStarted
  /-- A submitted text is not a guess. -/
  | guessRejected (guess : String) (reason : Rejection)
  /-- A guess was played, and so many attempts are left. -/
  | guessPlayed (guess : Equation) (row : Row) (remaining : Nat)
  /-- The last guess won the game as the attempt of this number. -/
  | gameWon (attempts : Nat)
  /-- The last attempt was used without finding the target. -/
  | gameLost (target : Equation)
  /-- The two sides of a text have different values. -/
  | sidesDiffer (input : String) (left right : Int)
  /-- A side of a text has no value. -/
  | evaluationFailed (input : String) (fault : Arithmetic.Fault)
  /-- An entry of an audited corpus is not a guess. -/
  | entryRejected (equation : Equation) (reason : Rejection)
  deriving Repr

namespace Event

/-- The level of an entry. -/
def level : Event → Level
  | duplicateEquation .. | entryRejected .. => .warn
  | corpusLoaded .. | sessionOpened .. | gameStarted | gameWon .. | gameLost .. => .info
  | corpusRead .. | guessRejected .. | guessPlayed .. | sidesDiffer .. | evaluationFailed .. =>
    .debug

/-- The title of an entry. -/
def title : Event → String
  | corpusRead .. => "loaded equation corpus"
  | duplicateEquation .. => "duplicate equation in corpus"
  | corpusLoaded .. => "equation corpus loaded"
  | sessionOpened .. => "new game"
  | gameStarted => "new game"
  | guessRejected .. => "guess rejected"
  | guessPlayed .. => "guess played"
  | gameWon .. => "game won"
  | gameLost .. => "game lost"
  | sidesDiffer .. => "sides differ"
  | evaluationFailed .. => "evaluation failed"
  | entryRejected .. => "corpus entry fails validation"

/-- A character of a player's text as the journal quotes it. A control character without an escape
of its own is given by its number. Characters beyond these are taken to be printable. -/
def escaped (c : Char) : String :=
  match c with
  | '"' => "\\\""
  | '\\' => "\\\\"
  | '\x00' => "\\0"
  | '\t' => "\\t"
  | '\n' => "\\n"
  | '\r' => "\\r"
  | c =>
    if c.toNat < 0x20 ∨ 0x7F ≤ c.toNat ∧ c.toNat < 0xA0 then
      "\\u\x7b" ++ String.ofList (Nat.toDigits 16 c.toNat) ++ "\x7d"
    else c.toString

/-- A player's text between quotes, on one line. -/
def quoted (text : String) : String := "\"" ++ String.join (text.toList.map escaped) ++ "\""

/-- The fields of an entry in order, each a name and a value. -/
def fields : Event → List (String × String)
  | corpusRead path count => [("path", path), ("count", toString count)]
  | duplicateEquation line equation => [("line", toString line), ("equation", equation.text)]
  | corpusLoaded count source => [("count", toString count), ("source", source)]
  | sessionOpened equations selection =>
    [("equations", toString equations), ("selection", selection.name)]
  | gameStarted => []
  | guessRejected guess reason => [("guess", quoted guess), ("error", reason.message)]
  | guessPlayed guess row remaining =>
    [("guess", guess.text), ("feedback", row.emoji), ("remaining", toString remaining)]
  | gameWon attempts => [("attempts", toString attempts)]
  | gameLost target => [("target", target.text)]
  | sidesDiffer input left right =>
    [("input", quoted input), ("left", toString left), ("right", toString right)]
  | evaluationFailed input fault => [("input", quoted input), ("error", fault.message)]
  | entryRejected equation reason => [("equation", equation.text), ("error", reason.message)]

/-- The part of the program that writes an entry. -/
def origin : Event → String
  | corpusLoaded .. => "numberle"
  | sessionOpened .. | gameStarted | guessRejected .. | guessPlayed .. | gameWon .. | gameLost .. =>
    "numberle::game::session"
  | sidesDiffer .. | evaluationFailed .. => "numberle::rules::validator"
  | corpusRead .. | duplicateEquation .. => "numberle::corpus::loader"
  | entryRejected .. => "numberle::commands::audit"

/-- The place that a very verbose journal gives for an entry. -/
def place : Event → String
  | corpusLoaded .. => "src/main.rs:125"
  | sessionOpened .. => "src/game/session.rs:99"
  | gameStarted => "src/game/session.rs:141"
  | guessRejected .. => "src/game/session.rs:171"
  | guessPlayed .. => "src/game/session.rs:183"
  | gameWon .. => "src/game/session.rs:190"
  | gameLost .. => "src/game/session.rs:191"
  | sidesDiffer .. => "src/rules/validator.rs:88"
  | evaluationFailed .. => "src/rules/validator.rs:92"
  | corpusRead .. => "src/corpus/loader.rs:42"
  | duplicateEquation .. => "src/corpus/loader.rs:78"
  | entryRejected .. => "src/commands/audit.rs:67"

/-- The text of an entry. The levels stand in a column of their own. The origin of the entry is
given from verbosity two on, its place from three on. -/
def line (verbosity : Nat) (e : Event) : String :=
  padLeft 5 e.level.tag ++ " "
    ++ (if 2 ≤ verbosity then e.origin ++ ": " else "")
    ++ (if 3 ≤ verbosity then e.place ++ ": " else "")
    ++ e.title
    ++ String.join (e.fields.map fun field => " " ++ field.1 ++ "=" ++ field.2)

end Event

/-- The texts of the entries that a verbosity keeps, in order. -/
def Journal.lines (verbosity : Nat) (events : List Event) : List String :=
  (events.filter fun e => (Level.ofVerbosity verbosity).keeps e.level).map (Event.line verbosity)

namespace Guess

/-- What judging a text has to tell. Only texts of the right form are told about, and only those
whose sides do not balance. -/
def events (text : String) : List Event :=
  match checkForm text with
  | .error _ => []
  | .ok _ =>
    match balance text with
    | .error fault => [.evaluationFailed text fault]
    | .ok (left, right) => if left = right then [] else [.sidesDiffer text left right]

end Guess

end HiddenEquation
