import HiddenEquation.CommandLine.Arguments
import HiddenEquation.CommandLine.FileTree
import HiddenEquation.Corpus.Standard
import HiddenEquation.LineGame.Turns
import HiddenEquation.ScreenGame.Keys
import HiddenEquation.ScreenGame.Layout

/-!
# Runs of the program

A run reads the command line, opens the journal if one is kept, loads the corpus if one is needed,
and then either finishes at once or begins a game. A failure is reported with its causes.

## Main definitions

* `Failure` : an error with its causes.
* `Outcome` : the exit code of a run, what it prints, its failure and its journal.
* `Stage`, `Invocation.stage` : what an invocation comes to once its corpus file has been read.
* `Program.runLines`, `Program.runKeys` : whole runs over a tree of files, with lines of input or
  with keys.
-/

namespace HiddenEquation

/-- An error and the causes behind it, the nearest first. -/
structure Failure where
  message : String
  causes : List String := []
  deriving DecidableEq, Repr

namespace Failure

/-- The causes of a failure as lines. Several causes are numbered from zero. -/
def causeLines : List String → List String
  | [cause] => ["    " ++ cause]
  | causes => causes.mapIdx fun k cause => padLeft 5 (toString k) ++ ": " ++ cause

/-- The report of a failure. -/
def report (f : Failure) : String :=
  let causes := if f.causes.isEmpty then [] else "" :: "Caused by:" :: causeLines f.causes
  String.join ((("Error: " ++ f.message) :: causes).map (· ++ "\n"))

/-- No corpus could be loaded from a file. -/
def ofCorpus (path : String) (error : CorpusError) : Failure :=
  { message := "failed to load equation corpus from " ++ path
    causes := error.message :: match error with
      | .unreadable reason => [reason.message]
      | _ => [] }

/-- The journal could not be opened. -/
def ofJournal (path : String) (error : FileError) : Failure :=
  { message := "failed to open log file " ++ path, causes := [error.message] }

/-- No session could be opened. -/
def ofSession (error : SessionError) : Failure :=
  { message := "failed to start a game", causes := [error.message] }

/-- The screen game was asked for where there is no terminal. -/
def noTerminal : Failure := { message := "No such device or address (os error 6)" }

end Failure

/-- What a run comes to. -/
structure Outcome where
  code : Nat
  output : List Piece := []
  failure : Option Failure := none
  journal : List Event := []

/-- A run that failed after printing some output. -/
def Outcome.failed (failure : Failure) (output : List Piece) (journal : List Event) : Outcome :=
  { code := 1, output, failure := some failure, journal }

/-- Judge a text and report on it. -/
def Outcome.ofCheck (text : String) : Outcome :=
  let verdict := Guess.validate text
  { code := if verdict.isOk then 0 else 1
    output := verdictReport text verdict
    journal := Guess.events text }

/-- What is printed before an audit. -/
def auditAnnouncement (corpus : List Equation) : Piece :=
  .plain ("🔍 Auditing " ++ toString corpus.length ++ " equations...\n")

/-- Audit a corpus that was loaded with these journal entries, and report on it. The time that the
audit took and its rate are given as text. -/
def Outcome.ofAudit (opening : List Event) (corpus : List Equation) (elapsed rate : String) :
    Outcome :=
  let report := audit corpus
  { code := if report.isClean then 0 else 1
    output := auditAnnouncement corpus :: report.pieces elapsed rate
    journal := opening ++ auditEvents corpus }

/-- The outcome of a line game that was opened with these journal entries. -/
def Outcome.ofTranscript (opening : List Event) (t : Transcript) : Outcome :=
  let output := t.notices.flatMap Notice.pieces
  let journal := opening ++ t.journal
  match t.ending with
  | .left => { code := 0, output, journal }
  | .failed reason => .failed { message := reason } output journal

namespace Invocation

/-- The corpus file that an invocation has to read, if any. -/
def corpusFile? (inv : Invocation) : Option String :=
  match inv.command with
  | .check _ => none
  | _ => if inv.equations = "all" then none else some inv.equations

/-- The corpus of an invocation with what loading it tells, given the contents of its file. -/
def loadCorpus (inv : Invocation) (contents : Except FileError ByteArray) :
    Except Failure (List Equation) × List Event :=
  match inv.corpusFile? with
  | none => (.ok Corpus.standard, [])
  | some path =>
    match Corpus.decode contents with
    | .error reason => (.error (.ofCorpus path (.unreadable reason)), [])
    | .ok sheet =>
      let reading := Corpus.read sheet
      let repeated := (Corpus.repetitions [] reading.equations).map fun found =>
        Event.duplicateEquation found.1 found.2
      match reading.toCorpus with
      | .error reason => (.error (.ofCorpus path reason), repeated)
      | .ok corpus => (.ok corpus, repeated ++ [.corpusRead path corpus.length])

/-- The session of an invocation with what opening it tells. The numbers for random selection are
those that the supply has for the seed of the invocation. -/
def openSession (inv : Invocation) (contents : Except FileError ByteArray)
    (supply : Draws.Supply) : Except Failure Session × List Event :=
  match inv.loadCorpus contents with
  | (.error failure, events) => (.error failure, events)
  | (.ok corpus, events) =>
    let events := events ++ [.corpusLoaded corpus.length inv.equations]
    match Session.start corpus inv.options (supply inv.seed) with
    | .error error => (.error (.ofSession error), events)
    | .ok session => (.ok session, events ++ [session.opening])

end Invocation

/-- What an invocation comes to once its corpus file has been read. -/
inductive Stage where
  | finished (outcome : Outcome)
  /-- A corpus is at hand to be audited. -/
  | audit (corpus : List Equation) (journal : List Event)
  /-- A session is open to be played over lines. -/
  | lineGame (session : Session) (journal : List Event)
  /-- A session is open to be played on a screen. -/
  | screenGame (session : Session) (journal : List Event)

/-- What an invocation comes to, given the contents of its corpus file. -/
def Invocation.stage (inv : Invocation) (contents : Except FileError ByteArray)
    (supply : Draws.Supply) : Stage :=
  match inv.command with
  | .check text => .finished (.ofCheck text)
  | .audit =>
    match inv.loadCorpus contents with
    | (.error failure, events) => .finished (.failed failure [] events)
    | (.ok corpus, events) => .audit corpus events
  | .simple =>
    match inv.openSession contents supply with
    | (.error failure, events) => .finished (.failed failure [] events)
    | (.ok session, events) => .lineGame session events
  | .play =>
    match inv.openSession contents supply with
    | (.error failure, events) => .finished (.failed failure [] events)
    | (.ok session, events) => .screenGame session events

namespace Program

/-- The version that is printed on request. -/
def versionLine : String := "numberle 1.0.0\n"

/-- The lines of help about the options that all commands share. -/
def optionLines : List String := [
  "  -e, --equations <EQUATIONS>  Equation corpus: 'all' (default, embedded list) or path to" ++
    " file [default: all]",
  "      --fixed                  Always play the first equation of the corpus instead of a" ++
    " random one",
  "      --seed <SEED>            Seed for random target selection",
  "      --show-target            Reveal the target equation at the start of each game" ++
    " (for testing)",
  "      --quiet-errors           Don't explain why an invalid guess was rejected",
  "  -v, --verbose...             Increase log verbosity (-v info, -vv debug, -vvv trace)",
  "      --log-file <LOG_FILE>    Write logs to this file instead of stderr",
  "  -h, --help                   Print help"]

/-- What a command does, in one line. -/
def about : CommandName → String
  | .play => "Interactive TUI mode (default)"
  | .simple => "Simple CLI mode (line-based game without TUI)"
  | .check => "Check whether an equation is a valid guess"
  | .audit => "Validate every equation in the corpus"
  | .help => "Print this message or the help of the given subcommand(s)"

/-- The lines of help of a command that takes nothing but options. -/
def commandHelp (name : String) (command : CommandName) : List String :=
  [about command, "", "Usage: numberle " ++ name ++ " [OPTIONS]", "", "Options:"] ++ optionLines

/-- The lines of help of the program, or of one of its commands. -/
def helpLines : Option CommandName → List String
  | none =>
    ["Numberle: guess the hidden equation in six tries", "",
      "Usage: numberle [OPTIONS] [COMMAND]", "",
      "Commands:",
      "  play    " ++ about .play,
      "  simple  " ++ about .simple,
      "  check   " ++ about .check,
      "  audit   " ++ about .audit,
      "  help    " ++ about .help, "",
      "Options:"] ++ optionLines ++ ["  -V, --version                Print version"]
  | some .play => commandHelp "play" .play
  | some .simple => commandHelp "simple" .simple
  | some .audit => commandHelp "audit" .audit
  | some .check =>
    [about .check, "", "Usage: numberle check [OPTIONS] <EQUATION>", "",
      "Arguments:", "  <EQUATION>  The equation to check, e.g. 1+2+3=6", "",
      "Options:"] ++ optionLines
  | some .help =>
    [about .help, "", "Usage: numberle help [COMMAND]...", "",
      "Arguments:", "  [COMMAND]...  Print help for the subcommand(s)"]

/-- The help that is printed on request. -/
def helpText (topic : Option CommandName) : String :=
  String.join ((helpLines topic).map (· ++ "\n"))

/-- The outcome of a command line that is no invocation. -/
def divert : Diversion → Outcome
  | .misuse => { code := 2 }
  | .help topic => { code := 0, output := [.plain (helpText topic)] }
  | .version => { code := 0, output := [.plain versionLine] }

/-- The contents of the corpus file of an invocation, if it has to read one. -/
def contents (inv : Invocation) (tree : FileTree) : Except FileError ByteArray :=
  match inv.corpusFile? with
  | none => .ok .empty
  | some path => tree.read path

/-- Begin a run over a tree of files: the stage that is reached, the tree with the opened journal,
and the journal's path with the verbosity. The journal is opened before the corpus is read. -/
def prepare (words : List String) (tree : FileTree) (supply : Draws.Supply) :
    Stage × FileTree × Option (String × Nat) :=
  match Arguments.read words with
  | .error diversion => (.finished (divert diversion), tree, none)
  | .ok inv =>
    match inv.logFile with
    | none => (inv.stage (contents inv tree) supply, tree, none)
    | some path =>
      match tree.create path with
      | .error reason => (.finished (.failed (.ofJournal path reason) [] []), tree, none)
      | .ok tree => (inv.stage (contents inv tree) supply, tree, some (path, inv.verbosity))

/-- The lines of standard input that are left for a game. A corpus that is read from there takes
all of them. -/
def linesLeft (words : List String) (tree : FileTree) : List InputLine :=
  match Arguments.read words with
  | .error _ => []
  | .ok inv => if inv.corpusFile?.any tree.readsInput then [] else InputLine.ofBytes tree.input

/-- The journal as text, line by line, each behind a stamp of its own. -/
def stamped (stamps : Nat → String) (lines : List String) : String :=
  String.join (lines.mapIdx fun k line => stamps k ++ " " ++ line ++ "\n")

/-- The tree after the journal was written, if one is kept. -/
def writeJournal (tree : FileTree) (stamps : Nat → String) (journal : List Event) :
    Option (String × Nat) → FileTree
  | none => tree
  | some (path, verbosity) =>
    tree.append path (stamped stamps (Journal.lines verbosity journal))

/-- A whole run over lines of input, with the tree of files that it leaves. The run is given numbers
for random selection, the time and the rate of an audit, and the stamps of the journal's lines. -/
def runLines (words : List String) (tree : FileTree) (supply : Draws.Supply)
    (elapsed rate : String) (stamps : Nat → String) : Outcome × FileTree :=
  let (stage, left, journal) := prepare words tree supply
  let outcome := match stage with
    | .finished outcome => outcome
    | .audit corpus opening => .ofAudit opening corpus elapsed rate
    | .lineGame session opening =>
      .ofTranscript opening (LineGame.play session (linesLeft words tree))
    | .screenGame _ opening => .failed .noTerminal [] opening
  (outcome, writeJournal left stamps outcome.journal journal)

/-- A run over keys in a terminal: the exit code, and the game as it was last drawn, if the screen
game was begun. -/
def runKeys (words : List String) (tree : FileTree) (keys : List Key) (supply : Draws.Supply) :
    Nat × Option ScreenGame :=
  match (prepare words tree supply).1 with
  | .finished outcome => (outcome.code, none)
  | .audit corpus opening => ((Outcome.ofAudit opening corpus "" "").code, none)
  | .lineGame session opening =>
    ((Outcome.ofTranscript opening (LineGame.play session [])).code, none)
  | .screenGame session _ => (0, some ((ScreenGame.start session).playKeys keys))

end Program

end HiddenEquation
