import HiddenEquation.CommandLine.Run
import HiddenEquation.Screen.Draw

/-!
# The program

The outer layer of the program: it reads the arguments, files, lines and keys that a run asks for,
and prints what the run gives back.
-/

namespace HiddenEquation.Console

/-- Where the journal goes. -/
inductive Sink where
  /-- Nowhere: a screen game without a journal file keeps no journal. -/
  | nowhere
  /-- The error stream. -/
  | errorStream
  /-- The end of a file. -/
  | file (path : String)

/-- Where the journal of an invocation goes. -/
def Sink.ofInvocation (inv : Invocation) : Sink :=
  match inv.logFile, inv.command with
  | some path, _ => .file path
  | none, .play => .nowhere
  | none, _ => .errorStream

/-- What it takes to write the journal: where it goes, and how much of it. -/
structure Recorder where
  sink : Sink
  verbosity : Nat
  /-- The time at which the run began, in nanoseconds. -/
  began : Nat

/-- A time in seconds. -/
def seconds (nanos : Nat) : Float := nanos.toFloat / 1000000000

/-- Write some text where the journal goes. -/
def Sink.write (text : String) : Sink → IO Unit
  | .nowhere => return
  | .errorStream => IO.eprint text
  | .file path => do (← IO.FS.Handle.mk path .append).putStr text

/-- Write entries to the journal, each line with the time since the run began. -/
def Recorder.write (r : Recorder) (events : List Event) : IO Unit := do
  for line in Journal.lines r.verbosity events do
    let stamp := Decimal.fixed 6 (seconds ((← IO.monoNanosNow) - r.began)) ++ "s"
    r.sink.write (stamp ++ " " ++ line ++ "\n")

/-- The reason behind an error of the file system. -/
def fileError : IO.Error → FileError
  | .noFileOrDirectory .. => .notFound
  | .inappropriateType _ 20 _ => .notDirectory
  | .inappropriateType _ 21 _ => .isDirectory
  | .invalidArgument _ 36 _ => .nameTooLong
  | .permissionDenied .. => .other "Permission denied (os error 13)"
  | e => .other (toString e)

/-- Read a file. -/
def readFile (path : String) : IO (Except FileError ByteArray) := do
  try return .ok (← IO.FS.readBinFile path) catch e => return .error (fileError e)

/-- Make sure that a file is there. -/
def createFile (path : String) : IO (Except FileError Unit) := do
  try
    let _ ← IO.FS.Handle.mk path .append
    return .ok ()
  catch e => return .error (fileError e)

/-- Whether output is painted. -/
def wantsColor : IO Bool := do
  if (← IO.getEnv "NO_COLOR").isSome then return false
  (← IO.getStdout).isTty

/-- Print pieces. -/
def print (color : Bool) (pieces : List Piece) : IO Unit := do
  let stdout ← IO.getStdout
  stdout.putStr (Piece.renderAll color pieces)
  stdout.flush

/-- Print what an outcome still has to say, and give its exit code. -/
def finish (color : Bool) (outcome : Outcome) : IO UInt32 := do
  print color outcome.output
  if let some failure := outcome.failure then IO.eprint failure.report
  return UInt32.ofNat outcome.code

/-- Read a line of input. -/
def readLine : IO (Option InputLine) := do
  try
    let line ← (← IO.getStdin).getLine
    return if line.isEmpty then none else some (.text (Text.trim line))
  catch _ => return some .garbled

/-- Play a line game to its end. -/
partial def playLines (color : Bool) (recorder : Recorder) (turn : Turn) : IO UInt32 := do
  print color (turn.notices.flatMap Notice.pieces)
  recorder.write turn.journal
  match turn.progress with
  | .ended .left => return 0
  | .ended (.failed reason) => finish color (.failed { message := reason } [] [])
  | .waiting game =>
    match ← readLine with
    | some (.text line) => playLines color recorder (game.answer line)
    | some .garbled => finish color (.failed { message := FileError.notUtf8.message } [] [])
    | none => finish color (.failed { message := LineGame.inputClosed } [] [])

/-- The number of bytes that follow the first byte of a character. -/
def continuationBytes (first : UInt8) : Nat :=
  if first < 0xC0 then 0 else if first < 0xE0 then 1 else if first < 0xF0 then 2 else 3

/-- Read a key, if there is any more. -/
def readKey : IO (Option Key) := do
  let stdin ← IO.getStdin
  let first ← stdin.read 1
  match first[0]? with
  | none => return none
  | some byte =>
    if byte < 0x80 then return some (Key.ofAscii byte.toNat)
    let rest ← stdin.read (USize.ofNat (continuationBytes byte))
    let text := (String.fromUTF8? (first ++ rest)).getD ""
    return some { code := (text.toList.head?.map KeyCode.char).getD .other }

/-- The width of the screen. -/
def screenWidth : Nat := 100

/-- The height of the screen. -/
def screenHeight : Nat := 30

/-- Play a screen game until the player leaves or there are no more keys. -/
partial def playScreen (recorder : Recorder) (game : ScreenGame) (written : Nat) : IO Unit := do
  recorder.write (game.journal.drop written)
  let stdout ← IO.getStdout
  stdout.putStr (game.picture screenWidth screenHeight).draw
  stdout.flush
  match ← readKey with
  | none => return
  | some key =>
    let next := game.press key
    unless next.leaving do playScreen recorder next game.journal.length

/-- Time an audit and report on it. -/
def runAudit (color : Bool) (recorder : Recorder) (corpus : List Equation) (opening : List Event) :
    IO UInt32 := do
  print color [auditAnnouncement corpus]
  let began ← IO.monoNanosNow
  let failed ← IO.lazyPure fun _ => (audit corpus).failures.length
  let spent := seconds ((← IO.monoNanosNow) - began)
  let rate := corpus.length.toFloat / max spent 1e-9
  let elapsed := Decimal.fixed 3 spent ++ "s"
  let outcome := Outcome.ofAudit opening corpus elapsed (Decimal.fixed 0 rate)
  recorder.write outcome.journal
  print color (outcome.output.drop 1)
  return if failed = 0 then 0 else 1

/-- Numbers for random selection from the generator of the standard library. It starts from the seed
of a run, and from `entropy` without one. -/
def supply (entropy : Nat) : Draws.Supply := fun seed k =>
  let generator := Nat.repeat (fun g => (stdNext g).2) (k + 1) (mkStdGen (seed.getD entropy))
  (stdNext generator).1

/-- Carry out an invocation. -/
def run (inv : Invocation) (recorder : Recorder) : IO UInt32 := do
  let color ← wantsColor
  let contents ← match inv.corpusFile? with
    | none => pure (.ok .empty)
    | some path => readFile path
  let entropy := (← IO.getRandomBytes 8).toList.foldl (fun n byte => n * 256 + byte.toNat) 0
  match inv.stage contents (supply entropy) with
  | .finished outcome =>
    recorder.write outcome.journal
    finish color outcome
  | .audit corpus opening => runAudit color recorder corpus opening
  | .lineGame session opening =>
    recorder.write opening
    playLines color recorder (LineGame.opening session)
  | .screenGame session opening =>
    recorder.write opening
    if !(← (← IO.getStdin).isTty) then finish color (.failed .noTerminal [] [])
    else
      print false [.plain "\x1b[?1049h\x1b[2J"]
      playScreen recorder (ScreenGame.start session) 0
      print false [.plain "\x1b[?1049l"]
      return 0

end HiddenEquation.Console

open HiddenEquation in
/-- Run the program. -/
def main (words : List String) : IO UInt32 := do
  match Arguments.read words with
  | .error diversion =>
    if diversion = .misuse then IO.eprint (Program.helpText none)
    Console.finish (← Console.wantsColor) (Program.divert diversion)
  | .ok inv =>
    let recorder : Console.Recorder :=
      { sink := .ofInvocation inv, verbosity := inv.verbosity, began := ← IO.monoNanosNow }
    let opened ← match recorder.sink with
      | .file path => Console.createFile path
      | _ => pure (.ok ())
    match opened, inv.logFile with
    | .error reason, some path =>
      Console.finish (← Console.wantsColor) (.failed (.ofJournal path reason) [] [])
    | _, _ => Console.run inv recorder
