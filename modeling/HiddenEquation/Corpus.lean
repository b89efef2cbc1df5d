import HiddenEquation.Equation
import HiddenEquation.Text.Blank
import HiddenEquation.Text.Lines

/-!
# Corpora of target equations

A corpus is a list of equations from which targets are taken. A corpus sheet holds one equation per
line; blank lines count as lines but hold nothing, and the blanks around an equation do not matter.
A repeated equation is kept.

## Main definitions

* `Corpus.Reading`, `Corpus.read` : what the lines of a sheet hold, up to the first malformed one.
* `Corpus.parse` : the equations of a sheet, or its first fault.
* `Corpus.repetitions` : the lines whose equation an earlier line already had.
* `Corpus.entries` : the lines of a sheet that hold something, trimmed.
* `Corpus.ofTexts` : the equations among some texts; all other texts are passed over.
* `Corpus.load` : the equations of a file, or why it has none.
-/

namespace HiddenEquation

/-- Why a file cannot be read as text. -/
inductive FileError where
  | notFound
  | notDirectory
  | isDirectory
  | nameTooLong
  | notUtf8
  /-- Any other reason, in the words of the system. -/
  | other (description : String)
  deriving DecidableEq, Repr

/-- The wording of a file error. -/
def FileError.message : FileError → String
  | notFound => "No such file or directory (os error 2)"
  | notDirectory => "Not a directory (os error 20)"
  | isDirectory => "Is a directory (os error 21)"
  | nameTooLong => "File name too long (os error 36)"
  | notUtf8 => "stream did not contain valid UTF-8"
  | other description => description

/-- Why there is no corpus. -/
inductive CorpusError where
  /-- The file cannot be read. -/
  | unreadable (reason : FileError)
  /-- The first line, counted from one, that holds something other than an equation. -/
  | malformed (line : Nat) (reason : EquationError)
  /-- There is no equation at all. -/
  | empty
  deriving DecidableEq, Repr

/-- The wording of a corpus error. -/
def CorpusError.message : CorpusError → String
  | unreadable reason => "failed to read equation corpus: " ++ reason.message
  | malformed line reason => "line " ++ toString line ++ ": " ++ reason.message
  | empty => "equation corpus is empty"

namespace Corpus

/-- What the lines of a sheet hold, up to the first malformed one. -/
structure Reading where
  /-- The equations in order, each with the number of its line. -/
  equations : List (Nat × Equation)
  /-- The first malformed line and what is wrong with it. -/
  fault : Option (Nat × EquationError)
  deriving Repr

/-- Read lines whose first one has the given number. Blank lines are passed over. -/
def readLines (number : Nat) : List String → Reading
  | [] => { equations := [], fault := none }
  | line :: rest =>
    let entry := Text.trim line
    if entry.isEmpty then readLines (number + 1) rest
    else
      match Equation.ofString entry with
      | .error reason => { equations := [], fault := some (number, reason) }
      | .ok equation =>
        let later := readLines (number + 1) rest
        { later with equations := (number, equation) :: later.equations }

/-- Read a sheet. Its first line has number one. -/
def read (sheet : String) : Reading := readLines 1 (Text.lines sheet)

/-- The corpus that a reading gives: all lines have to be well formed, and one has to hold
something. -/
def Reading.toCorpus (reading : Reading) : Except CorpusError (List Equation) :=
  match reading.fault with
  | some (line, reason) => .error (.malformed line reason)
  | none =>
    if reading.equations.isEmpty then .error .empty
    else .ok (reading.equations.map Prod.snd)

/-- The equations of a sheet in order, or its first fault. -/
def parse (sheet : String) : Except CorpusError (List Equation) := (read sheet).toCorpus

/-- The numbered equations that repeat an earlier one or one of those seen before. -/
def repetitions (seen : List Equation) : List (Nat × Equation) → List (Nat × Equation)
  | [] => []
  | (line, equation) :: rest =>
    let later := repetitions (equation :: seen) rest
    if seen.contains equation then (line, equation) :: later else later

/-- The lines of a sheet that hold something, without the blanks around them. A list that is built
into the program writes its entries as quoted texts. That step is left out here: an entry stands for
itself, also if it holds a quote or a backslash. -/
def entries (sheet : String) : List String :=
  ((Text.lines sheet).map Text.trim).filter fun entry => !entry.isEmpty

/-- The equations among some texts, in order. Of a list that is built into the program, the texts
are what its quoted entries stand for. -/
def ofTexts (texts : List String) : List Equation :=
  texts.filterMap fun text => (Equation.ofString text).toOption

/-- The text of a file, given its bytes or the reason why there are none. -/
def decode : Except FileError ByteArray → Except FileError String
  | .error reason => .error reason
  | .ok bytes =>
    match String.fromUTF8? bytes with
    | none => .error .notUtf8
    | some text => .ok text

/-- The equations of a file, given its bytes or the reason why there are none. -/
def load (contents : Except FileError ByteArray) : Except CorpusError (List Equation) :=
  match decode contents with
  | .error reason => .error (.unreadable reason)
  | .ok sheet => parse sheet

end Corpus

end HiddenEquation
