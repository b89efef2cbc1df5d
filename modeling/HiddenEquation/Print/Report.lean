import HiddenEquation.Audit
import HiddenEquation.Decimal.Fixed
import HiddenEquation.Print.Gauge
import HiddenEquation.Print.Paint

/-!
# Printed reports

## Main definitions

* `verdictReport` : what is printed about one text that was judged.
* `hintsReport` : what is printed after a guess.
* `AuditReport.pieces` : what is printed about an audit.
-/

namespace HiddenEquation

open Piece (plain painted)

/-- What is printed about a text that was judged as a guess. -/
def verdictReport (text : String) : Except Rejection Equation → List Piece
  | .ok equation => [painted (.strong .green) "✅ valid:", plain (" " ++ equation.text ++ "\n")]
  | .error reason =>
    [painted (.strong .red) "❌ invalid:", plain (" " ++ text ++ " ("),
      painted { hue := .yellow } reason.message, plain ")\n"]

/-- What is printed after a guess: its colours twice, what they mean, and the symbols that no guess
has held yet. -/
def hintsReport (guess : Equation) (row : Row) (unused : List Symbol) : List Piece :=
  [plain "Hints:\n  "] ++ paintGuess guess row ++
    [plain ("   " ++ row.emoji ++ "\n  "),
      painted Color.green.paint "Green", plain " right place  ",
      painted Color.orange.paint "Orange", plain " wrong place  ",
      painted Color.grey.paint "Grey", plain " not in the equation\n",
      plain ("You have not used these numbers and symbols yet: "
        ++ spaced (unused.map Symbol.toChar) ++ "\n")]

namespace AuditReport

/-- The number of columns of a full bar. -/
def barWidth : Nat := 40

/-- The number of filled columns of the bar for a percentage: one for each whole 2.5 percent. -/
def filledColumns (percent : Float) : Nat := (percent / 2.5).toUInt64.toNat

/-- The line about one operator: a bar, the number of equations that hold it, and their share. -/
def usageLine (total : Nat) (o : Operator) (count : Nat) : List Piece :=
  let percent := Decimal.percent count total
  let filled := filledColumns percent
  [plain ("   " ++ o.toChar.toString ++ ": "),
    painted { hue := .green } (String.ofList (List.replicate filled '█')),
    painted { hue := .brightBlack } (String.ofList (List.replicate (barWidth - filled) '░')),
    plain (" " ++ padLeft 4 (toString count) ++ " ("
      ++ padLeft 5 (Decimal.fixed 1 percent) ++ "%)\n")]

/-- The line about one rejected equation. -/
def failureLine (equation : Equation) (reason : Rejection) : List Piece :=
  [plain "   ", painted (.strong .brightWhite) equation.text,
    plain (" (" ++ reason.message ++ ")\n")]

/-- What is printed about an audit. The time that it took and its rate are given as text. -/
def pieces (report : AuditReport) (elapsed rate : String) : List Piece :=
  let rule := painted { hue := .cyan } (String.ofList (List.replicate 60 '═'))
  let heading := Paint.strong .brightCyan
  [plain "\n", rule, plain "\n ", painted heading "CORPUS AUDIT", plain " \n", rule, plain "\n",
    plain "\n📊 ", painted heading "Summary:",
    plain ("\n   Equations:        " ++ toString report.total),
    plain "\n   Valid:            ", painted (.strong .green) (toString report.valid),
    plain "\n   Invalid:          ",
    if report.isClean then painted { hue := .green } "0"
    else painted (.strong .red) (toString report.failures.length),
    plain ("\n   Time taken:       " ++ elapsed),
    plain ("\n   Equations/second: " ++ rate ++ "\n"),
    plain "\n📈 ", painted heading "Operator usage:", plain "\n"]
  ++ (report.usage.flatMap fun entry => usageLine report.total entry.1 entry.2)
  ++ if report.isClean then []
    else
      [plain "\n❌ ", painted (.strong .red) "Invalid entries:", plain "\n"]
        ++ report.failures.flatMap fun failure => failureLine failure.1 failure.2

end AuditReport

end HiddenEquation
