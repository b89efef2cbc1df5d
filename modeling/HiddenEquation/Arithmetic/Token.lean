import HiddenEquation.Arithmetic.Value
import HiddenEquation.Text.Blank

/-!
# Tokens of an expression

An expression is read as a row of numbers and operators. Blank characters are dropped first, also
between two digits. A maximal run of digits is one number, written with or without leading zeros,
and every other character has to be an operator.

## Main definitions

* `Token` : a number or an operator.
* `tokens` : the tokens of an expression, or its leftmost fault.

## Implementation notes

The scan carries the value of the digits read since the last operator. When the run of digits
ends, its value is judged before the character that ended it.
-/

namespace HiddenEquation.Arithmetic

/-- A piece of an expression. -/
inductive Token where
  | number (value : Int)
  | operator (op : Operator)
  deriving DecidableEq, Repr

/-- The value of a character as a decimal digit. -/
def digitValue? (c : Char) : Option Nat :=
  if c.isDigit then some (c.toNat - '0'.toNat) else none

/-- The number that ends here, if digits are pending. -/
def closeNumber : Option Nat → Except Fault (List Token)
  | none => .ok []
  | some n => (checked n).map fun value => [.number value]

/-- Scan characters that are not blank, given the value of the digits pending from before. -/
def scan (pending : Option Nat) : List Char → Except Fault (List Token)
  | [] => closeNumber pending
  | c :: rest =>
    match digitValue? c with
    | some d => scan (some (pending.getD 0 * 10 + d)) rest
    | none => do
      let closed ← closeNumber pending
      match Operator.ofChar? c with
      | none => .error (.unexpectedCharacter c)
      | some o => return closed ++ .operator o :: (← scan none rest)

/-- The tokens of an expression. There is at least one. -/
def tokens (expression : String) : Except Fault (List Token) := do
  let found ← scan none (expression.toList.filter fun c => !Text.isBlank c)
  if found.isEmpty then .error .empty else .ok found

end HiddenEquation.Arithmetic
