import HiddenEquation.Symbol

/-!
# Values of expressions

The value of an expression is an integer of sixty-four signed bits. An operation whose exact result
leaves that range fails; nothing wraps. A division by zero does not fail: its value is a sentinel,
the largest integer in range, with which later operations go on computing.

## Main definitions

* `InRange` : the integers from `smallest` to `largest`.
* `Fault` : why an expression has no value.
* `checked` : an exact result, or an overflow.
* `undefinedValue` : the value of a division by zero.
* `Operator.apply` : one operation on two values.
-/

namespace HiddenEquation.Arithmetic

/-- The least value. -/
def smallest : Int := -9223372036854775808

/-- The greatest value. -/
def largest : Int := 9223372036854775807

/-- The integers that fit in sixty-four signed bits. -/
def InRange (n : Int) : Prop := smallest ≤ n ∧ n ≤ largest

instance (n : Int) : Decidable (InRange n) := inferInstanceAs (Decidable (_ ∧ _))

/-- The value of a division by zero. -/
def undefinedValue : Int := largest

/-- Why an expression has no value. -/
inductive Fault where
  /-- There is nothing but blank characters. -/
  | empty
  /-- A character that is neither a digit nor an operator nor blank. -/
  | unexpectedCharacter (c : Char)
  /-- An operator without a number on one of its sides. -/
  | missingOperand
  /-- Two numbers side by side. -/
  | missingOperator
  /-- A number or a result that leaves the range. -/
  | overflow
  deriving DecidableEq, Repr

/-- The wording of a fault. -/
def Fault.message : Fault → String
  | empty => "empty expression"
  | unexpectedCharacter c => "unexpected character '" ++ c.toString ++ "'"
  | missingOperand => "operator is missing an operand"
  | missingOperator => "two numbers without an operator between them"
  | overflow => "integer overflow"

/-- An exact result, if it is in range. -/
def checked (n : Int) : Except Fault Int :=
  if InRange n then .ok n else .error .overflow

end HiddenEquation.Arithmetic

namespace HiddenEquation

open Arithmetic

/-- Apply an operator to two values. A quotient is truncated toward zero, and a quotient by zero is
the undefined value. -/
def Operator.apply (o : Operator) (left right : Int) : Except Fault Int :=
  match o with
  | add => checked (left + right)
  | sub => checked (left - right)
  | mul => checked (left * right)
  | div => if right = 0 then .ok undefinedValue else checked (left.tdiv right)

end HiddenEquation
