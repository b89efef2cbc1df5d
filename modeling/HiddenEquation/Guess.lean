import HiddenEquation.Arithmetic.Evaluate
import HiddenEquation.Equation

/-!
# Guesses

A guess is an equation that balances. Six rules are tried in order, and the first one that a text
breaks is the reason for its rejection:

1. it has exactly seven characters;
2. it has an equals sign;
3. it has an operator;
4. no two operators stand side by side;
5. it has no character outside the alphabet;
6. the two sides of its first equals sign have a value, and it is the same.

## Main definitions

* `Rejection` : the reason why a text is not a guess.
* `Guess.sides` : the two sides of the first equals sign.
* `Guess.validate` : the guess that a text is, or the reason for its rejection.
-/

namespace HiddenEquation

/-- Why a text is not a guess, in the order in which the rules are tried. -/
inductive Rejection where
  | wrongLength
  | missingEquals
  | missingOperator
  | consecutiveOperators
  | illegalCharacter
  | calculation
  | sidesDiffer
  deriving DecidableEq, Repr

/-- The wording of a rejection. -/
def Rejection.message : Rejection → String
  | wrongLength => "length must be 7"
  | missingEquals => "missing '=' sign"
  | missingOperator => "must contain at least one operator"
  | consecutiveOperators => "consecutive operators not allowed"
  | illegalCharacter => "illegal character"
  | calculation => "calculation error"
  | sidesDiffer => "sides not equal"

namespace Guess

/-- Whether a character writes an operator. -/
def isOperator (c : Char) : Bool := (Operator.ofChar? c).isSome

/-- Whether two neighbours in a row of characters are both operators. -/
def hasAdjacentOperators (cs : List Char) : Bool :=
  (cs.zip (cs.drop 1)).any fun pair => isOperator pair.1 && isOperator pair.2

/-- The text before the first equals sign, and the text after it. -/
def sides (text : String) : String × String :=
  let cs := text.toList
  (String.ofList (cs.takeWhile (· != '=')), String.ofList ((cs.dropWhile (· != '=')).drop 1))

/-- The values of the two sides. The left side is evaluated first. -/
def balance (text : String) : Except Arithmetic.Fault (Int × Int) := do
  let left ← Arithmetic.evaluate (sides text).1
  let right ← Arithmetic.evaluate (sides text).2
  return (left, right)

/-- The equation that a text is, provided that it keeps the rules about form. -/
def checkForm (text : String) : Except Rejection Equation :=
  let cs := text.toList
  if cs.length ≠ equationLength then .error .wrongLength
  else if !cs.contains '=' then .error .missingEquals
  else if !cs.any isOperator then .error .missingOperator
  else if hasAdjacentOperators cs then .error .consecutiveOperators
  else
    match Equation.ofString text with
    | .error _ => .error .illegalCharacter
    | .ok equation => .ok equation

/-- Judge the values of the two sides. -/
def checkBalance : Except Arithmetic.Fault (Int × Int) → Except Rejection Unit
  | .error _ => .error .calculation
  | .ok (left, right) => if left = right then .ok () else .error .sidesDiffer

/-- The guess that a text is, or the first rule that it breaks. -/
def validate (text : String) : Except Rejection Equation := do
  let equation ← checkForm text
  checkBalance (balance text)
  return equation

end Guess

end HiddenEquation
