import HiddenEquation.Arithmetic.Token

/-!
# Evaluation of an expression

An expression is evaluated in two scans over its tokens. The first carries out products and
quotients from left to right, the second sums and differences from left to right. One sign may
stand in front; it applies to the whole first product.

## Main definitions

* `resolveProducts` : the tokens with every product and quotient carried out.
* `resolveSums` : the value of tokens that hold no product or quotient.
* `evaluate` : the value of an expression.
-/

namespace HiddenEquation.Arithmetic

/-- Carry out products and quotients from left to right. The tokens already passed are kept with
the last one first; a product takes its left factor from there. -/
def resolveProducts (passed : List Token) : List Token → Except Fault (List Token)
  | [] => .ok passed.reverse
  | .number n :: rest => resolveProducts (.number n :: passed) rest
  | .operator o :: rest =>
    if o.bindsTightly then
      match passed, rest with
      | .number left :: earlier, .number right :: rest => do
        let value ← o.apply left right
        resolveProducts (.number value :: earlier) rest
      | _, _ => .error .missingOperand
    else resolveProducts (.operator o :: passed) rest

/-- Add and subtract from left to right, starting from a total. -/
def addTerms (total : Int) : List Token → Except Fault Int
  | [] => .ok total
  | .number _ :: _ => .error .missingOperator
  | .operator o :: .number n :: rest => do
    let total ← o.apply total n
    addTerms total rest
  | .operator _ :: _ => .error .missingOperand

/-- The value of tokens in which only sums and differences are left. One sign may lead. -/
def resolveSums : List Token → Except Fault Int
  | [] => .error .empty
  | .number n :: rest => addTerms n rest
  | .operator .add :: .number n :: rest => addTerms n rest
  | .operator .sub :: .number n :: rest => do
    let total ← checked (-n)
    addTerms total rest
  | .operator _ :: _ => .error .missingOperand

/-- The value of an expression. -/
def evaluate (expression : String) : Except Fault Int := do
  let found ← tokens expression
  let terms ← resolveProducts [] found
  resolveSums terms

end HiddenEquation.Arithmetic
