import HiddenEquation.Arithmetic.Value

/-!
# The grammar of expressions

An expression is a word of digits and operators, derived by three rules:

    expression ::= ['+' | '-'] term (('+' | '-') term)*
    term       ::= number (('*' | '/') number)*
    number     ::= digit digit*

The two repetitions have one shape, pieces with operators of one strength between them, and are one
type here. A value of type `Expression` is a derivation: its word is the row of characters that it
derives, and its value is found by recursion over it. Nothing in this file refers to tokens or to
the scans over them.

## Main definitions

* `Operator.exact`, `fit?` : the exact result of an operation, and a result that fits in 64 bits.
* `Numeral`, `Chain`, `Term`, `Expression` : derivations of the three rules.
* `Expression.word` : the characters that a derivation derives.
* `Expression.value?` : the value of a derivation, computed with 64-bit checks.

## Main results

* `Term.value?_nonneg` : the value of a term is never negative, so that its sign can be reversed.
-/

namespace HiddenEquation

open Arithmetic

/-- The exact result of an operation. A quotient is truncated toward zero, and a quotient by zero
is the greatest value. -/
def Operator.exact (o : Operator) (left right : Int) : Int :=
  match o with
  | add => left + right
  | sub => left - right
  | mul => left * right
  | div => if right = 0 then largest else left.tdiv right

theorem Operator.exact_div_zero (left : Int) : div.exact left 0 = largest := by
  simp [exact]

namespace Arithmetic

/-- An exact result, if it fits in sixty-four bits. -/
def fit? (n : Int) : Option Int := if InRange n then some n else none

theorem fit?_eq_some_iff {n v : Int} : fit? n = some v ↔ InRange n ∧ n = v := by
  simp [fit?]

/-- The operators of one strength: those that bind tightly, or those that do not. -/
abbrev OperatorOf (tight : Bool) := { o : Operator // o.bindsTightly = tight }

/-! ### Derivations -/

/-- A numeral is a row of one or more decimal digits. Leading zeros are allowed. -/
structure Numeral where
  digits : List Char
  digits_ne_nil : digits ≠ []
  isDigit_of_mem : ∀ c ∈ digits, c.isDigit = true
  deriving DecidableEq, Repr

/-- The numeral of a single digit. -/
def Numeral.single (c : Char) (hc : c.isDigit = true) : Numeral where
  digits := [c]
  digits_ne_nil := by simp
  isDigit_of_mem := by simpa using hc

/-- Pieces with operators of one strength between them. -/
structure Chain (tight : Bool) (α : Type) where
  first : α
  rest : List (OperatorOf tight × α)
  deriving DecidableEq, Repr

/-- A term is a chain of numerals with products and quotients between them. -/
abbrev Term := Chain true Numeral

/-- An expression is a chain of terms with sums and differences between them. One sign may lead. -/
structure Expression where
  sign : Option (OperatorOf false)
  terms : Chain false Term
  deriving DecidableEq, Repr

/-! ### Words -/

namespace Chain

variable {α β : Type} {tight : Bool}

/-- The row that the operators of a chain and the pieces behind them spell. -/
def spellRest (sign : Operator → β) (piece : α → List β) (rest : List (OperatorOf tight × α)) :
    List β :=
  rest.flatMap fun link => sign link.1 :: piece link.2

/-- The row that a chain spells, given what its operators and its pieces spell. -/
def spell (sign : Operator → β) (piece : α → List β) (c : Chain tight α) : List β :=
  piece c.first ++ spellRest sign piece c.rest

@[simp] theorem spellRest_nil (sign : Operator → β) (piece : α → List β) :
    spellRest sign piece ([] : List (OperatorOf tight × α)) = [] := rfl

@[simp] theorem spellRest_cons (sign : Operator → β) (piece : α → List β)
    (link : OperatorOf tight × α) (rest : List (OperatorOf tight × α)) :
    spellRest sign piece (link :: rest) =
      sign link.1 :: (piece link.2 ++ spellRest sign piece rest) := rfl

end Chain

/-- The characters of a term. -/
def Term.word (t : Term) : List Char := t.spell Operator.toChar Numeral.digits

/-- The characters of an expression. -/
def Expression.word (e : Expression) : List Char :=
  (e.sign.toList.map fun o => o.1.toChar) ++ e.terms.spell Operator.toChar Term.word

/-! ### Values -/

/-- The number that a numeral writes in base ten. -/
def Numeral.value (n : Numeral) : Nat := Nat.ofDigitChars 10 n.digits 0

/-- The number that a numeral writes, if it fits. -/
def Numeral.value? (n : Numeral) : Option Int := fit? n.value

namespace Chain

variable {α : Type} {tight : Bool}

/-- Carry out the operations of a chain from left to right, starting from a value. Every result has
to fit. -/
def carryOn (value? : α → Option Int) (start : Int) : List (OperatorOf tight × α) → Option Int
  | [] => some start
  | (o, piece) :: rest => do
    let right ← value? piece
    let left ← fit? (o.1.exact start right)
    carryOn value? left rest

end Chain

/-- The value of a term: its operations are carried out from left to right. -/
def Term.value? (t : Term) : Option Int := do
  let start ← t.first.value?
  Chain.carryOn Numeral.value? start t.rest

/-- A value with a sign in front of it. -/
def signed (sign : Option (OperatorOf false)) (n : Int) : Int :=
  match sign with
  | some ⟨.sub, _⟩ => -n
  | _ => n

/-- The value of an expression: the sign applies to the value of the whole first term, and then the
operations are carried out from left to right. -/
def Expression.value? (e : Expression) : Option Int := do
  let start ← e.terms.first.value?
  Chain.carryOn Term.value? (signed e.sign start) e.terms.rest

/-! ### Terms have no negative values -/

theorem Operator.exact_nonneg {o : Operator} {left right : Int} (ho : o.bindsTightly = true)
    (hl : 0 ≤ left) (hr : 0 ≤ right) : 0 ≤ o.exact left right := by
  cases o with
  | add => simp [Operator.bindsTightly] at ho
  | sub => simp [Operator.bindsTightly] at ho
  | mul => exact Int.mul_nonneg hl hr
  | div =>
    simp only [Operator.exact]
    split
    · decide
    · exact Int.tdiv_nonneg hl hr

theorem Numeral.value?_eq_some_iff {n : Numeral} {v : Int} :
    n.value? = some v ↔ InRange n.value ∧ (n.value : Int) = v :=
  fit?_eq_some_iff

private theorem carryOn_factors_nonneg {factors : List (OperatorOf true × Numeral)}
    {start v : Int} (hs : 0 ≤ start ∧ InRange start)
    (hv : Chain.carryOn Numeral.value? start factors = some v) : 0 ≤ v ∧ InRange v := by
  induction factors generalizing start with
  | nil => exact Option.some.inj hv ▸ hs
  | cons link factors ih =>
    obtain ⟨o, n⟩ := link
    simp only [Chain.carryOn, Option.bind_eq_bind, Option.bind_eq_some_iff,
      Numeral.value?_eq_some_iff, fit?_eq_some_iff] at hv
    obtain ⟨_, ⟨-, rfl⟩, _, ⟨hfit, rfl⟩, hrest⟩ := hv
    exact ih ⟨Operator.exact_nonneg o.2 hs.1 (Int.natCast_nonneg _), hfit⟩ hrest

/-- The value of a term is not negative. -/
theorem Term.value?_nonneg {t : Term} {v : Int} (h : t.value? = some v) : 0 ≤ v ∧ InRange v := by
  simp only [Term.value?, Option.bind_eq_bind, Option.bind_eq_some_iff,
    Numeral.value?_eq_some_iff] at h
  obtain ⟨_, ⟨hfit, rfl⟩, hrest⟩ := h
  exact carryOn_factors_nonneg ⟨Int.natCast_nonneg _, hfit⟩ hrest

end Arithmetic

end HiddenEquation
