/-!
# Symbols of an equation

An equation is written with fifteen symbols: the ten digits, the four operators and the equals
sign. This file names them, fixes the order in which a keyboard shows them, and relates each symbol
to the one character that writes it.

## Main definitions

* `Operator`, `Symbol` : the four operators and the fifteen symbols.
* `Symbol.all` : every symbol once, in keyboard order `0123456789+-*/=`.
* `Symbol.toChar`, `Symbol.ofChar?` : the character of a symbol, and the symbol of a character.

## Main results

* `Symbol.ofChar?_toChar` : a symbol is read back from its character.
* `Symbol.ofChar?_eq_some_iff` : a character stands for a symbol exactly if it is that symbol's
  character.
-/

namespace HiddenEquation

/-- The four arithmetic operators. -/
inductive Operator where
  | add
  | sub
  | mul
  | div
  deriving DecidableEq, Repr

namespace Operator

/-- The operators in keyboard order. -/
def all : List Operator := [.add, .sub, .mul, .div]

/-- The character that writes an operator. -/
def toChar : Operator → Char
  | .add => '+'
  | .sub => '-'
  | .mul => '*'
  | .div => '/'

/-- The operator that a character writes, if it writes one. -/
def ofChar? (c : Char) : Option Operator := all.find? fun o => o.toChar == c

/-- An operator binds tightly if it is applied before every sum and difference. -/
def bindsTightly : Operator → Bool
  | .mul | .div => true
  | .add | .sub => false

theorem mem_all (o : Operator) : o ∈ all := by
  cases o <;> decide

theorem ofChar?_toChar (o : Operator) : ofChar? o.toChar = some o := by
  cases o <;> decide

theorem ofChar?_eq_some_iff {c : Char} {o : Operator} : ofChar? c = some o ↔ c = o.toChar := by
  constructor
  · intro h
    exact (beq_iff_eq.mp (List.find?_some (p := fun o : Operator => o.toChar == c) h)).symm
  · rintro rfl
    exact ofChar?_toChar o

end Operator

/-- A symbol of the alphabet in which equations are written. -/
inductive Symbol where
  | digit (value : Fin 10)
  | operator (op : Operator)
  | equals
  deriving DecidableEq, Repr

namespace Symbol

/-- The digits in increasing order. -/
def digits : List Symbol := (List.finRange 10).map digit

/-- The operators in keyboard order, then the equals sign. -/
def signs : List Symbol := Operator.all.map operator ++ [equals]

/-- Every symbol once, in keyboard order. -/
def all : List Symbol := digits ++ signs

/-- The character that writes a symbol. -/
def toChar : Symbol → Char
  | digit d => Nat.digitChar d
  | operator o => o.toChar
  | equals => '='

/-- The symbol that a character writes, if it belongs to the alphabet. -/
def ofChar? (c : Char) : Option Symbol := all.find? fun s => s.toChar == c

theorem mem_all (s : Symbol) : s ∈ all := by
  match s with
  | digit d => revert d; decide
  | operator o => cases o <;> decide
  | equals => decide

theorem ofChar?_toChar (s : Symbol) : ofChar? s.toChar = some s := by
  match s with
  | digit d => revert d; decide
  | operator o => cases o <;> decide
  | equals => decide

theorem ofChar?_eq_some_iff {c : Char} {s : Symbol} : ofChar? c = some s ↔ c = s.toChar := by
  constructor
  · intro h
    exact (beq_iff_eq.mp (List.find?_some (p := fun s : Symbol => s.toChar == c) h)).symm
  · rintro rfl
    exact ofChar?_toChar s

theorem toChar_inj {s other : Symbol} : s.toChar = other.toChar ↔ s = other := by
  rw [← ofChar?_eq_some_iff, ofChar?_toChar, Option.some.injEq]

end Symbol

end HiddenEquation
