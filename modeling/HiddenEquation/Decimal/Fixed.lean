/-!
# Decimals with a fixed number of places

A finite floating-point number is exactly a whole number times a power of two. Its decimal with a
given number of places is the nearest one to that exact value; of two equally near ones, the one
whose last digit is even.

## Main definitions

* `Binary`, `Binary.ofFloat?` : the exact value of a finite floating-point number.
* `roundDiv` : a quotient rounded to the nearest whole number, halves to the even one.
* `Binary.scaled` : the exact value times a power of ten, rounded.
* `fixed` : the decimal as text.
-/

namespace HiddenEquation.Decimal

/-- A number `± mantissa * 2 ^ exponent`. -/
structure Binary where
  negative : Bool
  mantissa : Nat
  exponent : Int
  deriving DecidableEq, Repr

/-- The exact value that the bits of a finite floating-point number stand for. -/
def Binary.ofBits? (bits : Nat) : Option Binary :=
  let hidden := Nat.pow 2 52
  let negative := bits / Nat.pow 2 63 % 2 == 1
  let biased := bits / hidden % 2048
  let fraction := bits % hidden
  if biased = 2047 then none
  else if biased = 0 then some { negative, mantissa := fraction, exponent := -1074 }
  else some { negative, mantissa := hidden + fraction, exponent := Int.subNatNat biased 1075 }

/-- The exact value of a finite floating-point number. -/
def Binary.ofFloat? (x : Float) : Option Binary := ofBits? x.toBits.toNat

/-- The whole number nearest to `num / den`; of two equally near ones, the even one. -/
def roundDiv (num den : Nat) : Nat :=
  let q := num / den
  let r := num % den
  if 2 * r < den then q
  else if den < 2 * r then q + 1
  else q + q % 2

/-- The magnitude of a number times `10 ^ places`, rounded to a whole number. -/
def Binary.scaled (b : Binary) (places : Nat) : Nat :=
  let shifted := b.mantissa * Nat.pow 10 places
  if 0 ≤ b.exponent then shifted * Nat.pow 2 b.exponent.toNat
  else roundDiv shifted (Nat.pow 2 (-b.exponent).toNat)

/-- A text with zeros put in front until it has the given length. -/
def padZeros (width : Nat) (text : String) : String :=
  String.ofList (List.replicate (width - text.length) '0') ++ text

/-- The decimal with the given number of places. -/
def Binary.fixed (b : Binary) (places : Nat) : String :=
  let n := b.scaled places
  let unit := Nat.pow 10 places
  let whole := toString (n / unit)
  let digits := if places = 0 then whole
    else whole ++ "." ++ padZeros places (toString (n % unit))
  if b.negative then "-" ++ digits else digits

/-- The decimal of a floating-point number with the given number of places. Numbers that are not
finite have none, and are named. -/
def fixed (places : Nat) (x : Float) : String :=
  match Binary.ofFloat? x with
  | some b => b.fixed places
  | none => if x.isNaN then "NaN" else if x < 0 then "-inf" else "inf"

/-- Part of a whole in percent. Nothing is no part of nothing. -/
def percent (part whole : Nat) : Float :=
  if whole = 0 then 0
  else (UInt64.ofNat part).toFloat / (UInt64.ofNat whole).toFloat * 100

end HiddenEquation.Decimal
