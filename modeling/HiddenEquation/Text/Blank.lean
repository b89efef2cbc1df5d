import HiddenEquation.Text.Ranges

/-!
# Blank characters

A character is blank if Unicode gives it the property `White_Space`. The property holds of
twenty-five characters. Blank characters are ignored inside an expression, and they are cut from
both ends of a line.

## Main definitions

* `blankRanges` : the code points of the property, as closed ranges in increasing order.
* `isBlank` : membership in those ranges.
* `trim` : a text without the blank characters at its two ends.
-/

namespace HiddenEquation.Text

/-- The code points with the property `White_Space`, as closed ranges in increasing order. -/
def blankRanges : List (Nat × Nat) :=
  [(0x09, 0x0D), (0x20, 0x20), (0x85, 0x85), (0xA0, 0xA0), (0x1680, 0x1680), (0x2000, 0x200A),
    (0x2028, 0x2029), (0x202F, 0x202F), (0x205F, 0x205F), (0x3000, 0x3000)]

/-- A character is blank if its code point lies in one of the ranges of `White_Space`. -/
def isBlank (c : Char) : Bool := inRanges blankRanges c

/-- Drop the blank characters at both ends. -/
def trimChars (text : List Char) : List Char :=
  ((text.dropWhile isBlank).reverse.dropWhile isBlank).reverse

/-- A text without the blank characters at its two ends. -/
def trim (text : String) : String := String.ofList (trimChars text.toList)

end HiddenEquation.Text
