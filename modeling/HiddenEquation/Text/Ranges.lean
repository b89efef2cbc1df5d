/-!
# Ranges of code points

A class of characters is given by the closed ranges of the code points that it holds, in increasing
order.

## Main definitions

* `inRanges` : membership of a character in such a class.
-/

namespace HiddenEquation.Text

/-- Whether the code point of a character lies in one of the closed ranges. -/
def inRanges (ranges : List (Nat × Nat)) (c : Char) : Bool :=
  ranges.any fun range => range.1 ≤ c.toNat && c.toNat ≤ range.2

end HiddenEquation.Text
