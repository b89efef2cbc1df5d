import HiddenEquation.Screen.Lettering

/-!
# Frames

A frame is drawn around a panel, with a title in its upper edge.

## Main definitions

* `Border` : the glyphs of a frame.
* `framed` : a panel of a given size with a frame around it.
-/

namespace HiddenEquation

/-- The glyphs of a frame. -/
structure Border where
  topLeft : Char
  topRight : Char
  bottomLeft : Char
  bottomRight : Char
  horizontal : Char
  vertical : Char
  deriving DecidableEq, Repr

namespace Border

/-- Single lines with square corners. -/
def square : Border :=
  { topLeft := '┌', topRight := '┐', bottomLeft := '└', bottomRight := '┘'
    horizontal := '─', vertical := '│' }

/-- Single lines with round corners. -/
def rounded : Border :=
  { topLeft := '╭', topRight := '╮', bottomLeft := '╰', bottomRight := '╯'
    horizontal := '─', vertical := '│' }

/-- Double lines. -/
def double : Border :=
  { topLeft := '╔', topRight := '╗', bottomLeft := '╚', bottomRight := '╝'
    horizontal := '═', vertical := '║' }

end Border

/-- The upper edge of a frame: the title follows the left corner, as far as there is room. -/
def Border.top (b : Border) (style : Style) (title : String) (width : Nat) : Strip :=
  let heading := Strip.ofString style style width title
  Cell.ofChar style b.topLeft :: (heading ++
    List.replicate (width - heading.length) (Cell.ofChar style b.horizontal)
      ++ [Cell.ofChar style b.topRight])

/-- The lower edge of a frame. -/
def Border.bottom (b : Border) (style : Style) (width : Nat) : Strip :=
  Cell.ofChar style b.bottomLeft ::
    (List.replicate width (Cell.ofChar style b.horizontal) ++ [Cell.ofChar style b.bottomRight])

/-- A panel of the given outer size: a frame, and inside it as much of the content as fits. Frame
and empty cells have the same style. -/
def framed (b : Border) (style : Style) (title : String) (width height : Nat) (content : Panel) :
    Panel :=
  let side := Cell.ofChar style b.vertical
  let inner := Panel.fit style (width - 2) (height - 2) content
  b.top style title (width - 2) ::
    (inner.map (fun strip => side :: (strip ++ [side])) ++ [b.bottom style (width - 2)])

end HiddenEquation
