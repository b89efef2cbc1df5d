import HiddenEquation.Feedback

/-!
# Painted text

Text on a terminal can be painted: an escape sequence before it sets the colour and the weight, and
another one after it resets them. Painting can be switched off as a whole, and then only the plain
text is left.

## Main definitions

* `Hue`, `Paint` : a colour, and a colour with a weight.
* `Paint.apply` : a text between the two escape sequences.
* `Piece` : a text with the paint it would have.
* `Color.paint` : the paint of a feedback colour.
* `paintGuess` : a guess painted in the colours of its row.
-/

namespace HiddenEquation

/-- The colours of painted text. -/
inductive Hue where
  | red
  | green
  | yellow
  | cyan
  | brightBlack
  | brightGreen
  | brightYellow
  | brightCyan
  | brightWhite
  /-- The orange with the components 255, 135 and 0. -/
  | orange
  deriving DecidableEq, Repr

/-- The number of a colour in an escape sequence. -/
def Hue.code : Hue → String
  | red => "31"
  | green => "32"
  | yellow => "33"
  | cyan => "36"
  | brightBlack => "90"
  | brightGreen => "92"
  | brightYellow => "93"
  | brightCyan => "96"
  | brightWhite => "97"
  | orange => "38;2;255;135;0"

/-- A colour and a weight. -/
structure Paint where
  hue : Hue
  bold : Bool := false
  deriving DecidableEq, Repr

namespace Paint

/-- The same colour in bold. -/
def strong (hue : Hue) : Paint := { hue, bold := true }

/-- The escape sequence that starts a paint. -/
def opening (p : Paint) : String :=
  "\x1b[" ++ (if p.bold then "1;" else "") ++ p.hue.code ++ "m"

/-- The escape sequence that ends every paint. -/
def closing : String := "\x1b[0m"

/-- A text between the escape sequences of a paint. An empty text is wrapped too. -/
def apply (p : Paint) (text : String) : String := p.opening ++ text ++ closing

end Paint

/-- A text and its paint, if it has one. -/
structure Piece where
  text : String
  paint : Option Paint := none
  deriving DecidableEq, Repr

namespace Piece

/-- A text without paint. -/
def plain (text : String) : Piece := { text := text }

/-- A painted text. -/
def painted (paint : Paint) (text : String) : Piece := { text, paint := some paint }

/-- The text of a piece on a terminal, with paint only if `color` is set. -/
def render (color : Bool) (piece : Piece) : String :=
  match piece.paint with
  | some paint => if color then paint.apply piece.text else piece.text
  | none => piece.text

/-- The text of some pieces one after another. -/
def renderAll (color : Bool) (pieces : List Piece) : String :=
  String.join (pieces.map (render color))

end Piece

/-- The paint of a feedback colour. -/
def Color.paint : Color → Paint
  | green => .strong .green
  | orange => .strong .orange
  | grey => { hue := .brightBlack }

/-- Each symbol of a guess in the colour of its place. -/
def paintGuess (guess : Equation) (row : Row) : List Piece :=
  (guess.symbols.zip row.colors).map fun earned =>
    .painted earned.2.paint earned.1.toChar.toString

end HiddenEquation
