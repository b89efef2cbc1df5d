import HiddenEquation.Screen.Cell

/-!
# Drawing on a terminal

A panel is drawn row by row. The style is set by an escape sequence wherever it changes.

## Main definitions

* `Style.sequence` : the escape sequence that sets a style.
* `Panel.draw` : the text that draws a panel from the upper left corner of a terminal.
-/

namespace HiddenEquation

/-- The number of a colour of texts in an escape sequence. -/
def Ink.foregroundCode : Ink → String
  | default => "39"
  | black => "30"
  | white => "97"
  | green => "32"
  | red => "31"
  | cyan => "36"
  | yellow => "33"
  | darkGray => "90"
  | orange => "38;2;255;135;0"

/-- The number of a colour behind texts in an escape sequence. -/
def Ink.backgroundCode : Ink → String
  | default => "49"
  | black => "40"
  | white => "107"
  | green => "42"
  | red => "41"
  | cyan => "46"
  | yellow => "43"
  | darkGray => "100"
  | orange => "48;2;255;135;0"

/-- The escape sequence that sets a style. -/
def Style.sequence (s : Style) : String :=
  "\x1b[0;" ++ (if s.bold then "1;" else "") ++ s.foreground.foregroundCode ++ ";"
    ++ s.background.backgroundCode ++ "m"

/-- The text that draws cells, given the style that is set before them. -/
def Cell.drawFrom (current : Option Style) : List Cell → String
  | [] => ""
  | cell :: rest =>
    (if current = some cell.style then "" else cell.style.sequence)
      ++ cell.text ++ drawFrom (some cell.style) rest

/-- The text that draws a panel from the upper left corner of a terminal. -/
def Panel.draw (panel : Panel) : String :=
  "\x1b[H" ++
    String.intercalate "\r\n" (panel.map fun strip => Cell.drawFrom none strip.seen) ++ "\x1b[0m"

end HiddenEquation
