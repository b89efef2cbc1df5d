/-!
# Cells of a screen

A screen is a grid of cells. A cell shows a text in a style. A text that takes two columns lies in
the left one of two cells and covers the cell to its right.

## Main definitions

* `Ink`, `Style` : the colours of a cell and its weight.
* `Cell`, `Strip`, `Panel` : a cell, a row of cells, and rows from top to bottom.
* `Strip.fit`, `Strip.center` : a strip brought to a given width.
* `Strip.seen`, `Strip.text`, `Strip.runs` : what a strip shows, and in which styles.
* `Panel.fit`, `Panel.stack`, `Panel.beside` : panels brought to a size and put together.
-/

namespace HiddenEquation

/-- The colours of a screen. -/
inductive Ink where
  /-- The terminal's own colour. -/
  | default
  | black
  | white
  | green
  | red
  | cyan
  | yellow
  | darkGray
  | orange
  deriving DecidableEq, Repr

/-- The name of a colour; orange is named by its components. -/
def Ink.name : Ink → String
  | default => "Reset"
  | black => "Black"
  | white => "White"
  | green => "Green"
  | red => "Red"
  | cyan => "Cyan"
  | yellow => "Yellow"
  | darkGray => "DarkGray"
  | orange => "#FF8700"

/-- The colours of a cell and its weight. -/
structure Style where
  foreground : Ink := .default
  background : Ink := .default
  bold : Bool := false
  deriving DecidableEq, Repr

namespace Style

/-- The style of a cell on which nothing was drawn. -/
def plain : Style := {}

/-- The name of a style. -/
def name (s : Style) : String :=
  s.foreground.name ++ " " ++ s.background.name ++ " " ++ if s.bold then "BOLD" else "NONE"

end Style

/-- One cell of a screen. -/
structure Cell where
  /-- What is written in the cell. -/
  text : String
  style : Style
  /-- Whether the text reaches over the cell to the right, whose own text is then not seen. -/
  wide : Bool := false
  deriving DecidableEq, Repr

/-- A cell with one narrow character. -/
def Cell.ofChar (style : Style) (c : Char) : Cell := { text := c.toString, style }

/-- An empty cell in a style. -/
def Cell.blank (style : Style) : Cell := Cell.ofChar style ' '

/-- A row of cells from left to right. -/
abbrev Strip := List Cell

/-- Rows of cells from top to bottom. -/
abbrev Panel := List Strip

namespace Strip

/-- Empty cells in a style. -/
def blank (style : Style) (width : Nat) : Strip := List.replicate width (Cell.blank style)

/-- A strip of exactly the given width: what is too long is cut off, and what is missing is filled
up with empty cells on the right. -/
def fit (fill : Style) (width : Nat) (strip : Strip) : Strip :=
  strip.take width ++ blank fill (width - strip.length)

/-- A strip that was fitted has the width it was fitted to. -/
theorem length_fit (fill : Style) (width : Nat) (strip : Strip) :
    (fit fill width strip).length = width := by
  simp only [fit, blank, List.length_append, List.length_take, List.length_replicate]
  omega

/-- A strip in the middle of the given width. An odd rest puts the wider margin on the right; a
strip that is too wide starts at the left. -/
def center (fill : Style) (width : Nat) (strip : Strip) : Strip :=
  fit fill width (blank fill ((width - strip.length) / 2) ++ strip)

/-- The cells that are seen, given whether the first one is covered by a cell before it. -/
def seenAfter (covered : Bool) : Strip → List Cell
  | [] => []
  | cell :: rest =>
    if covered then seenAfter false rest else cell :: seenAfter cell.wide rest

/-- The cells that are not covered by the one to their left. -/
def seen (strip : Strip) : List Cell := seenAfter false strip

/-- The text that a strip shows, without the blanks at its right end. -/
def text (strip : Strip) : String :=
  let shown := (String.join (strip.seen.map Cell.text)).toList
  String.ofList ((shown.reverse.dropWhile (· == ' ')).reverse)

/-- A stretch of neighbouring cells of one style, with its first column and the column after its
last. -/
structure Run where
  first : Nat
  last : Nat
  style : Style
  deriving DecidableEq, Repr

/-- The stretches of equal style of a strip that starts at the given column. -/
def runsFrom (column : Nat) : Strip → List Run
  | [] => []
  | cell :: rest =>
    match runsFrom (column + 1) rest with
    | run :: runs =>
      if run.style = cell.style then { run with first := column } :: runs
      else { first := column, last := column + 1, style := cell.style } :: run :: runs
    | [] => [{ first := column, last := column + 1, style := cell.style }]

/-- The stretches of a strip that are not in the plain style. -/
def runs (strip : Strip) : List Run := (runsFrom 0 strip).filter fun run => run.style ≠ Style.plain

/-- A stretch as text: its columns and its style. -/
def Run.text (run : Run) : String :=
  toString run.first ++ "-" ++ toString run.last ++ " " ++ run.style.name

end Strip

namespace Panel

/-- The texts of the rows. -/
def rows (panel : Panel) : List String := panel.map Strip.text

/-- The styled stretches of each row, as text. -/
def styles (panel : Panel) : List (List String) :=
  panel.map fun strip => strip.runs.map Strip.Run.text

/-- Exactly the given number of rows, each of the given width, filled up with empty ones below. -/
def fit (fill : Style) (width height : Nat) (panel : Panel) : Panel :=
  ((panel.take height).map (Strip.fit fill width))
    ++ List.replicate (height - panel.length) (Strip.blank fill width)

/-- A panel with fitted rows has the height it was fitted to. -/
theorem length_fit (fill : Style) (width height : Nat) (panel : Panel) :
    (fit fill width height panel).length = height := by
  simp only [fit, List.length_append, List.length_map, List.length_take, List.length_replicate]
  omega

/-- Panels one below another, up to the first one that no longer fits whole into the height. -/
def stack (height : Nat) : List Panel → Panel
  | [] => []
  | panel :: rest =>
    if panel.length ≤ height then panel ++ stack (height - panel.length) rest else []

/-- A stack is no higher than the height it was made for. -/
theorem length_stack_le (height : Nat) (panels : List Panel) :
    (stack height panels).length ≤ height := by
  induction panels generalizing height with
  | nil => exact Nat.zero_le height
  | cons panel rest ih =>
    rw [stack]
    split
    · have := ih (height - panel.length)
      rw [List.length_append]
      omega
    · exact Nat.zero_le height

/-- Two panels side by side. -/
def beside (left right : Panel) : Panel := List.zipWith (· ++ ·) left right

end Panel

end HiddenEquation
