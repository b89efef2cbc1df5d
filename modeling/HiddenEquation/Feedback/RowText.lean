import HiddenEquation.Feedback

/-!
# Rows as text

A row is written with seven squares. It is read from seven characters, each of which may be a square
or one of the plain characters that stand for the same colour: `G g`, `O o`, `- _`.

## Main definitions

* `Row.emoji` : the row as seven squares.
* `Row.fill` : the colours that characters name, as long as there are places for them.
* `Row.ofString?`, `Row.ofString` : the row that a text names, if it names one.
* `Row.unreadable` : the wording for a text that names none.
-/

namespace HiddenEquation

namespace Color

/-- The English name of a colour. -/
def label : Color → String
  | grey => "Grey"
  | orange => "Orange"
  | green => "Green"

/-- The square of a colour. -/
def square : Color → Char
  | green => '🟩'
  | orange => '🟧'
  | grey => '⬜'

/-- The colour that a character names. -/
def ofChar? : Char → Option Color
  | 'G' | 'g' | '🟩' => some green
  | 'O' | 'o' | '🟧' => some orange
  | '-' | '_' | '⬜' => some grey
  | _ => none

end Color

namespace Row

/-- The row as seven squares. -/
def emoji (row : Row) : String := String.ofList (row.colors.map Color.square)

/-- Colour the places from left to right, behind those that are filled. Reading stops at a character
for which no place is left, and at a character that names no colour. -/
def fill (filled : List Color) : List Char → Option (List Color)
  | [] => some filled
  | ch :: rest =>
    if filled.length < equationLength then
      match Color.ofChar? ch with
      | none => none
      | some c => fill (filled ++ [c]) rest
    else none

/-- The row that a text names, if it fills every place. -/
def ofString? (text : String) : Option Row :=
  match fill [] text.toList with
  | none => none
  | some colors =>
    if h : colors.length = equationLength then some ⟨colors, h⟩ else none

/-- The wording for a text that names no row. -/
def unreadable (text : String) : String := "Invalid feedback string: " ++ text

/-- The row that a text names, or what is wrong with the text. -/
def ofString (text : String) : Except String Row :=
  match ofString? text with
  | some row => .ok row
  | none => .error (unreadable text)

end Row

end HiddenEquation
