/-!
# Lines of a text

A line ends at a line feed. A text that ends with a line feed has no further, empty line after it,
so every line but perhaps the last is terminated.

## Main definitions

* `splitAfter` : cut a list after each element that satisfies a test.
* `lines` : the lines of a text, without their line feeds and without one carriage return before
  each line feed.

## Main results

* `flatten_splitAfter` : cutting loses nothing.
-/

namespace HiddenEquation.Text

variable {α : Type}

/-- Cut a list after each element that ends a piece. No piece is empty. -/
def splitAfter (ends : α → Bool) : List α → List (List α)
  | [] => []
  | x :: rest =>
    if ends x then [x] :: splitAfter ends rest
    else
      match splitAfter ends rest with
      | [] => [[x]]
      | piece :: pieces => (x :: piece) :: pieces

theorem flatten_splitAfter (ends : α → Bool) (xs : List α) :
    (splitAfter ends xs).flatten = xs := by
  induction xs with
  | nil => rfl
  | cons x rest ih =>
    rw [splitAfter]
    split
    · simp [ih]
    · split <;> simp_all

/-- A piece without its line feed, and without one carriage return before that line feed. -/
def dropLineEnd (piece : List Char) : List Char :=
  if piece.getLast? = some '\n' then
    let body := piece.dropLast
    if body.getLast? = some '\r' then body.dropLast else body
  else piece

/-- The lines of a text, in order. -/
def lines (text : String) : List String :=
  (splitAfter (· == '\n') text.toList).map fun piece => String.ofList (dropLineEnd piece)

end HiddenEquation.Text
