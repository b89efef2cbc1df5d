import HiddenEquation.Feedback

/-!
# The keyboard

A keyboard remembers for each symbol the best colour that it has earned since the keyboard was last
cleared. A symbol that has not been guessed has no colour.

## Main definitions

* `Keyboard` : the colour of each symbol, if it has one.
* `Keyboard.mark` : one symbol earns one colour.
* `Keyboard.record` : every symbol of a guess earns the colour of its place.
* `Keyboard.clear` : every colour is forgotten.
* `Keyboard.entries` : the coloured symbols in keyboard order.

## Main results

* `Keyboard.color?_mark` : what a symbol's colour is after one mark.
-/

namespace HiddenEquation

/-- The best colour of each symbol so far. -/
structure Keyboard where
  color? : Symbol → Option Color

namespace Keyboard

/-- No symbol has a colour. -/
def empty : Keyboard := ⟨fun _ => none⟩

/-- The better of a colour and one that may be known already. -/
def improve (known : Option Color) (c : Color) : Color :=
  match known with
  | none => c
  | some best => max best c

/-- A symbol earns a colour. -/
def mark (k : Keyboard) (s : Symbol) (c : Color) : Keyboard :=
  ⟨fun other => if other = s then some (improve (k.color? s) c) else k.color? other⟩

theorem color?_mark (k : Keyboard) (s other : Symbol) (c : Color) :
    (k.mark s c).color? other =
      if other = s then some (improve (k.color? s) c) else k.color? other := rfl

/-- Every symbol of a guess earns the colour of its place. -/
def record (k : Keyboard) (guess : Equation) (row : Row) : Keyboard :=
  (guess.symbols.zip row.colors).foldl (fun k earned => k.mark earned.1 earned.2) k

/-- Forget every colour. -/
def clear (_ : Keyboard) : Keyboard := empty

/-- The coloured symbols, each with its colour, in keyboard order. -/
def entries (k : Keyboard) : List (Symbol × Color) :=
  Symbol.all.filterMap fun s => (k.color? s).map fun c => (s, c)

/-- The number of coloured symbols. -/
def size (k : Keyboard) : Nat := Symbol.all.countP fun s => (k.color? s).isSome

/-- Whether no symbol has a colour. -/
def isEmpty (k : Keyboard) : Bool := k.size == 0

end Keyboard

end HiddenEquation
