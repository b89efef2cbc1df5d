import HiddenEquation.Keyboard
import Mathlib.Data.List.Basic
import Mathlib.Data.List.Induction

/-!
# The best colour of a symbol

A keyboard keeps one colour for each symbol. The colours that a symbol can have form a chain, so a
keyboard is described by saying which colours a symbol *reaches*: those that are not better than the
colour it has. Recording a guess adds to what was reached before the colours of the places that hold
the symbol, and nothing is ever taken away. In this form the guesses of a game can be added up, and
the colour of a symbol is read off from the colours that it reaches.

## Main definitions

* `Row.Awards` : a row on a guess gives a symbol a colour, or a better one.
* `Keyboard.Reaches` : a symbol has a colour, or a better one.
* `Keyboard.ofHistory` : the keyboard after guesses with their rows, starting from an empty one.

## Main results

* `Keyboard.reaches_ofHistory` : a symbol reaches the colours that some row has awarded to it.
* `Keyboard.color?_eq_grey_iff`, `Keyboard.color?_eq_orange_iff`, `Keyboard.color?_eq_green_iff` :
  the colour of a symbol, in terms of the colours that it reaches.
-/

namespace HiddenEquation

/-! ### The chain of colours -/

namespace Color

theorem grey_le (c : Color) : grey ≤ c := Nat.zero_le c.rank

theorem le_refl (c : Color) : c ≤ c := Nat.le_refl c.rank

theorem le_trans {a b c : Color} (hab : a ≤ b) (hbc : b ≤ c) : a ≤ c :=
  Nat.le_trans (m := b.rank) hab hbc

theorem le_antisymm {a b : Color} : a ≤ b → b ≤ a → a = b := by
  cases a <;> cases b <;> decide

theorem le_max_iff {c a b : Color} : c ≤ max a b ↔ c ≤ a ∨ c ≤ b := by
  cases c <;> cases a <;> cases b <;> decide

theorem orange_le_iff {c : Color} : orange ≤ c ↔ c = green ∨ c = orange := by
  cases c <;> decide

theorem green_le_iff {c : Color} : green ≤ c ↔ c = green := by
  cases c <;> decide

end Color

/-- A row on a guess gives a symbol a colour in some place, or a better one. -/
def Row.Awards (guess : Equation) (row : Row) (s : Symbol) (c : Color) : Prop :=
  ∃ earned ∈ guess.symbols.zip row.colors, earned.1 = s ∧ c ≤ earned.2

/-- A symbol is awarded the colours that are not better than that of a place that holds it. -/
theorem Row.awards_iff {guess : Equation} {row : Row} {s : Symbol} {c : Color} :
    row.Awards guess s c ↔
      ∃ best, (∃ i, guess.symbolAt? i = some s ∧ row.colors[i]? = some best) ∧ c ≤ best := by
  simp only [Row.Awards, List.mem_iff_getElem?, List.getElem?_zip_eq_some, Equation.symbolAt?]
  constructor
  · rintro ⟨⟨_, best⟩, hplace, rfl, hle⟩
    exact ⟨best, hplace, hle⟩
  · rintro ⟨best, hplace, hle⟩
    exact ⟨(s, best), hplace, rfl, hle⟩

theorem Equation.contains_iff {e : Equation} {s : Symbol} :
    e.contains s = true ↔ s ∈ e.symbols := List.contains_iff_mem

/-- Every symbol of a guess is awarded some colour. -/
theorem Row.awards_grey_iff {guess : Equation} {row : Row} {s : Symbol} :
    row.Awards guess s .grey ↔ s ∈ guess.symbols := by
  rw [← row.map_fst_zip_colors guess, List.mem_map]
  simp only [Row.Awards, Color.grey_le, and_true]

namespace Keyboard

/-- A symbol has a colour, or a better one. -/
def Reaches (k : Keyboard) (s : Symbol) (c : Color) : Prop :=
  ∃ best, k.color? s = some best ∧ c ≤ best

/-- The keyboard after guesses with their rows, starting from an empty one. -/
def ofHistory (history : List (Equation × Row)) : Keyboard :=
  history.foldl (fun k entry => k.record entry.1 entry.2) empty

variable {k : Keyboard} {s : Symbol} {c : Color}

/-! ### What is reached is added up -/

theorem not_reaches_empty : ¬empty.Reaches s c := by
  rintro ⟨best, hbest, -⟩
  cases hbest

theorem le_improve_iff {known : Option Color} {earned : Color} :
    c ≤ improve known earned ↔ (∃ best, known = some best ∧ c ≤ best) ∨ c ≤ earned := by
  cases known with
  | none => simp [improve]
  | some best => simp [improve, Color.le_max_iff]

theorem reaches_mark {other : Symbol} {earned : Color} :
    (k.mark other earned).Reaches s c ↔ k.Reaches s c ∨ other = s ∧ c ≤ earned := by
  by_cases hs : s = other
  · subst hs
    simp [Reaches, color?_mark, le_improve_iff]
  · simp [Reaches, color?_mark, hs, Ne.symm hs]

theorem reaches_foldl_mark {marks : List (Symbol × Color)} :
    (marks.foldl (fun k earned => k.mark earned.1 earned.2) k).Reaches s c ↔
      k.Reaches s c ∨ ∃ earned ∈ marks, earned.1 = s ∧ c ≤ earned.2 := by
  induction marks generalizing k with
  | nil => simp
  | cons earned marks ih =>
    rw [List.foldl_cons, ih, reaches_mark, or_assoc, List.exists_mem_cons_iff]

/-- Recording a guess adds the colours that its row awards. -/
theorem reaches_record {guess : Equation} {row : Row} :
    (k.record guess row).Reaches s c ↔ k.Reaches s c ∨ row.Awards guess s c :=
  reaches_foldl_mark

theorem ofHistory_concat (history : List (Equation × Row)) (guess : Equation) (row : Row) :
    ofHistory (history ++ [(guess, row)]) = (ofHistory history).record guess row := by
  rw [ofHistory, List.foldl_concat, ofHistory]

/-- A symbol reaches the colours that some row has awarded to it. -/
theorem reaches_ofHistory {history : List (Equation × Row)} :
    (ofHistory history).Reaches s c ↔ ∃ entry ∈ history, entry.2.Awards entry.1 s c := by
  induction history using List.reverseRecOn with
  | nil => exact iff_of_false not_reaches_empty (by simp)
  | append_singleton history entry ih =>
    rw [ofHistory_concat, reaches_record, ih]
    simp [or_and_right, exists_or]

/-! ### The colour is the best one reached -/

theorem color?_eq_none_iff : k.color? s = none ↔ ¬k.Reaches s .grey := by
  cases hs : k.color? s <;> simp [Reaches, hs, Color.grey_le]

theorem color?_eq_grey_iff :
    k.color? s = some .grey ↔ k.Reaches s .grey ∧ ¬k.Reaches s .orange := by
  rcases hs : k.color? s with _ | _ | _ | _ <;> simp [Reaches, hs] <;> decide

theorem color?_eq_orange_iff :
    k.color? s = some .orange ↔ k.Reaches s .orange ∧ ¬k.Reaches s .green := by
  rcases hs : k.color? s with _ | _ | _ | _ <;> simp [Reaches, hs] <;> decide

theorem color?_eq_green_iff : k.color? s = some .green ↔ k.Reaches s .green := by
  rcases hs : k.color? s with _ | _ | _ | _ <;> simp [Reaches, hs] <;> decide

/-- A symbol has no colour exactly if no guess of the history holds it. -/
theorem color?_ofHistory_eq_none_iff {history : List (Equation × Row)} :
    (ofHistory history).color? s = none ↔ ∀ entry ∈ history, s ∉ entry.1.symbols := by
  simp only [color?_eq_none_iff, reaches_ofHistory, Row.awards_grey_iff, not_exists, not_and]

end Keyboard

end HiddenEquation
