import HiddenEquation.Proofs.Feedback.Laws
import HiddenEquation.Proofs.Keyboard.Best

/-!
# What the keyboard tells about the target

One row can give several colours to the copies of a symbol: surplus copies are grey, whether or not
the symbol occurs in the target. The keyboard keeps the best colour, and that is never misleading.
If a guessed symbol occurs in the target, the laws of feedback give a colour other than grey to at
least one of its copies. So a symbol is grey on the keyboard only if the target does not hold it.

## Main definitions

* `Keyboard.ofGuesses` : the keyboard after guesses at one target.
* `Keyboard.Truthful` : each colour on a keyboard says what is true of the target.

## Main results

* `awards_feedback_orange_iff`, `awards_feedback_green_iff` : what the feedback on one guess awards.
* `Keyboard.truthful_ofGuesses` : after any guesses, the keyboard is truthful.
-/

namespace HiddenEquation

section Feedback

variable {guess target : Equation} {s : Symbol}

/-- Guess and target hold a symbol in the same place. -/
def Hits (guess target : Equation) (s : Symbol) : Prop :=
  ∃ i, guess.symbolAt? i = some s ∧ target.symbolAt? i = some s

/-- Some copy of a guessed symbol is not grey exactly if the target holds the symbol. -/
theorem awards_feedback_orange_iff :
    (feedback guess target).Awards guess s .orange ↔ s ∈ guess.symbols ∧ s ∈ target.symbols := by
  have hmatched := (lawful_feedback guess target).matched s
  calc (feedback guess target).Awards guess s .orange
      ↔ 0 < (guess.symbols.zip (feedback guess target).colors).countP
          fun p => p.1 = s ∧ (p.2 = .green ∨ p.2 = .orange) := by
        simp only [Row.Awards, Color.orange_le_iff, List.countP_pos_iff, decide_eq_true_eq]
    _ ↔ 0 < guess.symbols.count s ∧ 0 < target.symbols.count s := by
        rw [hmatched, Equation.count, Equation.count, Nat.lt_min]
    _ ↔ s ∈ guess.symbols ∧ s ∈ target.symbols := by
        rw [List.count_pos_iff, List.count_pos_iff]

/-- Some copy of a symbol is green exactly if guess and target hold it in the same place. -/
theorem awards_feedback_green_iff :
    (feedback guess target).Awards guess s .green ↔ Hits guess target s := by
  have hgreen := (lawful_feedback guess target).green_iff
  simp only [Row.Awards, Color.green_le_iff]
  constructor
  · rintro ⟨⟨_, _⟩, hmem, rfl, rfl⟩
    obtain ⟨i, hi⟩ := List.mem_iff_getElem?.mp hmem
    obtain ⟨hguess, hcolor⟩ := List.getElem?_zip_eq_some.mp hi
    have hlt : i < equationLength := by
      rw [← guess.length_symbols]
      exact (List.getElem?_eq_some_iff.mp hguess).1
    exact ⟨i, hguess, ((hgreen i hlt).mp hcolor).symm.trans hguess⟩
  · rintro ⟨i, hguess, htarget⟩
    have hlt : i < equationLength := by
      rw [← guess.length_symbols]
      exact (List.getElem?_eq_some_iff.mp hguess).1
    have hcolor := (hgreen i hlt).mpr (hguess.trans htarget.symm)
    exact ⟨(s, .green), List.mem_of_getElem? (List.getElem?_zip_eq_some.mpr ⟨hguess, hcolor⟩),
      rfl, rfl⟩

end Feedback

namespace Keyboard

/-- The keyboard after guesses at one target, starting from an empty one. -/
def ofGuesses (target : Equation) (guesses : List Equation) : Keyboard :=
  ofHistory (guesses.map fun guess => (guess, feedback guess target))

/-- The colour of each symbol says what is true of the guesses and the target. -/
structure Truthful (target : Equation) (guesses : List Equation) (k : Keyboard) : Prop where
  /-- A symbol has no colour exactly if no guess holds it. -/
  none_iff : ∀ s, k.color? s = none ↔ ∀ guess ∈ guesses, s ∉ guess.symbols
  /-- A guessed symbol is grey exactly if the target does not hold it. -/
  grey_iff : ∀ s, k.color? s = some .grey ↔
    (∃ guess ∈ guesses, s ∈ guess.symbols) ∧ s ∉ target.symbols
  /-- A guessed symbol is orange exactly if the target holds it, but where no guess has it. -/
  orange_iff : ∀ s, k.color? s = some .orange ↔
    (∃ guess ∈ guesses, s ∈ guess.symbols) ∧ s ∈ target.symbols ∧
      ¬∃ guess ∈ guesses, Hits guess target s
  /-- A symbol is green exactly if some guess has it where the target has it. -/
  green_iff : ∀ s, k.color? s = some .green ↔ ∃ guess ∈ guesses, Hits guess target s

variable {target : Equation} {guesses : List Equation} {s : Symbol}

theorem reaches_ofGuesses {c : Color} : (ofGuesses target guesses).Reaches s c ↔
    ∃ guess ∈ guesses, (feedback guess target).Awards guess s c := by
  simp only [ofGuesses, reaches_ofHistory, List.mem_map, exists_exists_and_eq_and]

theorem reaches_ofGuesses_grey :
    (ofGuesses target guesses).Reaches s .grey ↔ ∃ guess ∈ guesses, s ∈ guess.symbols := by
  simp only [reaches_ofGuesses, Row.awards_grey_iff]

theorem reaches_ofGuesses_orange : (ofGuesses target guesses).Reaches s .orange ↔
    (∃ guess ∈ guesses, s ∈ guess.symbols) ∧ s ∈ target.symbols := by
  simp only [reaches_ofGuesses, awards_feedback_orange_iff, ← and_assoc, exists_and_right]

theorem reaches_ofGuesses_green :
    (ofGuesses target guesses).Reaches s .green ↔ ∃ guess ∈ guesses, Hits guess target s := by
  simp only [reaches_ofGuesses, awards_feedback_green_iff]

/-- **The keyboard never lies about the target.** Whatever is guessed, each colour on the keyboard
says what is true of the target. In a row, a surplus copy of a symbol of the target is grey; on the
keyboard, a symbol is grey only if the target does not hold it. -/
theorem truthful_ofGuesses (target : Equation) (guesses : List Equation) :
    Truthful target guesses (ofGuesses target guesses) where
  none_iff := fun s => by
    rw [color?_eq_none_iff, reaches_ofGuesses_grey]
    simp
  grey_iff := fun s => by
    rw [color?_eq_grey_iff, reaches_ofGuesses_grey, reaches_ofGuesses_orange]
    exact and_congr_right fun hguessed => not_congr (and_iff_right hguessed)
  orange_iff := fun s => by
    rw [color?_eq_orange_iff, reaches_ofGuesses_orange, reaches_ofGuesses_green, and_assoc]
  green_iff := fun s => by
    rw [color?_eq_green_iff, reaches_ofGuesses_green]

/-- The third `1` of `1*1=1+0` is grey in the row, but `12+3=15` holds the symbol. -/
example :
    let guess : Equation :=
      ⟨[.digit 1, .operator .mul, .digit 1, .equals, .digit 1, .operator .add, .digit 0], rfl⟩
    let target : Equation :=
      ⟨[.digit 1, .digit 2, .operator .add, .digit 3, .equals, .digit 1, .digit 5], rfl⟩
    (feedback guess target).colors[4]? = some .grey ∧
      (ofGuesses target [guess]).color? (.digit 1) = some .green ∧
      (ofGuesses target [guess]).color? (.digit 0) = some .grey := by decide

end Keyboard

end HiddenEquation
