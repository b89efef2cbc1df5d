import HiddenEquation.Proofs.Feedback.Laws
import Mathlib.Data.List.Zip
import Mathlib.Data.Multiset.UnionInter

/-!
# The number of places of each colour

If guess and target change roles, the feedback is a different row in general, but it has as many
places of each colour. The two passes do not show this, because in the two rows they use up
different copies in a different order. What they leave behind does. The green places are those in
which the two equations agree, and the symbols of the places that are not grey are the symbols that
both equations have in common, each as often as the equation with fewer copies has it. Neither
depends on which of the two equations is the guess.

## Main definitions

* `agreeingPlaces` : the number of places in which two equations agree.
* `Row.matched` : the guessed symbols whose places are not grey.

## Main results

* `count_green_feedback` : the green places are those in which guess and target agree.
* `coe_matched_feedback` : the matched symbols are those that guess and target have in common.
* `feedback_counts_symmetric` : the numbers of colours do not depend on which equation is the guess.
-/

namespace HiddenEquation

/-- The number of places in which two equations agree. -/
def agreeingPlaces (e other : Equation) : Nat :=
  (e.symbols.zip other.symbols).countP fun p => p.1 = p.2

theorem agreeingPlaces_comm (e other : Equation) :
    agreeingPlaces e other = agreeingPlaces other e := by
  rw [agreeingPlaces, agreeingPlaces, ← List.zip_swap e.symbols, List.countP_map]
  exact List.countP_congr fun p _ => by simp [eq_comm]

namespace Row

/-- The guessed symbols whose places are not grey, from left to right. -/
def matched (row : Row) (guess : Equation) : List Symbol :=
  ((guess.symbols.zip row.colors).filter fun p => p.2 ≠ .grey).map Prod.fst

/-- Every place is green, orange or grey. -/
theorem count_add_count_add_count (row : Row) :
    row.count .green + row.count .orange + row.count .grey = equationLength := by
  have hcolors (colors : List Color) :
      colors.count .green + colors.count .orange + colors.count .grey = colors.length := by
    induction colors with
    | nil => rfl
    | cons c colors ih => cases c <;> simp <;> omega
  exact (hcolors row.colors).trans row.length_colors

/-- Every place is matched or grey. -/
theorem length_matched_add_count_grey (row : Row) (guess : Equation) :
    (row.matched guess).length + row.count .grey = equationLength := by
  have hmatched : (row.matched guess).length = row.colors.countP fun c => c ≠ .grey := by
    rw [matched, List.length_map, ← List.countP_eq_length_filter]
    conv_rhs => rw [← row.map_snd_zip_colors guess, List.countP_map]
    rfl
  have hsplit := row.colors.length_eq_countP_add_countP fun c => c ≠ .grey
  rw [row.length_colors] at hsplit
  rw [hmatched, hsplit, count, List.count]
  congr 1
  exact List.countP_congr fun c _ => by simp

/-- A symbol is matched as often as it has green and orange places. -/
theorem count_matched (row : Row) (guess : Equation) (s : Symbol) :
    (row.matched guess).count s =
      (guess.symbols.zip row.colors).countP
        fun p => p.1 = s ∧ (p.2 = .green ∨ p.2 = .orange) := by
  have hnot (c : Color) : c ≠ .grey ↔ c = .green ∨ c = .orange := by cases c <;> decide
  rw [matched, List.count, List.countP_map, List.countP_filter]
  exact List.countP_congr fun p _ => by simp [← hnot]

end Row

variable (guess target : Equation)

/-- The green places are those in which guess and target agree. -/
theorem count_green_feedback :
    (feedback guess target).count .green = agreeingPlaces guess target := by
  let row := feedback guess target
  have hgreen := Row.forall_places_green_iff.mpr (lawful_feedback guess target).green_iff
  rw [Row.count, ← row.map_color_places guess target, List.count, List.countP_map, agreeingPlaces,
    ← row.map_guessed_hidden_places guess target, List.countP_map]
  refine List.countP_congr fun p hp => ?_
  simpa [Place.Agrees] using hgreen p hp

/-- The matched symbols are those that guess and target have in common, with their copies. -/
theorem coe_matched_feedback :
    ((feedback guess target).matched guess : Multiset Symbol) =
      (guess.symbols : Multiset Symbol) ∩ target.symbols := by
  ext s
  rw [Multiset.count_inter, Multiset.coe_count, Multiset.coe_count, Multiset.coe_count,
    Row.count_matched]
  exact (lawful_feedback guess target).matched s

theorem length_matched_feedback_comm :
    ((feedback guess target).matched guess).length =
      ((feedback target guess).matched target).length := by
  rw [← Multiset.coe_card, ← Multiset.coe_card, coe_matched_feedback, coe_matched_feedback,
    Multiset.inter_comm]

/-- **The numbers of colours are symmetric.** For every two equations, the feedback on the first
with the second as target and the feedback on the second with the first as target have as many
green, as many orange and as many grey places. The rows themselves can differ. -/
theorem feedback_counts_symmetric :
    (∀ (a b : Equation) (c : Color), (feedback a b).count c = (feedback b a).count c) ∧
    ∃ a b, feedback a b ≠ feedback b a := by
  refine ⟨fun a b c => ?_, ?_⟩
  · have hgreen : (feedback a b).count .green = (feedback b a).count .green := by
      rw [count_green_feedback, count_green_feedback, agreeingPlaces_comm]
    have hgrey : (feedback a b).count .grey = (feedback b a).count .grey := by
      have hab := (feedback a b).length_matched_add_count_grey a
      have hba := (feedback b a).length_matched_add_count_grey b
      rw [length_matched_feedback_comm] at hab
      omega
    have hab := (feedback a b).count_add_count_add_count
    have hba := (feedback b a).count_add_count_add_count
    cases c with
    | green => exact hgreen
    | grey => exact hgrey
    | orange => omega
  · -- `12+3=15` and `1*1=1+0`, which the second pass colours in different places
    refine ⟨⟨[.digit 1, .digit 2, .operator .add, .digit 3, .equals, .digit 1, .digit 5], rfl⟩,
      ⟨[.digit 1, .operator .mul, .digit 1, .equals, .digit 1, .operator .add, .digit 0], rfl⟩, ?_⟩
    decide

end HiddenEquation
