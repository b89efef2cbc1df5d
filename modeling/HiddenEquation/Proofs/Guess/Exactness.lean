import HiddenEquation.Guess
import HiddenEquation.Proofs.Arithmetic.IntegerValue

/-!
# Guesses are evaluated exactly

A guess has seven characters, so each of its sides is short enough for the bound of eighteen
characters. Arithmetic in 64 bits is therefore exact on both sides, unless something is divided by
zero, and a side that has the value of a division by zero has carried one out.

## Main results

* `exact_without_zero_division` : evaluation is exact up to eighteen characters, and with it the
  balance of the two sides of a guess.
-/

namespace HiddenEquation.Guess

open Arithmetic

theorem length_visible_le (text : String) : (visible text).length ≤ text.toList.length :=
  List.length_filter_le _ _

/-- Both sides together have at most the characters of the text. -/
theorem length_sides_le (text : String) :
    (sides text).1.toList.length + (sides text).2.toList.length ≤ text.toList.length := by
  have hsplit := congrArg List.length
    (List.takeWhile_append_dropWhile (p := (· != '=')) (l := text.toList))
  rw [List.length_append] at hsplit
  simp only [sides, String.toList_ofList, List.length_drop]
  omega

/-- The balance of two sides that have values. -/
theorem balance_of_evaluate {text : String} {l r : Int} (hl : evaluate (sides text).1 = .ok l)
    (hr : evaluate (sides text).2 = .ok r) : balance text = .ok (l, r) := by
  rw [balance, hl, hr]
  rfl

/-- **Evaluation is exact where nothing is divided by zero.** A text of at most eighteen visible
characters that divides nothing by zero does not overflow, and if it is well formed, its value is
the one over the integers and no sentinel. The sides of a text of seven characters are so short:
they balance as the integers do, and a side has the value of a division by zero only if it divides
by zero. -/
theorem exact_without_zero_division :
    (∀ text : String, (visible text).length ≤ 18 → ExactWithoutZeroDivision text) ∧
    ∀ text : String, text.toList.length = 7 →
      (∀ side, side = (sides text).1 ∨ side = (sides text).2 → ExactWithoutZeroDivision side ∧
        (evaluate side = .ok undefinedValue → DividesByZero side)) ∧
      ∀ left right : Expression, left.word = visible (sides text).1 →
        right.word = visible (sides text).2 →
        ¬DividesByZero (sides text).1 → ¬DividesByZero (sides text).2 →
        balance text = .ok (left.integer, right.integer) := by
  refine ⟨fun text => exactWithoutZeroDivision_of_length_le, fun text hlen => ?_⟩
  have hsides := length_sides_le text
  have hleft : (visible (sides text).1).length ≤ 18 :=
    (length_visible_le _).trans (by omega)
  have hright : (visible (sides text).2).length ≤ 18 :=
    (length_visible_le _).trans (by omega)
  refine ⟨?_, fun left right hl hr hnoleft hnoright => ?_⟩
  · rintro side (rfl | rfl)
    · exact ⟨exactWithoutZeroDivision_of_length_le hleft,
        dividesByZero_of_evaluate_eq_undefinedValue hleft⟩
    · exact ⟨exactWithoutZeroDivision_of_length_le hright,
        dividesByZero_of_evaluate_eq_undefinedValue hright⟩
  · have hexact := (exactWithoutZeroDivision_of_length_le hleft hnoleft).2.2 left hl
    have hexact' := (exactWithoutZeroDivision_of_length_le hright hnoright).2.2 right hr
    exact balance_of_evaluate hexact.1 hexact'.1

/-- Eighteen characters are evaluated exactly, and so are the sides of a guess. -/
theorem exact_eighteen_characters :
    evaluate "999999999*99999999" = .ok 99999998900000001 ∧
    evaluate "1+*9999999999999/7" ≠ .error .overflow ∧
    balance "-7/2=-3" = .ok (-3, -3) ∧
    (evaluate (sides "8/0=9/0").1 = .ok undefinedValue ∧ DividesByZero (sides "8/0=9/0").1) := by
  refine ⟨?_, ?_, ?_, ?_⟩
  · have hvalue := (exact_without_zero_division.1 "999999999*99999999" (by decide +kernel)
      (by decide +kernel)).2.2 ⟨none,
        ⟨⟨⟨"999999999".toList, by decide, List.all_eq_true.mp (by decide +kernel)⟩,
          [(⟨.mul, rfl⟩,
            ⟨"99999999".toList, by decide, List.all_eq_true.mp (by decide +kernel)⟩)]⟩, []⟩⟩
      (by decide +kernel)
    exact hvalue.1.trans (congrArg Except.ok (by decide +kernel))
  · exact (exact_without_zero_division.1 _ (by decide +kernel) (by decide +kernel)).1
  · have hvalue := (exact_without_zero_division.2 "-7/2=-3" (by decide)).2
      ⟨some ⟨.sub, rfl⟩, ⟨.single '7' rfl, [(⟨.div, rfl⟩, .single '2' rfl)]⟩, []⟩
      ⟨some ⟨.sub, rfl⟩, ⟨.single '3' rfl, []⟩, []⟩
      (by decide +kernel) (by decide +kernel) (by decide +kernel) (by decide +kernel)
    exact hvalue.trans (congrArg Except.ok (by decide +kernel))
  · have hvalue : evaluate (sides "8/0=9/0").1 = .ok undefinedValue := by decide +kernel
    exact ⟨hvalue, ((exact_without_zero_division.2 "8/0=9/0" (by decide)).1 _
      (Or.inl rfl)).2 hvalue⟩

end HiddenEquation.Guess
