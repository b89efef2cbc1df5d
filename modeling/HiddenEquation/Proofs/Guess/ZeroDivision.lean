import HiddenEquation.Proofs.Arithmetic.Operations
import HiddenEquation.Proofs.Arithmetic.ZeroDivision
import HiddenEquation.Proofs.Guess.Verdict

/-!
# Guesses that divide by zero

A guess is accepted if its two sides have one value, whatever the value stands for. Every division
by zero gives the greatest value, so two sides that divide by zero can balance. In a text of seven
characters they balance a side that does not divide by zero in one way only: the greatest value is
multiplied by zero, and the other side is zero. No other accepted text divides by zero on one side
alone.

## Main definitions

* `CancelsToZero` : one side is a digit divided by zero and multiplied by zero, and the other is
  zero.

## Main results

* `uneven_zero_division_iff` : the accepted texts in which one side alone divides by zero.
-/

namespace HiddenEquation.Guess

open Arithmetic

/-- One side is a digit divided by zero and multiplied by zero, and the other side is zero. -/
def CancelsToZero (text : String) : Prop :=
  ∃ c, c.isDigit = true ∧ (text.toList = [c, '/', '0', '*', '0', '=', '0'] ∨
    text.toList = ['0', '=', c, '/', '0', '*', '0'])

/-- The evaluation of a derived word divides by zero exactly if the derivation does. -/
theorem dividesByZero_word_iff {e : Expression} {v : Int} (hv : e.value? = some v) :
    DividesByZero (String.ofList e.word) ↔ e.DividesByZero := by
  rw [DividesByZero,
    operations_eq_steps (visible_ofList fun _ => isLegal_of_mem_word).symm hv]
  rfl

/-- Which sides of a text divide by zero can be read off their derivations. -/
theorem dividesByZero_sides_iff {text : String} {left right : Expression} {l r : Int}
    (htext : text.toList = left.word ++ '=' :: right.word) (hl : left.value? = some l)
    (hr : right.value? = some r) :
    (DividesByZero (sides text).1 ↔ left.DividesByZero) ∧
      (DividesByZero (sides text).2 ↔ right.DividesByZero) := by
  rw [sides_eq htext (equals_not_mem_word left)]
  exact ⟨dividesByZero_word_iff hl, dividesByZero_word_iff hr⟩

/-- Seven characters with a quotient sign are accepted if their sides have one value, whether or not
one side alone divides by zero. -/
theorem uneven_of_words {text : String} {left right : Expression} {v : Int}
    (hlen : text.toList.length = 7) (hslash : '/' ∈ text.toList)
    (htext : text.toList = left.word ++ '=' :: right.word) (hl : left.value? = some v)
    (hr : right.value? = some v) (huneven : ¬(left.DividesByZero ↔ right.DividesByZero)) :
    (∃ e, validate text = .ok e) ∧
      ¬(DividesByZero (sides text).1 ↔ DividesByZero (sides text).2) := by
  obtain ⟨hleft, hright⟩ := dividesByZero_sides_iff htext hl hr
  rw [hleft, hright]
  exact ⟨accepted_iff_words.mpr
    ⟨hlen, ⟨'/', hslash, Operator.toChar_mem .div⟩, left, right, v, htext, hl, hr⟩, huneven⟩

/-- **One side alone divides by zero in twenty accepted texts.** A text is accepted although one of
its sides divides by zero and the other does not exactly if it is a digit divided by zero and
multiplied by zero on one side, and zero on the other. In every other accepted text the left side
divides by zero exactly if the right side does. -/
theorem uneven_zero_division_iff (text : String) :
    ((∃ e, validate text = .ok e) ∧
      ¬(DividesByZero (sides text).1 ↔ DividesByZero (sides text).2)) ↔ CancelsToZero text := by
  constructor
  · rintro ⟨haccepted, huneven⟩
    obtain ⟨hlen, -, left, right, v, htext, hl, hr⟩ := accepted_iff_words.mp haccepted
    obtain ⟨hleft, hright⟩ := dividesByZero_sides_iff htext hl hr
    rw [hleft, hright] at huneven
    have hexact : left.exact = right.exact :=
      (Expression.value?_eq_some_iff.mp hl).2.2.trans
        (Expression.value?_eq_some_iff.mp hr).2.2.symm
    have hwords : left.word.length + right.word.length = 6 := by
      simp only [htext, List.length_append, List.length_cons] at hlen
      omega
    by_cases hdivides : left.DividesByZero
    · have hother : ¬right.DividesByZero := fun h => huneven ⟨fun _ => h, fun _ => hdivides⟩
      obtain ⟨c, hc, hl, hr⟩ := Expression.words_of_uneven hwords.le hexact hdivides hother
      exact ⟨c, hc, Or.inl (by rw [htext, hl, hr]; rfl)⟩
    · have hother : right.DividesByZero := by
        by_contra h
        exact huneven ⟨fun h' => absurd h' hdivides, fun h' => absurd h' h⟩
      obtain ⟨c, hc, hr, hl⟩ :=
        Expression.words_of_uneven (by omega) hexact.symm hother hdivides
      exact ⟨c, hc, Or.inr (by rw [htext, hl, hr]; rfl)⟩
  · rintro ⟨c, hc, htext | htext⟩
    · have hwords : text.toList = (zeroQuotientTimesZero c hc).word ++ '=' :: zeroDigit.word :=
        htext
      refine uneven_of_words (by simp [htext]) (by simp [htext]) hwords
        (value?_zeroQuotientTimesZero c hc) value?_zeroDigit fun h => ?_
      exact not_dividesByZero_zeroDigit (h.mp (dividesByZero_zeroQuotientTimesZero c hc))
    · have hwords : text.toList = zeroDigit.word ++ '=' :: (zeroQuotientTimesZero c hc).word :=
        htext
      refine uneven_of_words (by simp [htext]) (by simp [htext]) hwords
        value?_zeroDigit (value?_zeroQuotientTimesZero c hc) fun h => ?_
      exact not_dividesByZero_zeroDigit (h.mpr (dividesByZero_zeroQuotientTimesZero c hc))

/-- The greatest value times zero is zero, and so this text is accepted. -/
theorem zero_division_balances_zero : (∃ e, validate "8/0*0=0" = .ok e) ∧
    ¬(DividesByZero (sides "8/0*0=0").1 ↔ DividesByZero (sides "8/0*0=0").2) := by
  have hleft : operations (sides "8/0*0=0").1 = [⟨.div, 8, 0⟩, ⟨.mul, largest, 0⟩] := by rfl
  have hright : operations (sides "8/0*0=0").2 = [] := by rfl
  refine ⟨⟨_, rfl⟩, fun h => ?_⟩
  obtain ⟨s, hs, -⟩ := h.mp ⟨⟨.div, 8, 0⟩, by rw [hleft]; exact List.mem_cons_self, rfl, rfl⟩
  rw [hright] at hs
  cases hs

end HiddenEquation.Guess
