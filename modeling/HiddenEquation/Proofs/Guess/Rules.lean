import HiddenEquation.Guess
import HiddenEquation.Proofs.Arithmetic.Shape
import HiddenEquation.Proofs.Arithmetic.Steps
import Mathlib.Data.Set.List

/-!
# The rules for guesses

This file says in terms of characters and derivations what it means for a text to break a rule.
Nothing here refers to how a text is checked. A rule is named by the rejection that reports it, and
the rules are numbered in the order in which they are tried. The rules about form are then compared
with the checks for them.

## Main definitions

* `Rejection.rank` : the number of a rule.
* `SideFails` : why a side of an equation has no value.
* `Breaks` : a text breaks a rule.
* `KeepsBefore` : a text keeps all the rules before a given one.

## Main results

* `judgesForm_checkForm` : the checks on form report the first rule about form that is broken.
-/

namespace HiddenEquation

/-- The number of the rule that a rejection reports. -/
def Rejection.rank : Rejection → Nat
  | wrongLength => 1
  | missingEquals => 2
  | missingOperator => 3
  | consecutiveOperators => 4
  | illegalCharacter => 5
  | calculation => 6
  | sidesDiffer => 7

theorem Rejection.rank_injective : Function.Injective rank := by
  intro r r' h
  cases r <;> cases r' <;> first | rfl | cases h

theorem Rejection.rank_le (r : Rejection) : r.rank ≤ sidesDiffer.rank := by
  cases r <;> decide

namespace Guess

open Arithmetic

/-! ### The rules -/

/-- The characters of the alphabet. -/
def IsLegal (c : Char) : Prop := c.isDigit = true ∨ c ∈ operatorChars ∨ c = '='

instance : DecidablePred IsLegal := fun c =>
  inferInstanceAs (Decidable (c.isDigit = true ∨ c ∈ operatorChars ∨ c = '='))

/-- A side of an equation fails if it is empty, if a product or quotient sign leads it, if an
operator ends it, or if it divides by zero and then leaves the range of values. -/
def SideFails (side : List Char) : Prop :=
  Dangling side ∨ ∃ e : Expression, e.word = side ∧ e.LeavesRangeAfterZeroDivision

/-- What breaks the rule that a rejection reports. The values of two sides are compared as exact
values, with truncated quotients and the greatest value for every division by zero. -/
def Breaks (text : String) : Rejection → Prop
  | .wrongLength => text.toList.length ≠ 7
  | .missingEquals => '=' ∉ text.toList
  | .missingOperator => ∀ c ∈ text.toList, c ∉ operatorChars
  | .consecutiveOperators => ∃ before a b after, text.toList = before ++ a :: b :: after ∧
      a ∈ operatorChars ∧ b ∈ operatorChars
  | .illegalCharacter => ∃ c ∈ text.toList, ¬IsLegal c
  | .calculation => 2 ≤ text.toList.count '=' ∨
      ∃ left right, text.toList = left ++ '=' :: right ∧ '=' ∉ left ∧ '=' ∉ right ∧
        (SideFails left ∨ SideFails right)
  | .sidesDiffer => ∃ left right : Expression,
      text.toList = left.word ++ '=' :: right.word ∧ left.exact ≠ right.exact

/-- The text breaks no rule that comes before the given one. -/
def KeepsBefore (text : String) (r : Rejection) : Prop :=
  ∀ r' : Rejection, r'.rank < r.rank → ¬Breaks text r'

theorem keepsBefore_wrongLength (text : String) : KeepsBefore text .wrongLength := by
  intro r hr
  cases r <;> simp [Rejection.rank] at hr

/-- One more rule is kept. -/
theorem KeepsBefore.next {text : String} {r next : Rejection} (h : KeepsBefore text r)
    (hr : ¬Breaks text r) (hnext : next.rank = r.rank + 1) : KeepsBefore text next := by
  intro r' hr'
  rcases Nat.lt_or_eq_of_le (Nat.le_of_lt_succ (hnext ▸ hr')) with hlt | heq
  · exact h r' hlt
  · rwa [Rejection.rank_injective heq]

/-- All rules are kept if the last one is kept too. -/
theorem KeepsBefore.all {text : String} (h : KeepsBefore text .sidesDiffer)
    (hr : ¬Breaks text .sidesDiffer) (r : Rejection) : ¬Breaks text r := by
  rcases Nat.lt_or_eq_of_le r.rank_le with hlt | heq
  · exact h r hlt
  · rwa [Rejection.rank_injective heq]

/-! ### Checks on form -/

theorem isOperator_iff {c : Char} : isOperator c = true ↔ c ∈ operatorChars := by
  rw [isOperator, Option.isSome_iff_exists, mem_operatorChars]
  simp only [Operator.ofChar?_eq_some_iff]

/-- The check finds no two operators side by side exactly if there are none. -/
theorem hasAdjacentOperators_eq_false_iff {cs : List Char} :
    hasAdjacentOperators cs = false ↔
      cs.IsChain fun a b => ¬(a ∈ operatorChars ∧ b ∈ operatorChars) := by
  induction cs with
  | nil => simp [hasAdjacentOperators]
  | cons c cs ih =>
    cases cs with
    | nil => simp [hasAdjacentOperators]
    | cons d cs =>
      have hcons : hasAdjacentOperators (c :: d :: cs) =
          (isOperator c && isOperator d || hasAdjacentOperators (d :: cs)) := rfl
      rw [hcons, Bool.or_eq_false_iff, ih, List.isChain_cons_cons, ← isOperator_iff,
        ← isOperator_iff, ← Bool.and_eq_true, Bool.not_eq_true]

theorem breaks_consecutiveOperators_iff {text : String} :
    Breaks text .consecutiveOperators ↔ hasAdjacentOperators text.toList = true := by
  rw [← Bool.not_eq_false, hasAdjacentOperators_eq_false_iff,
    List.isChain_iff_forall_rel_of_append_cons_cons]
  simp only [Breaks, not_forall, not_not]
  constructor
  · rintro ⟨before, a, b, after, h, ha, hb⟩
    exact ⟨a, b, before, after, h, ha, hb⟩
  · rintro ⟨a, b, before, after, h, ha, hb⟩
    exact ⟨before, a, b, after, h, ha, hb⟩

/-- The characters of the alphabet are those that write symbols. -/
theorem isLegal_iff {c : Char} : IsLegal c ↔ ∃ s : Symbol, s.toChar = c := by
  constructor
  · rintro (hc | hc | rfl)
    · have hrange := Char.isDigit_iff_toNat.mp hc
      have hd : c.toNat - 48 < 10 := by
        have := hrange.2
        simp only [Char.reduceToNat] at this
        omega
      refine ⟨.digit ⟨c.toNat - 48, hd⟩, Char.toNat_inj.mp ?_⟩
      rw [Symbol.toChar, Nat.toNat_digitChar_of_lt_ten hd]
      have := hrange.1
      simp only [Char.reduceToNat] at this
      omega
    · obtain ⟨o, rfl⟩ := mem_operatorChars.mp hc
      exact ⟨.operator o, rfl⟩
    · exact ⟨.equals, rfl⟩
  · rintro ⟨d | o | _, rfl⟩
    · left
      revert d
      decide
    · exact Or.inr (Or.inl o.toChar_mem)
    · exact Or.inr (Or.inr rfl)

/-- A text of seven characters is no equation exactly if one of them is outside the alphabet. -/
theorem breaks_illegalCharacter_iff {text : String} (hlen : text.toList.length = equationLength) :
    Breaks text .illegalCharacter ↔ ∀ e, Equation.ofString text ≠ .ok e := by
  have hread : (∀ c ∈ text.toList, IsLegal c) ↔
      ∃ symbols : List Symbol, symbols.map Symbol.toChar = text.toList := by
    simp only [isLegal_iff]
    exact (Set.ext_iff.mp (Set.range_list_map Symbol.toChar) text.toList).symm
  rw [← not_iff_not]
  simp only [Breaks, not_exists, not_and, not_forall, not_not]
  constructor
  · intro hlegal
    obtain ⟨symbols, h⟩ := hread.mp hlegal
    refine ⟨⟨symbols, by rw [← hlen, ← h, List.length_map]⟩, Equation.ofString_eq_ok_iff.mpr ?_⟩
    rw [Equation.text, h, String.ofList_toList]
  · rintro ⟨e, he⟩
    refine hread.mpr ⟨e.symbols, ?_⟩
    rw [Equation.ofString_eq_ok_iff.mp he, Equation.text, String.toList_ofList]

/-! ### The first rule about form that is broken -/

/-- The judgement on the form of a text: the first rule about form that it breaks, or the equation
that it is. -/
def JudgesForm (text : String) : Except Rejection Equation → Prop
  | .error r => Breaks text r ∧ KeepsBefore text r
  | .ok e => e.text = text ∧ KeepsBefore text .calculation

/-- The checks on form report the first rule about form that is broken. -/
theorem judgesForm_checkForm (text : String) : JudgesForm text (checkForm text) := by
  have h₁ := keepsBefore_wrongLength text
  simp only [checkForm]
  by_cases hlen : text.toList.length ≠ equationLength
  · rw [if_pos hlen]
    exact ⟨hlen, h₁⟩
  have h₂ : KeepsBefore text .missingEquals := h₁.next hlen rfl
  by_cases heq : (!text.toList.contains '=') = true
  · rw [if_neg hlen, if_pos heq]
    exact ⟨by simpa [Breaks] using heq, h₂⟩
  have h₃ : KeepsBefore text .missingOperator := h₂.next (by simpa [Breaks] using heq) rfl
  by_cases hop : (!text.toList.any isOperator) = true
  · rw [if_neg hlen, if_neg heq, if_pos hop]
    exact ⟨by simpa [Breaks, ← isOperator_iff] using hop, h₃⟩
  have h₄ : KeepsBefore text .consecutiveOperators :=
    h₃.next (by simpa [Breaks, ← isOperator_iff] using hop) rfl
  rw [if_neg hlen, if_neg heq, if_neg hop]
  by_cases hadj : hasAdjacentOperators text.toList = true
  · rw [if_pos hadj]
    exact ⟨breaks_consecutiveOperators_iff.mpr hadj, h₄⟩
  have h₅ : KeepsBefore text .illegalCharacter :=
    h₄.next (fun h => hadj (breaks_consecutiveOperators_iff.mp h)) rfl
  have hillegal := breaks_illegalCharacter_iff (not_not.mp hlen)
  rw [if_neg hadj]
  cases hread : Equation.ofString text with
  | error fault => exact ⟨hillegal.mpr (by simp [hread]), h₅⟩
  | ok e =>
    refine ⟨(Equation.ofString_eq_ok_iff.mp hread).symm, h₅.next (fun h => ?_) rfl⟩
    exact hillegal.mp h e hread

end Guess

end HiddenEquation
