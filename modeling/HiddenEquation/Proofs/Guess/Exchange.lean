import HiddenEquation.Proofs.Guess.Verdict

/-!
# Exchanging the two sides

A text with one equals sign can be written the other way round: what stands to the left of the sign
and what stands to its right change places. Each rule for guesses is kept by both texts or by
neither. Four rules only ask how many characters there are and which ones, and a rearrangement
changes neither. Two operators side by side belong to one side, because the sign between the sides
is no operator. The last two rules ask for the values of the two sides, in no order. So validation
has the same outcome, although it scans the two texts in different orders and stops at the first
side without a value.

## Main definitions

* `Exchanged` : two texts differ by an exchange of the sides of their only equals sign.

## Main results

* `Exchanged.breaks_iff` : two such texts break the same rules.
* `validate_exchange_sides` : validation is symmetric in the two sides.
-/

namespace HiddenEquation.Guess

/-- One text is the other with the two sides of its only equals sign exchanged. -/
def Exchanged (text text' : String) : Prop :=
  ∃ left right, '=' ∉ left ∧ '=' ∉ right ∧ text.toList = left ++ '=' :: right ∧
    text'.toList = right ++ '=' :: left

namespace Exchanged

variable {text text' : String}

theorem symm (h : Exchanged text text') : Exchanged text' text := by
  obtain ⟨left, right, hleft, hright, htext, htext'⟩ := h
  exact ⟨right, left, hright, hleft, htext', htext⟩

/-- The exchange is a rearrangement of the characters. -/
theorem perm (h : Exchanged text text') : text.toList.Perm text'.toList := by
  obtain ⟨left, right, -, -, htext, htext'⟩ := h
  rw [htext, htext']
  exact List.perm_append_comm.trans List.perm_middle.symm

theorem breaks_consecutiveOperators (h : Exchanged text text')
    (hbreaks : Breaks text .consecutiveOperators) : Breaks text' .consecutiveOperators := by
  obtain ⟨left, right, -, -, htext, htext'⟩ := h
  rw [breaks_consecutiveOperators_iff, ← Bool.not_eq_false, hasAdjacentOperators_eq_false_iff,
    htext, isChain_sides_iff] at hbreaks
  rwa [breaks_consecutiveOperators_iff, ← Bool.not_eq_false, hasAdjacentOperators_eq_false_iff,
    htext', isChain_sides_iff, and_comm]

theorem breaks_calculation (h : Exchanged text text') (hbreaks : Breaks text .calculation) :
    Breaks text' .calculation := by
  obtain ⟨left, right, hleft, hright, htext, htext'⟩ := h
  rw [breaks_calculation_iff_sideFails htext hleft hright] at hbreaks
  exact (breaks_calculation_iff_sideFails htext' hright hleft).mpr hbreaks.symm

/-- The derivations of the two sides change places with the sides. -/
theorem breaks_sidesDiffer (h : Exchanged text text') (hbreaks : Breaks text .sidesDiffer) :
    Breaks text' .sidesDiffer := by
  obtain ⟨left, right, hleft, hright, htext, htext'⟩ := h
  obtain ⟨leftExpr, rightExpr, hwords, hdiffer⟩ := hbreaks
  rw [htext, List.append_cons_inj_of_notMem hleft hright] at hwords
  obtain ⟨rfl, -, rfl⟩ := hwords
  exact ⟨rightExpr, leftExpr, htext', hdiffer.symm⟩

/-- Every rule that one text breaks is broken by the other. -/
theorem breaks (h : Exchanged text text') {r : Rejection} (hbreaks : Breaks text r) :
    Breaks text' r := by
  -- four of the rules see the characters, but not their order
  cases r with
  | wrongLength => simpa only [Breaks, h.perm.length_eq] using hbreaks
  | missingEquals => simpa only [Breaks, h.perm.mem_iff] using hbreaks
  | missingOperator => simpa only [Breaks, h.perm.mem_iff] using hbreaks
  | consecutiveOperators => exact h.breaks_consecutiveOperators hbreaks
  | illegalCharacter => simpa only [Breaks, h.perm.mem_iff] using hbreaks
  | calculation => exact h.breaks_calculation hbreaks
  | sidesDiffer => exact h.breaks_sidesDiffer hbreaks

theorem breaks_iff (h : Exchanged text text') {r : Rejection} :
    Breaks text r ↔ Breaks text' r :=
  ⟨h.breaks, h.symm.breaks⟩

/-- The first rule that one text breaks is the first that the other breaks. -/
theorem validate_eq_error (h : Exchanged text text') {r : Rejection}
    (hr : validate text = .error r) : validate text' = .error r := by
  rw [validate_eq_iff_verdict] at hr ⊢
  simpa only [Verdict, h.breaks_iff] using hr

end Exchanged

/-- **Validation is symmetric in the two sides.** If an equals sign stands between two texts without
equals signs, then either both orders of the texts are accepted, or both are rejected for the same
reason. -/
theorem validate_exchange_sides (l r : String) (hl : '=' ∉ l.toList) (hr : '=' ∉ r.toList) :
    (∃ e e', validate (l ++ "=" ++ r) = .ok e ∧ validate (r ++ "=" ++ l) = .ok e') ∨
      ∃ reason, validate (l ++ "=" ++ r) = .error reason ∧
        validate (r ++ "=" ++ l) = .error reason := by
  have hexchanged : Exchanged (l ++ "=" ++ r) (r ++ "=" ++ l) :=
    ⟨l.toList, r.toList, hl, hr, by simp, by simp⟩
  cases hleft : validate (l ++ "=" ++ r) with
  | error reason => exact Or.inr ⟨reason, rfl, hexchanged.validate_eq_error hleft⟩
  | ok e =>
    cases hright : validate (r ++ "=" ++ l) with
    | error reason =>
      rw [hexchanged.symm.validate_eq_error hright] at hleft
      cases hleft
    | ok e' => exact Or.inl ⟨e, e', rfl, rfl⟩

/-- Only one side fails, and it is evaluated first in one order and last in the other. -/
theorem validate_exchange_sides_dangling : '=' ∉ "/8+".toList ∧ '=' ∉ "9*0".toList ∧
    validate ("/8+" ++ "=" ++ "9*0") = .error .calculation ∧
    validate ("9*0" ++ "=" ++ "/8+") = .error .calculation := by
  have hl : '=' ∉ "/8+".toList := by decide
  have hr : '=' ∉ "9*0".toList := by decide
  have hleft : validate ("/8+" ++ "=" ++ "9*0") = .error .calculation := rfl
  refine ⟨hl, hr, hleft, ?_⟩
  obtain ⟨e, e', haccepted, -⟩ | ⟨reason, hreason, hright⟩ :=
    validate_exchange_sides "/8+" "9*0" hl hr
  · rw [hleft] at haccepted
    cases haccepted
  · rw [hleft] at hreason
    rw [hright, ← hreason]

end HiddenEquation.Guess
