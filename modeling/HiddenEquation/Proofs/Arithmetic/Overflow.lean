import HiddenEquation.Proofs.Arithmetic.Collapse
import HiddenEquation.Proofs.Arithmetic.Operations

/-!
# Where an evaluation overflows

The scans check every result, also where a check cannot fail. A quotient of numbers that are not
negative is no larger than its left operand, and the operands of a quotient are never negative: they
are numerals or values of products. The sign in front of an expression turns such a number around,
which always fits. So an evaluation overflows for one of two reasons only: digits write a number
that is too large, or the operation carried out last was a product, a sum or a difference that does
not fit. The shape of what the first scan leaves closes three branches of the second one for good.

## Main definitions

* `Recorded.EndsInOverflow` : a run overflows exactly if its last operation does not fit.
* `SumsOnly` : the rows in which the scan over sums meets nothing but sums.

## Main results

* `Residue.sumsOnly` : the scan over products leaves such a row.
* `inRange_of_mem_operations` : every quotient of an evaluation fits.
* `evaluate_eq_overflow_iff` : an evaluation that overflows ends with the overflow.
* `residue_and_overflow` : what the first scan leaves to the second, and where they overflow.
-/

namespace HiddenEquation.Arithmetic

/-! ### Quotients fit -/

/-- A quotient of numbers that are not negative is no larger than its left operand. -/
theorem Step.inRange_result_of_div {s : Step} (hop : s.op = .div)
    (hl : 0 ≤ s.left ∧ s.left ≤ largest) (hr : 0 ≤ s.right) : InRange s.result := by
  obtain ⟨o, left, right⟩ := s
  obtain rfl : o = .div := hop
  by_cases hzero : right = 0
  · exact Step.inRange_result_of_dividesByZero ⟨rfl, hzero⟩
  · have hresult : Step.result ⟨.div, left, right⟩ = left.tdiv right := by
      simp [result, Operator.exact, hzero]
    have hnonneg : 0 ≤ left.tdiv right := Int.tdiv_nonneg hl.1 hr
    have hle : (left.tdiv right).natAbs ≤ left.natAbs := Int.natAbs_tdiv_le_natAbs left right
    rw [hresult]
    simp only [InRange, smallest, largest] at hl ⊢
    omega

namespace Recorded

variable {α β : Type}

theorem mem_steps_andThen {run : Recorded α} {next : α → Recorded β} {s : Step} :
    s ∈ (run.andThen next).steps ↔
      s ∈ run.steps ∨ ∃ a, run.outcome = .ok a ∧ s ∈ (next a).steps := by
  rw [andThen]
  cases run.outcome <;> simp

end Recorded

open Recorded

/-- The operands of every operation in the scan over products are not negative. -/
theorem operands_recordProducts (passed found : List Token) (hpassed : NumbersFit passed)
    (hfound : NumbersFit found) {s : Step} (hs : s ∈ (recordProducts passed found).steps) :
    (0 ≤ s.left ∧ s.left ≤ largest) ∧ 0 ≤ s.right := by
  -- the numbers that were passed and those ahead keep fitting, also where a value is put back
  induction passed, found using resolveProducts.induct with
  | case1 passed => cases hs
  | case2 passed n rest ih =>
    obtain ⟨hn, hrest⟩ := numbersFit_number_cons.mp hfound
    exact ih (numbersFit_number_cons.mpr ⟨hn, hpassed⟩) hrest hs
  | case3 o ho left earlier right rest ih =>
    obtain ⟨hleft, hearlier⟩ := numbersFit_number_cons.mp hpassed
    obtain ⟨hright, hrest⟩ := numbersFit_number_cons.mp (numbersFit_operator_cons.mp hfound)
    rw [recordProducts_tight left earlier ⟨o, ho⟩, mem_steps_andThen] at hs
    rcases hs with hs | ⟨value, hvalue, hs⟩
    · obtain rfl := List.mem_singleton.mp hs
      exact ⟨hleft, hright.1⟩
    · have hfits := Operator.fits_of_apply ho hleft.1 hright.1 hvalue
      exact ih value (numbersFit_number_cons.mpr ⟨hfits, hearlier⟩) hrest hs
  | case4 passed o rest ho hno =>
    rw [recordProducts_missing passed ⟨o, ho⟩ rest hno] at hs
    cases hs
  | case5 passed o rest ho ih =>
    have ho' : o.bindsTightly = false := by simpa using ho
    rw [recordProducts_loose passed ⟨o, ho'⟩] at hs
    exact ih (numbersFit_operator_cons.mpr hpassed) (numbersFit_operator_cons.mp hfound) hs

/-- The scan over sums carries out operators of its row. -/
theorem operator_mem_of_mem_recordTerms (total : Int) (terms : List Token) {s : Step}
    (hs : s ∈ (recordTerms total terms).steps) : .operator s.op ∈ terms := by
  induction total, terms using addTerms.induct with
  | case1 total => cases hs
  | case2 total n rest => cases hs
  | case3 total o n rest ih =>
    rw [recordTerms, mem_steps_andThen] at hs
    rcases hs with hs | ⟨value, -, hs⟩
    · obtain rfl := List.mem_singleton.mp hs
      exact List.mem_cons_self
    · exact List.mem_cons_of_mem _ (List.mem_cons_of_mem _ (ih value hs))
  | case4 total o rest hno =>
    rw [recordTerms.eq_4 total o rest hno] at hs
    cases hs

theorem operator_mem_of_mem_recordSums (terms : List Token) {s : Step}
    (hs : s ∈ (recordSums terms).steps) : .operator s.op ∈ terms := by
  cases terms using resolveSums.fun_cases with
  | case1 => cases hs
  | case2 n rest => exact List.mem_cons_of_mem _ (operator_mem_of_mem_recordTerms n rest hs)
  | case3 n rest =>
    exact List.mem_cons_of_mem _
      (List.mem_cons_of_mem _ (operator_mem_of_mem_recordTerms n rest hs))
  | case4 n rest =>
    rw [recordSums, mem_steps_andThen] at hs
    rcases hs with hs | ⟨total, -, hs⟩
    · cases hs
    · exact List.mem_cons_of_mem _
        (List.mem_cons_of_mem _ (operator_mem_of_mem_recordTerms total rest hs))
  | case5 o rest hadd hsub =>
    rw [recordSums.eq_5 o rest hadd hsub] at hs
    cases hs

/-! ### The last operation -/

namespace Recorded

variable {α β : Type} {run : Recorded α} {next : α → Recorded β}

/-- A run overflows exactly if its last operation does not fit. -/
def EndsInOverflow (run : Recorded α) : Prop :=
  run.outcome = .error .overflow ↔ ∃ s ∈ run.steps.getLast?, ¬InRange s.result

theorem endsInOverflow_silent {outcome : Except Fault α} (h : outcome ≠ .error .overflow) :
    (silent outcome).EndsInOverflow := by
  simpa [EndsInOverflow, silent] using h

theorem endsInOverflow_operation (o : Operator) (left right : Int) :
    (operation o left right).EndsInOverflow := by
  have hresult : Step.result ⟨o, left, right⟩ = o.exact left right := rfl
  rw [EndsInOverflow, operation, Operator.apply_eq, fit?]
  by_cases hfit : InRange (o.exact left right) <;> simp [hfit, orOverflow, hresult]

/-- If the first run ends well, its last operation has fitted. -/
theorem EndsInOverflow.andThen (hrun : run.EndsInOverflow)
    (hnext : ∀ a, run.outcome = .ok a → (next a).EndsInOverflow) :
    (run.andThen next).EndsInOverflow := by
  rw [EndsInOverflow, Recorded.andThen]
  cases houtcome : run.outcome with
  | error fault =>
    rw [EndsInOverflow, houtcome] at hrun
    simpa using hrun
  | ok a =>
    have hlater := hnext a houtcome
    have hfits : ¬∃ s ∈ run.steps.getLast?, ¬InRange s.result := by
      rw [EndsInOverflow, houtcome] at hrun
      simpa using hrun
    rw [EndsInOverflow] at hlater
    rw [hlater, List.getLast?_append]
    cases (next a).steps.getLast? with
    | none => simpa using hfits
    | some s => rfl

end Recorded

theorem endsInOverflow_recordProducts (passed found : List Token) :
    (recordProducts passed found).EndsInOverflow := by
  induction passed, found using resolveProducts.induct with
  | case1 passed => exact endsInOverflow_silent (by simp)
  | case2 passed n rest ih => exact ih
  | case3 o ho left earlier right rest ih =>
    rw [recordProducts_tight left earlier ⟨o, ho⟩]
    exact (endsInOverflow_operation o left right).andThen fun value _ => ih value
  | case4 passed o rest ho hno =>
    rw [recordProducts_missing passed ⟨o, ho⟩ rest hno]
    exact endsInOverflow_silent (by simp)
  | case5 passed o rest ho ih =>
    have ho' : o.bindsTightly = false := by simpa using ho
    rwa [recordProducts_loose passed ⟨o, ho'⟩]

theorem endsInOverflow_recordTerms (total : Int) (terms : List Token) :
    (recordTerms total terms).EndsInOverflow := by
  induction total, terms using addTerms.induct with
  | case1 total => exact endsInOverflow_silent (by simp)
  | case2 total n rest => exact endsInOverflow_silent (by simp)
  | case3 total o n rest ih =>
    rw [recordTerms]
    exact (endsInOverflow_operation o total n).andThen fun value _ => ih value
  | case4 total o rest hno =>
    rw [recordTerms.eq_4 total o rest hno]
    exact endsInOverflow_silent (by simp)

/-- The opposite of a number that fits and is not negative fits. -/
theorem checked_neg {n : Int} (hn : 0 ≤ n ∧ n ≤ largest) : checked (-n) = .ok (-n) := by
  refine if_pos ?_
  simp only [InRange, smallest, largest] at hn ⊢
  omega

/-- The sign in front is no operation, but it never overflows. -/
theorem endsInOverflow_recordSums {terms : List Token} (hterms : NumbersFit terms) :
    (recordSums terms).EndsInOverflow := by
  cases terms using resolveSums.fun_cases with
  | case1 => exact endsInOverflow_silent (by simp)
  | case2 n rest => exact endsInOverflow_recordTerms n rest
  | case3 n rest => exact endsInOverflow_recordTerms n rest
  | case4 n rest =>
    have hn := (numbersFit_number_cons.mp (numbersFit_operator_cons.mp hterms)).1
    rw [recordSums, checked_neg hn, silent_ok_andThen]
    exact endsInOverflow_recordTerms (-n) rest
  | case5 o rest hadd hsub =>
    rw [recordSums.eq_5 o rest hadd hsub]
    exact endsInOverflow_silent (by simp)

/-! ### The scan over sums -/

/-- Behind a number comes an operator, so that only an operand can be missing. -/
theorem addTerms_fault_eq (total : Int) (terms : List Token) {fault : Fault}
    (hchain : (Token.number total :: terms).IsChain
      fun a b => ¬(a.isNumber = true ∧ b.isNumber = true))
    (h : addTerms total terms = .error fault) : fault = .missingOperand ∨ fault = .overflow := by
  induction total, terms using addTerms.induct with
  | case1 total => cases h
  | case2 total n rest => exact absurd ⟨rfl, rfl⟩ (List.isChain_cons_cons.mp hchain).1
  | case3 total o n rest ih =>
    rw [addTerms, Operator.apply_eq] at h
    cases hfit : fit? (o.exact total n) with
    | none =>
      rw [hfit] at h
      exact Or.inr (Except.error.inj h).symm
    | some value =>
      rw [hfit] at h
      have hnext := isChain_isNumber_iff.mp hchain.tail.tail
      exact ih value (isChain_isNumber_iff.mpr hnext) h
  | case4 total o rest hno =>
    rw [addTerms.eq_4 total o rest hno] at h
    exact Or.inl (Except.error.inj h).symm

theorem resolveSums_fault_eq {terms : List Token} (hr : Readable terms) {fault : Fault}
    (h : resolveSums terms = .error fault) : fault = .missingOperand ∨ fault = .overflow := by
  cases terms using resolveSums.fun_cases with
  | case1 => exact absurd rfl hr.ne_nil
  | case2 n rest => exact addTerms_fault_eq n rest hr.isChain h
  | case3 n rest => exact addTerms_fault_eq n rest hr.isChain.tail h
  | case4 n rest =>
    have hn := (numbersFit_number_cons.mp (numbersFit_operator_cons.mp hr.numbersFit)).1
    rw [resolveSums, checked_neg hn] at h
    have hrest := isChain_isNumber_iff.mp hr.isChain.tail
    exact addTerms_fault_eq (-n) rest (isChain_isNumber_iff.mpr hrest) h
  | case5 o rest hadd hsub =>
    rw [resolveSums.eq_5 o rest hadd hsub] at h
    exact Or.inl (Except.error.inj h).symm

/-- A row of sums only: three ends of the scan over sums cannot occur, and one of its checks cannot
fail. -/
structure SumsOnly (row : List Token) : Prop where
  /-- There is something to sum. -/
  ne_empty : resolveSums row ≠ .error .empty
  /-- No number follows a number. -/
  ne_missingOperator : resolveSums row ≠ .error .missingOperator
  /-- No `*` or `/` stands in front. -/
  loose_sign : ∀ o rest, row = .operator o :: rest → o.bindsTightly = false
  /-- The sign in front can be applied. -/
  checked_neg : ∀ n rest, row = .operator .sub :: .number n :: rest → checked (-n) = .ok (-n)

/-- The scan over products leaves sums only. -/
theorem Residue.sumsOnly {found out : List Token} (h : Residue found out) : SumsOnly out where
  ne_empty := fun hempty => by simpa using resolveSums_fault_eq h.readable hempty
  ne_missingOperator := fun hmissing => by simpa using resolveSums_fault_eq h.readable hmissing
  loose_sign := by
    rintro o rest rfl
    exact (allLoose_operator_cons.mp h.allLoose).1
  checked_neg := by
    rintro n rest rfl
    exact Arithmetic.checked_neg (h.readable.numbersFit n (by simp))

/-! ### The whole evaluation -/

/-- Every quotient of an evaluation fits. -/
theorem inRange_of_mem_operations {text : String} {s : Step} (hs : s ∈ operations text)
    (hop : s.op = .div) : InRange s.result := by
  rw [operations, recordEvaluation, mem_steps_andThen] at hs
  rcases hs with hs | ⟨found, hfound, hs⟩
  · cases hs
  have hr : Readable found := readable_of_tokens hfound
  rcases mem_steps_andThen.mp hs with hs | ⟨out, hout, hs⟩
  · obtain ⟨hleft, hright⟩ :=
      operands_recordProducts [] found (by simp [NumbersFit]) hr.numbersFit hs
    exact Step.inRange_result_of_div hop hleft hright
  · rw [outcome_recordProducts] at hout
    have hloose : s.op.bindsTightly = false :=
      (residue_of_resolveProducts hr hout).allLoose _ (operator_mem_of_mem_recordSums out hs)
    rw [hop] at hloose
    cases hloose

/-- An evaluation overflows where it reads a number that is too large, or in its last operation. -/
theorem evaluate_eq_overflow_iff {text : String} : evaluate text = .error .overflow ↔
    Misread (visible text) .overflow ∨ ∃ s ∈ (operations text).getLast?, ¬InRange s.result := by
  rw [← outcome_recordEvaluation, operations, recordEvaluation]
  cases htokens : tokens text with
  | error fault =>
    have hmisread : fault = .overflow ↔ Misread (visible text) .overflow := by
      have herror : tokens text = .error .overflow ↔ _ := tokens_eq_error_iff
      simpa [htokens] using herror
    simp [silent, andThen, hmisread]
  | ok found =>
    have hread : ¬Misread (visible text) .overflow := fun h => by
      have := tokens_eq_error_iff.mpr (Or.inr h)
      simp [htokens] at this
    have hends : ((recordProducts [] found).andThen recordSums).EndsInOverflow := by
      refine (endsInOverflow_recordProducts [] found).andThen fun out hout => ?_
      rw [outcome_recordProducts] at hout
      have hresidue := residue_of_resolveProducts (readable_of_tokens htokens) hout
      exact endsInOverflow_recordSums hresidue.readable.numbersFit
    rw [silent_ok_andThen, or_iff_right hread]
    exact hends

/-- **What the first scan leaves to the second, and where they overflow.** The row that the scan
over products leaves is readable, holds no product, keeps every `+` and `-`, and is left alone by a
second scan. The scan over sums therefore never finds it empty, never misses an operator in it,
never meets a `*` or a `/` in front, and can always apply the sign in front. Every quotient of an
evaluation fits. An evaluation overflows exactly if digits write a number that is too large, or if
the last operation that it carries out is a product, a sum or a difference that does not fit. -/
theorem residue_and_overflow (text : String) :
    (∀ found out, tokens text = .ok found → resolveProducts [] found = .ok out →
      Residue found out ∧ SumsOnly out) ∧
    (∀ s ∈ operations text, s.op = .div → s.op.apply s.left s.right = .ok s.result) ∧
    (evaluate text = .error .overflow ↔ Misread (visible text) .overflow ∨
      ∃ s ∈ (operations text).getLast?, (s.op = .mul ∨ s.op = .add ∨ s.op = .sub) ∧
        ¬InRange s.result) := by
  refine ⟨fun found out hfound hout => ?_, fun s hs hop => ?_, ?_⟩
  · have hresidue := residue_of_resolveProducts (readable_of_tokens hfound) hout
    exact ⟨hresidue, hresidue.sumsOnly⟩
  · exact Operator.apply_eq_ok_iff.mpr ⟨inRange_of_mem_operations hs hop, rfl⟩
  · rw [evaluate_eq_overflow_iff]
    refine or_congr_right (exists_congr fun s => and_congr_right fun hs =>
      (and_iff_right_of_imp fun hlarge => ?_).symm)
    cases hop : s.op with
    | add => simp
    | sub => simp
    | mul => simp
    | div => exact absurd (inRange_of_mem_operations (List.mem_of_getLast? hs) hop) hlarge

/-- The sign applies to the first product, the division by zero goes on with the largest value, and
the last sum overflows. -/
theorem residue_and_overflow_zero_division :
    Residue [.operator .sub, .number 2, .operator .mul, .number 3, .operator .add, .number 8,
        .operator .div, .number 0, .operator .add, .number 9]
      [.operator .sub, .number 6, .operator .add, .number largest, .operator .add, .number 9] ∧
    SumsOnly [.operator .sub, .number 6, .operator .add, .number largest, .operator .add,
      .number 9] ∧
    (∃ s ∈ operations "-2*3+8/0+9", s.DividesByZero ∧
      s.op.apply s.left s.right = .ok s.result) ∧
    ∃ s ∈ (operations "-2*3+8/0+9").getLast?, (s.op = .mul ∨ s.op = .add ∨ s.op = .sub) ∧
      ¬InRange s.result := by
  have htokens : tokens "-2*3+8/0+9" = .ok [.operator .sub, .number 2, .operator .mul, .number 3,
    .operator .add, .number 8, .operator .div, .number 0, .operator .add, .number 9] := by decide
  have hoverflow : evaluate "-2*3+8/0+9" = .error .overflow := by decide +kernel
  have hzero : DividesByZero "-2*3+8/0+9" := by decide +kernel
  have hread : ¬Misread (visible "-2*3+8/0+9") .overflow := fun h => by
    have := tokens_eq_error_iff.mpr (Or.inr h)
    simp [htokens] at this
  obtain ⟨hscans, hquotients, hiff⟩ := residue_and_overflow "-2*3+8/0+9"
  obtain ⟨hresidue, hsums⟩ := hscans _ [.operator .sub, .number 6, .operator .add, .number largest,
    .operator .add, .number 9] htokens (by decide +kernel)
  obtain ⟨s, hs, hdivides⟩ := hzero
  exact ⟨hresidue, hsums, ⟨s, hs, hdivides, hquotients s hs hdivides.1⟩,
    (hiff.mp hoverflow).resolve_left hread⟩

end HiddenEquation.Arithmetic
