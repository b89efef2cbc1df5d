import HiddenEquation.Proofs.Arithmetic.Misreadings
import HiddenEquation.Proofs.Arithmetic.SumFaults

/-!
# The fault that is reported

A text can be wrong in several places, and evaluation reports one of them. Three kinds of faults are
looked for in turn, and each kind from left to right over the whole text: characters that cannot be
read, products and quotients, sums and differences. So a fault late in the text can hide an earlier
one of a later kind. Two numbers side by side are never reported: digits that stand together are one
numeral, and neither a numeral nor the value of a product ever follows a number.

## Main definitions

* `Diagnosis` : the fault of a row of characters, and why it is the one that counts.

## Main results

* `scans_eq_error_iff` : the fault of a row of lexemes.
* `evaluate_eq_error_iff_diagnosis`, `evaluate_reports_diagnosis` : evaluation reports the
  diagnosis, and a text without one has a value.
-/

namespace HiddenEquation.Arithmetic

/-- The fault of a row of characters. The characters that can be read are written by a row of
lexemes, no two numerals of which stand side by side. -/
inductive Diagnosis : List Char → Fault → Prop
  /-- There are no characters. -/
  | empty : Diagnosis [] .empty
  /-- The characters cannot be read. -/
  | misread {cs : List Char} {fault : Fault} (h : Misread cs fault) : Diagnosis cs fault
  /-- A product is at fault, whatever the sums around it are. -/
  | product {row : List Lexeme} {fault : Fault} (hs : Separated row) (hf : AllFit row)
      (h : Leftmost ProductFault [] row fault) : Diagnosis (row.flatMap Lexeme.word) fault
  /-- A sum is at fault, and no product is. -/
  | sum {row : List Lexeme} {fault : Fault} (hs : Separated row) (hf : AllFit row)
      (hproducts : ∀ fault', ¬Leftmost ProductFault [] row fault')
      (h : Leftmost SumFault [] row fault) : Diagnosis (row.flatMap Lexeme.word) fault

/-- An operator lacks an operand or has a result that does not fit. -/
theorem ProductFault.fault_eq {before after : List Lexeme} {l : Lexeme} {fault : Fault}
    (h : ProductFault before l after fault) : fault = .missingOperand ∨ fault = .overflow := by
  cases h with
  | left => exact Or.inl rfl
  | right => exact Or.inl rfl
  | overflow => exact Or.inr rfl

theorem SumFault.fault_eq {before after : List Lexeme} {l : Lexeme} {fault : Fault}
    (h : SumFault before l after fault) : fault = .missingOperand ∨ fault = .overflow := by
  cases h with
  | missing => exact Or.inl rfl
  | overflow => exact Or.inr rfl

/-- Two numbers side by side are never the fault, and only a row without characters is empty. -/
theorem Diagnosis.fault_cases {cs : List Char} {fault : Fault} (h : Diagnosis cs fault) :
    fault ≠ .missingOperator ∧ (fault = .empty → cs = []) := by
  cases h with
  | empty => simp
  | misread h => rcases h.fault_eq with rfl | ⟨c, rfl⟩ <;> simp
  | product hs hf h =>
    obtain ⟨_, _, _, -, h, -⟩ := h
    rcases h.fault_eq with rfl | rfl <;> simp
  | sum hs hf hproducts h =>
    obtain ⟨_, _, _, -, h, -⟩ := h
    rcases h.fault_eq with rfl | rfl <;> simp

/-- Both scans together report the leftmost fault of a product, or else that of a sum. -/
theorem scans_eq_error_iff {row : List Lexeme} {fault : Fault} (hs : Separated row)
    (hf : AllFit row) (hne : row ≠ []) :
    (resolveProducts [] (row.map Lexeme.token)).bind resolveSums = .error fault ↔
      Leftmost ProductFault [] row fault ∨
        (∀ fault', ¬Leftmost ProductFault [] row fault') ∧ Leftmost SumFault [] row fault := by
  by_cases hclean : ∀ fault', ¬Leftmost ProductFault [] row fault'
  · obtain ⟨c, values, rfl, hvalues, hout⟩ := exists_skeleton_of_no_productFault hs hf hclean
    rw [hout, or_iff_right (hclean fault), and_iff_right hclean]
    exact resolveSums_eq_error_iff hvalues hne
  · rw [or_iff_left fun h => hclean h.1]
    obtain ⟨fault', hfault'⟩ := not_forall_not.mp hclean
    rw [← resolveProducts_eq_error_iff hs hf] at hfault' ⊢
    rw [hfault', Except.bind]
    simp

/-- The tokens of a text that is written by lexemes. -/
theorem tokens_of_lexemes {text : String} {row : List Lexeme} (hs : Separated row)
    (hf : AllFit row) (hne : row ≠ []) (hword : row.flatMap Lexeme.word = visible text) :
    tokens text = .ok (row.map Lexeme.token) := by
  have hscan : scan none (visible text) = .ok (row.map Lexeme.token) := hword ▸ scan_word hs hf
  rw [tokens_eq_scan, if_neg ?_, hscan]
  intro hnil
  rw [hnil] at hscan
  obtain hmap := Except.ok.inj hscan
  exact hne (List.map_eq_nil_iff.mp hmap.symm)

theorem evaluate_eq_bind (text : String) : evaluate text =
    (tokens text).bind fun found => (resolveProducts [] found).bind resolveSums := rfl

/-- The value or the fault of a text that is written by lexemes is found by the two scans. -/
theorem evaluate_of_lexemes {text : String} {row : List Lexeme} (hs : Separated row)
    (hf : AllFit row) (hne : row ≠ []) (hword : row.flatMap Lexeme.word = visible text) :
    evaluate text = (resolveProducts [] (row.map Lexeme.token)).bind resolveSums := by
  rw [evaluate_eq_bind, tokens_of_lexemes hs hf hne hword]
  rfl

/-- What is reported is the diagnosis. -/
theorem diagnosis_of_evaluate {text : String} {fault : Fault} (h : evaluate text = .error fault) :
    Diagnosis (visible text) fault := by
  cases htokens : tokens text with
  | error fault' =>
    rw [evaluate_eq_bind, htokens] at h
    obtain rfl : fault' = fault := Except.error.inj h
    rcases tokens_eq_error_iff.mp htokens with ⟨hnil, rfl⟩ | hmisread
    · rw [hnil]
      exact Diagnosis.empty
    · exact Diagnosis.misread hmisread
  | ok found =>
    obtain ⟨row, hs, hf, hrow, hword, rfl⟩ := exists_lexemes_of_tokens htokens
    rw [evaluate_of_lexemes hs hf hrow hword] at h
    rw [← hword]
    rcases (scans_eq_error_iff hs hf hrow).mp h with hproduct | ⟨hclean, hsum⟩
    · exact Diagnosis.product hs hf hproduct
    · exact Diagnosis.sum hs hf hclean hsum

/-- The diagnosis is reported. -/
theorem Diagnosis.evaluate_eq {text : String} {fault : Fault}
    (h : Diagnosis (visible text) fault) : evaluate text = .error fault := by
  generalize hcs : visible text = cs at h
  cases h with
  | empty =>
    rw [evaluate_eq_bind, tokens_eq_error_iff.mpr (Or.inl ⟨hcs, rfl⟩)]
    rfl
  | misread h =>
    rw [evaluate_eq_bind, tokens_eq_error_iff.mpr (Or.inr (hcs ▸ h))]
    rfl
  | product hs hf h =>
    rw [evaluate_of_lexemes hs hf h.ne_nil hcs.symm]
    exact (scans_eq_error_iff hs hf h.ne_nil).mpr (Or.inl h)
  | sum hs hf hproducts h =>
    rw [evaluate_of_lexemes hs hf h.ne_nil hcs.symm]
    exact (scans_eq_error_iff hs hf h.ne_nil).mpr (Or.inr ⟨hproducts, h⟩)

/-- Evaluation reports the diagnosis. -/
theorem evaluate_eq_error_iff_diagnosis {text : String} {fault : Fault} :
    evaluate text = .error fault ↔ Diagnosis (visible text) fault :=
  ⟨diagnosis_of_evaluate, Diagnosis.evaluate_eq⟩

/-- **What evaluation reports of a text with several faults.** A fault is reported exactly if it is
the diagnosis of the visible characters: what cannot be read comes before a product at fault, that
comes before a sum at fault, and among faults of one kind the leftmost is reported. A text is empty
exactly if it holds only blanks, a missing operator is never reported, and a text without a
diagnosis has a value. -/
theorem evaluate_reports_diagnosis (text : String) :
    (∀ fault, evaluate text = .error fault ↔ Diagnosis (visible text) fault) ∧
    (evaluate text = .error .empty ↔ ∀ c ∈ text.toList, Text.isBlank c = true) ∧
    evaluate text ≠ .error .missingOperator ∧
    ((∃ v, evaluate text = .ok v) ↔ ∀ fault, ¬Diagnosis (visible text) fault) := by
  refine ⟨fun fault => evaluate_eq_error_iff_diagnosis, ?_, ?_, ?_⟩
  · rw [evaluate_eq_error_iff_diagnosis, ← visible_eq_nil_iff]
    refine ⟨fun h => h.fault_cases.2 rfl, fun hnil => ?_⟩
    rw [hnil]
    exact Diagnosis.empty
  · rw [ne_eq, evaluate_eq_error_iff_diagnosis]
    exact fun h => h.fault_cases.1 rfl
  · simp only [← evaluate_eq_error_iff_diagnosis]
    cases evaluate text <;> simp

/-- The product at the end hides the operand that is missing in front of it. -/
example : evaluate "1++9999999999*9999999999" = .error .overflow := by decide +kernel

end HiddenEquation.Arithmetic
