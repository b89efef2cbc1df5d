import HiddenEquation.Proofs.Arithmetic.Evaluation
import HiddenEquation.Proofs.Arithmetic.Shape

/-!
# Characters that cannot be read

Reading the characters of an expression fails in two ways. A numeral can be too large, which is
found out where its digits end, and a character can be neither a digit nor an operator. The reading
goes from left to right, so what it reports is the first of these: everything in front of it is
written by lexemes that fit. If a foreign character ends a numeral that is too large, the numeral
comes first.

## Main definitions

* `Misread` : the first thing in a row of characters that cannot be read.

## Main results

* `Reads.scan_append` : the scan of characters of which the first ones can be read.
* `scan_eq_error_iff` : the scan reports the first thing that cannot be read.
* `tokens_eq_error_iff` : the faults of the tokens of a text.
-/

namespace HiddenEquation.Arithmetic

theorem ofChar?_eq_none_iff {c : Char} : Operator.ofChar? c = none ↔ c ∉ operatorChars := by
  rw [Option.eq_none_iff_forall_ne_some, mem_operatorChars, not_exists]
  exact forall_congr' fun o => not_congr Operator.ofChar?_eq_some_iff

/-- A numeral that fits can be read in front of what does not start with a digit. -/
theorem Reads.numeral_append {cs : List Char} {tokens : List Token} (h : Reads cs tokens)
    (hcs : ∀ c ∈ cs.head?, c.isDigit = false) {n : Numeral} (hn : InRange n.value) :
    Reads (n.digits ++ cs) (.number n.value :: tokens) := by
  obtain ⟨lexemes, hs, hf, rfl, rfl⟩ := h
  refine ⟨.numeral n :: lexemes, ?_, allFit_cons.mpr ⟨hn, hf⟩, rfl, rfl⟩
  cases lexemes with
  | nil => simp [Separated]
  | cons l lexemes =>
    cases l with
    | operator o =>
      change Separated ([.numeral n] ++ .operator o :: lexemes)
      exact separated_append_operator_cons.mpr
        ⟨by simp [Separated], separated_operator_cons.mp hs⟩
    | numeral m =>
      have hdigit := m.isDigit_of_mem _ (List.head_mem m.digits_ne_nil)
      have hhead : (m.digits ++ lexemes.flatMap Lexeme.word).head? =
          some (m.digits.head m.digits_ne_nil) := by
        rw [List.head?_append_of_ne_nil _ m.digits_ne_nil, List.head?_eq_some_head]
      rw [hcs _ hhead] at hdigit
      cases hdigit

theorem digitValue?_eq_none {c : Char} (hc : c.isDigit = false) : digitValue? c = none := by
  simp [digitValue?, hc]

/-- The first thing in a row of characters that cannot be read, as a fault. What stands in front of
it can be read. -/
inductive Misread : List Char → Fault → Prop
  /-- A maximal run of digits writes a number that is too large. -/
  | tooLarge {before after : List Char} {tokens : List Token} {n : Numeral}
      (hbefore : Reads before tokens) (hstarts : ∀ c ∈ before.getLast?, c.isDigit = false)
      (hends : ∀ c ∈ after.head?, c.isDigit = false) (hlarge : ¬InRange n.value) :
      Misread (before ++ (n.digits ++ after)) .overflow
  /-- A character is neither a digit nor an operator. -/
  | foreign {before after : List Char} {tokens : List Token} {c : Char}
      (hbefore : Reads before tokens) (hdigit : c.isDigit = false) (hop : c ∉ operatorChars) :
      Misread (before ++ c :: after) (.unexpectedCharacter c)

namespace Misread

variable {cs : List Char} {fault : Fault}

theorem operator (h : Misread cs fault) (o : Operator) : Misread (o.toChar :: cs) fault := by
  cases h with
  | @tooLarge before after tokens n hbefore hstarts hends hlarge =>
    change Misread ((o.toChar :: before) ++ (n.digits ++ after)) .overflow
    refine tooLarge (hbefore.operator o) ?_ hends hlarge
    cases before with
    | nil => simpa using o.isDigit_toChar
    | cons c before => simpa using hstarts
  | foreign hbefore hdigit hop => exact foreign (hbefore.operator o) hdigit hop

/-- A numeral that fits does not change what cannot be read behind it. -/
theorem numeral (h : Misread cs fault) (hcs : ∀ c ∈ cs.head?, c.isDigit = false) {n : Numeral}
    (hn : InRange n.value) : Misread (n.digits ++ cs) fault := by
  cases h with
  | @tooLarge before after tokens m hbefore hstarts hends hlarge =>
    cases before with
    | nil =>
      -- the numeral that is too large would continue the one in front of it
      have hhead := hcs _ (List.head?_append_of_ne_nil _ m.digits_ne_nil ▸
        List.head?_eq_some_head m.digits_ne_nil)
      rw [m.isDigit_of_mem _ (List.head_mem _)] at hhead
      cases hhead
    | cons c before =>
      rw [← List.append_assoc]
      refine tooLarge (hbefore.numeral_append hcs hn) ?_ hends hlarge
      simpa [List.getLast?_append] using hstarts
  | @foreign before after tokens c hbefore hdigit hop =>
    rw [← List.append_assoc]
    refine foreign (hbefore.numeral_append (fun c' hc' => hcs c' ?_) hn) hdigit hop
    exact List.mem_head?_append_of_mem_head? hc'

/-- A text fails to be read because of a number that is too large or a foreign character. -/
theorem fault_eq (h : Misread cs fault) :
    fault = .overflow ∨ ∃ c, fault = .unexpectedCharacter c := by
  cases h with
  | tooLarge => exact Or.inl rfl
  | @foreign _ _ _ c => exact Or.inr ⟨c, rfl⟩

end Misread

/-! ### The scan behind what can be read -/

/-- A pending number that fits is one more token, if no further digit follows. -/
theorem scan_close {n : Nat} (hn : InRange n) {rest : List Char}
    (hrest : ∀ c ∈ rest.head?, c.isDigit = false) :
    scan (some n) rest = (scan none rest).map (.number n :: ·) := by
  cases rest with
  | nil => rw [scan, closeNumber_of_inRange hn]; rfl
  | cons c rest =>
    have hdigit := digitValue?_eq_none (hrest c rfl)
    rw [scan, scan, hdigit, closeNumber_of_inRange hn]
    cases Operator.ofChar? c with
    | none => rfl
    | some o => cases hscan : scan none rest <;> simp [closeNumber, bind, Except.bind, Except.map,
        pure, Except.pure]

/-- A pending number that does not fit is reported where its digits end. -/
theorem scan_pending_overflow {n : Nat} (hn : ¬InRange n) {rest : List Char}
    (hrest : ∀ c ∈ rest.head?, c.isDigit = false) : scan (some n) rest = .error .overflow := by
  cases rest with
  | nil => rw [scan, closeNumber_of_not_inRange hn]
  | cons c rest =>
    rw [scan, digitValue?_eq_none (hrest c rfl), closeNumber_of_not_inRange hn]
    rfl

theorem scan_foreign {c : Char} (hdigit : c.isDigit = false) (hop : c ∉ operatorChars)
    (rest : List Char) : scan none (c :: rest) = .error (.unexpectedCharacter c) := by
  rw [scan, digitValue?_eq_none hdigit]
  simp only [ofChar?_eq_none_iff.mpr hop]
  rfl

private theorem scan_lexemes_append (rest : List Char) : ∀ {lexemes : List Lexeme},
    Separated lexemes → AllFit lexemes →
    (∀ c ∈ (lexemes.flatMap Lexeme.word).getLast?, c.isDigit = false) ∨
      (∀ c ∈ rest.head?, c.isDigit = false) →
    scan none (lexemes.flatMap Lexeme.word ++ rest) =
      (scan none rest).map (lexemes.map Lexeme.token ++ ·)
  | [], _, _, _ => by cases h : scan none rest <;> simp [h, Except.map]
  | .operator o :: lexemes, hs, hf, hborder => by
    have ih := scan_lexemes_append rest (separated_operator_cons.mp hs) (allFit_cons.mp hf).2
      (hborder.imp_left fun h c hc => h c (by
        rw [List.flatMap_cons, List.getLast?_append, Option.mem_def.mp hc]; rfl))
    change scan none (o.toChar :: (lexemes.flatMap Lexeme.word ++ rest)) = _
    rw [scan_operator, ih]
    cases scan none rest <;> rfl
  | [.numeral n], _, hf, hborder => by
    have hn : InRange n.value := (allFit_cons.mp hf).1
    have hdigit := n.isDigit_of_mem _ (List.getLast_mem n.digits_ne_nil)
    simp only [List.flatMap_cons, List.flatMap_nil, List.append_nil, Lexeme.word] at hborder ⊢
    rcases hborder with hlast | hrest
    · rw [hlast _ (List.getLast?_eq_some_getLast n.digits_ne_nil)] at hdigit
      cases hdigit
    · rw [scan_numeral, scan_close hn hrest]
      rfl
  | .numeral n :: .operator o :: lexemes, hs, hf, hborder => by
    have hn : InRange n.value := (allFit_cons.mp hf).1
    have ih := scan_lexemes_append rest (separated_operator_cons.mp hs.tail)
      (allFit_cons.mp (allFit_cons.mp hf).2).2
      (hborder.imp_left fun h c hc => h c (by
        rw [List.flatMap_cons, List.flatMap_cons, List.getLast?_append, List.getLast?_append,
          Option.mem_def.mp hc]
        rfl))
    simp only [List.flatMap_cons, Lexeme.word, List.append_assoc, List.cons_append, List.nil_append]
    rw [scan_numeral, scan_operator, closeNumber_of_inRange hn, ih]
    cases scan none rest <;> rfl
  | .numeral n :: .numeral m :: _, hs, _, _ => by
    simp [Separated, Lexeme.isNumeral] at hs

/-- The scan goes on behind what can be read, unless a numeral is cut in two there. -/
theorem Reads.scan_append {cs rest : List Char} {tokens : List Token} (h : Reads cs tokens)
    (hborder : (∀ c ∈ cs.getLast?, c.isDigit = false) ∨ ∀ c ∈ rest.head?, c.isDigit = false) :
    scan none (cs ++ rest) = (scan none rest).map (tokens ++ ·) := by
  obtain ⟨lexemes, hs, hf, rfl, rfl⟩ := h
  exact scan_lexemes_append rest hs hf hborder

/-! ### The first thing that cannot be read -/

theorem Misread.scan_eq {cs : List Char} {fault : Fault} (h : Misread cs fault) :
    scan none cs = .error fault := by
  cases h with
  | tooLarge hbefore hstarts hends hlarge =>
    rw [hbefore.scan_append (Or.inl hstarts), scan_numeral, scan_pending_overflow hlarge hends]
    rfl
  | @foreign _ after _ c hbefore hdigit hop =>
    have hborder : ∀ c' ∈ (c :: after).head?, c'.isDigit = false := by simpa using hdigit
    rw [hbefore.scan_append (Or.inr hborder), scan_foreign hdigit hop]
    rfl

/-- The second half is the case of a numeral that has been read in part. -/
private theorem misread_of_scan_pending (cs : List Char) (fault : Fault) :
    (scan none cs = .error fault → Misread cs fault) ∧
    ∀ n : Numeral, scan (some n.value) cs = .error fault → Misread (n.digits ++ cs) fault := by
  induction cs with
  | nil =>
    refine ⟨fun h => (by cases h), fun n h => ?_⟩
    have hn : ¬InRange n.value := fun hn => by rw [scan_close hn (by simp)] at h; cases h
    obtain rfl : Fault.overflow = fault :=
      Except.error.inj ((scan_pending_overflow hn (by simp)).symm.trans h)
    exact Misread.tooLarge Reads.nil (by simp) (by simp) hn
  | cons c cs ih =>
    by_cases hc : c.isDigit = true
    · constructor
      · intro h
        rw [scan_digit _ hc, Option.getD_none, Nat.zero_mul, Nat.zero_add,
          ← Numeral.value_single c hc] at h
        exact ih.2 _ h
      · intro n h
        rw [scan_digit _ hc, Option.getD_some, ← Numeral.value_snoc n c hc] at h
        simpa only [Numeral.snoc, List.append_assoc, List.singleton_append] using ih.2 _ h
    · have hdigit : c.isDigit = false := Bool.eq_false_iff.mpr hc
      have hhead : ∀ c' ∈ (c :: cs).head?, c'.isDigit = false := by simpa using hdigit
      have hnone : scan none (c :: cs) = .error fault → Misread (c :: cs) fault := by
        intro h
        by_cases hop : c ∈ operatorChars
        · obtain ⟨o, rfl⟩ := mem_operatorChars.mp hop
          rw [scan_operator] at h
          refine (ih.1 ?_).operator o
          cases hscan : scan none cs with
          | error fault' => rw [hscan] at h; exact h
          | ok found => rw [hscan] at h; cases h
        · rw [scan_foreign hdigit hop] at h
          obtain rfl := Except.error.inj h
          exact Misread.foreign Reads.nil hdigit hop
      refine ⟨hnone, fun n h => ?_⟩
      by_cases hn : InRange n.value
      · rw [scan_close hn hhead] at h
        refine Misread.numeral (hnone ?_) hhead hn
        cases hscan : scan none (c :: cs) with
        | error fault' => rw [hscan] at h; exact h
        | ok found => rw [hscan] at h; cases h
      · rw [scan_pending_overflow hn hhead] at h
        obtain rfl := Except.error.inj h
        exact Misread.tooLarge Reads.nil (by simp) hhead hn

/-- The scan reports the first thing that cannot be read. -/
theorem scan_eq_error_iff {cs : List Char} {fault : Fault} :
    scan none cs = .error fault ↔ Misread cs fault :=
  ⟨(misread_of_scan_pending cs fault).1, Misread.scan_eq⟩

/-! ### The tokens of a text -/

variable {expression : String}

theorem tokens_eq_scan (expression : String) : tokens expression =
    if visible expression = [] then .error .empty else scan none (visible expression) := by
  rw [tokens, ← visible]
  cases hcs : visible expression with
  | nil => rfl
  | cons c cs =>
    rw [if_neg (List.cons_ne_nil c cs)]
    cases hscan : scan none (c :: cs) with
    | error fault => rfl
    | ok found =>
      obtain ⟨lexemes, -, -, hword, rfl⟩ := reads_of_scan hscan
      have hne : lexemes ≠ [] := by
        rintro rfl
        cases hword
      cases lexemes with
      | nil => exact absurd rfl hne
      | cons l lexemes => rfl

/-- The tokens of a text are those of lexemes that write its visible characters. -/
theorem exists_lexemes_of_tokens {text : String} {found : List Token}
    (h : tokens text = .ok found) :
    ∃ row : List Lexeme, Separated row ∧ AllFit row ∧ row ≠ [] ∧
      row.flatMap Lexeme.word = visible text ∧ row.map Lexeme.token = found := by
  rw [tokens_eq_scan] at h
  split at h
  · cases h
  next hne =>
  obtain ⟨row, hs, hf, hword, hfound⟩ := reads_of_scan h
  refine ⟨row, hs, hf, ?_, hword, hfound⟩
  rintro rfl
  exact hne hword.symm

theorem visible_eq_nil_iff {text : String} :
    visible text = [] ↔ ∀ c ∈ text.toList, Text.isBlank c = true := by
  simp [visible, List.filter_eq_nil_iff]

theorem tokens_eq_error_iff {fault : Fault} : tokens expression = .error fault ↔
    visible expression = [] ∧ fault = .empty ∨ Misread (visible expression) fault := by
  rw [tokens_eq_scan, ← scan_eq_error_iff]
  by_cases hnil : visible expression = []
  · rw [if_pos hnil, hnil]
    simp [scan, closeNumber, eq_comm]
  · rw [if_neg hnil]
    simp [hnil]

end HiddenEquation.Arithmetic
