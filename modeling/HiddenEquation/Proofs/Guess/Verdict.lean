import HiddenEquation.Proofs.Arithmetic.Evaluation
import HiddenEquation.Proofs.Guess.Rules

/-!
# The verdict on a guess

The last two rules for guesses compare the values of the two sides of an equals sign. No rule asks
for a single equals sign. A second one stays in the right side, where the grammar derives no equals
sign, and so it is reported as a side without a value.

## Main definitions

* `Verdict` : the first rule that a text breaks, or the equation that it is.

## Main results

* `evaluate_side_iff` : a side of an equation has a value exactly if it does not fail.
* `breaks_calculation_iff`, `breaks_sidesDiffer_iff` : the last two rules in terms of `balance`.
* `validate_eq_iff_verdict` : validation finds the verdict.
* `accepted_iff_words` : the accepted texts, in terms of derivations and their values.
-/

namespace HiddenEquation.Guess

open Arithmetic

/-! ### The two sides -/

theorem sides_eq {text : String} {left right : List Char}
    (h : text.toList = left ++ '=' :: right) (hl : '=' ∉ left) :
    sides text = (String.ofList left, String.ofList right) := by
  have hleft : ∀ c ∈ left, (c != '=') = true := by
    intro c hc
    rw [bne_iff_ne]
    rintro rfl
    exact hl hc
  simp only [sides, h, List.takeWhile_append_of_pos hleft, List.dropWhile_append_of_pos hleft]
  simp

/-- The sides of the first equals sign have the values that balancing finds. -/
theorem balance_eq_ok_iff {text : String} {left right : List Char}
    (htext : text.toList = left ++ '=' :: right) (hleft : '=' ∉ left) {l r : Int} :
    balance text = .ok (l, r) ↔
      evaluate (String.ofList left) = .ok l ∧ evaluate (String.ofList right) = .ok r := by
  rw [balance, sides_eq htext hleft]
  cases evaluate (String.ofList left) with
  | error fault => simp [bind, Except.bind]
  | ok l' =>
    cases evaluate (String.ofList right) with
    | error fault => simp [bind, Except.bind]
    | ok r' => simp [bind, Except.bind, pure, Except.pure]

/-- Two operators side by side belong to one side, because an equals sign is no operator. -/
theorem isChain_sides_iff {left right : List Char} :
    (left ++ '=' :: right).IsChain (fun a b => ¬(a ∈ operatorChars ∧ b ∈ operatorChars)) ↔
      left.IsChain (fun a b => ¬(a ∈ operatorChars ∧ b ∈ operatorChars)) ∧
        right.IsChain fun a b => ¬(a ∈ operatorChars ∧ b ∈ operatorChars) := by
  have hequals : '=' ∉ operatorChars := by decide
  rw [List.isChain_append, List.isChain_cons]
  constructor
  · rintro ⟨hleft, ⟨-, hright⟩, -⟩
    exact ⟨hleft, hright⟩
  · rintro ⟨hleft, hright⟩
    refine ⟨hleft, ⟨fun _ _ hop => hequals hop.1, hright⟩, ?_⟩
    rintro c - d hd ⟨-, hop⟩
    obtain rfl : '=' = d := by simpa using hd
    exact hequals hop

/-! ### The value of a side -/

theorem isBlank_of_isLegal {c : Char} (hc : IsLegal c) : Text.isBlank c = false := by
  have hdigit : ∀ d : Fin 10, Text.isBlank (Symbol.digit d).toChar = false := by decide
  obtain ⟨d | o | _, rfl⟩ := isLegal_iff.mp hc
  · exact hdigit d
  · cases o <;> decide
  · decide

theorem visible_ofList {cs : List Char} (h : ∀ c ∈ cs, IsLegal c) :
    visible (String.ofList cs) = cs := by
  rw [visible, String.toList_ofList, List.filter_eq_self]
  intro c hc
  simp [isBlank_of_isLegal (h c hc)]

theorem equals_not_mem_word (e : Expression) : '=' ∉ e.word := by
  intro h
  have hs : Spaced e.word := (exists_expression_iff.mp ⟨e, rfl⟩).1
  rcases hs.symbols '=' h with hd | ho
  · cases hd
  · simp [operatorChars] at ho

theorem isLegal_of_mem_word {e : Expression} {c : Char} (hc : c ∈ e.word) : IsLegal c := by
  have hs : Spaced e.word := (exists_expression_iff.mp ⟨e, rfl⟩).1
  exact (hs.symbols c hc).imp_right Or.inl

/-- The value of a side that the grammar derives. -/
theorem evaluate_word_iff {e : Expression} {v : Int} :
    evaluate (String.ofList e.word) = .ok v ↔ e.value? = some v :=
  evaluate_eq_ok_iff_value? (visible_ofList fun _ => isLegal_of_mem_word).symm v

/-- A side with a value is derived by the grammar. -/
theorem exists_word_of_evaluate {side : List Char} (h : ∀ c ∈ side, IsLegal c) {v : Int}
    (hv : evaluate (String.ofList side) = .ok v) : ∃ e : Expression, e.word = side := by
  obtain ⟨e, he⟩ := exists_expression_of_evaluate hv
  exact ⟨e, he.trans (visible_ofList h)⟩

/-- A side of at most eighteen characters has a value exactly if it does not fail. -/
theorem evaluate_side_iff {side : List Char} (hs : Spaced side) (hlen : side.length ≤ 18) :
    (∃ v, evaluate (String.ofList side) = .ok v) ↔ ¬SideFails side := by
  constructor
  · rintro ⟨v, hv⟩ (hd | ⟨e, rfl, hout⟩)
    · have hword := exists_word_of_evaluate (fun c hc => (hs.symbols c hc).imp_right Or.inl) hv
      exact (exists_expression_iff.mp hword).2 hd
    · have hnone := (Expression.value?_eq_none_iff hlen).mpr hout
      rw [evaluate_word_iff, hnone] at hv
      cases hv
  · intro hfails
    obtain ⟨hd, hout⟩ := not_or.mp hfails
    obtain ⟨e, rfl⟩ := exists_expression_iff.mpr ⟨hs, hd⟩
    cases hv : e.value? with
    | none => exact absurd ⟨e, rfl, (Expression.value?_eq_none_iff hlen).mp hv⟩ hout
    | some v => exact ⟨v, evaluate_word_iff.mpr hv⟩

/-! ### The last two rules -/

/-- What the rules about form leave open about a text: it is an equation with an equals sign and
without adjacent operators. -/
structure WellFormed (text : String) : Prop where
  length : text.toList.length = 7
  equals : '=' ∈ text.toList
  isLegal : ∀ c ∈ text.toList, IsLegal c
  isChain : text.toList.IsChain fun a b => ¬(a ∈ operatorChars ∧ b ∈ operatorChars)

theorem KeepsBefore.wellFormed {text : String} (h : KeepsBefore text .calculation) :
    WellFormed text where
  length := not_not.mp (h .wrongLength (by decide))
  equals := not_not.mp (h .missingEquals (by decide))
  isLegal := by simpa [Breaks] using h .illegalCharacter (by decide)
  isChain := by
    have hadj := h .consecutiveOperators (by decide)
    rwa [breaks_consecutiveOperators_iff, Bool.not_eq_true, hasAdjacentOperators_eq_false_iff]
      at hadj

/-- Seven characters with two derivations around an equals sign are well-formed. -/
theorem WellFormed.of_words {text : String} {left right : Expression}
    (hlen : text.toList.length = 7) (htext : text.toList = left.word ++ '=' :: right.word) :
    WellFormed text where
  length := hlen
  equals := by simp [htext]
  isLegal := by
    intro c hc
    rw [htext, List.mem_append, List.mem_cons] at hc
    rcases hc with hc | rfl | hc
    · exact isLegal_of_mem_word hc
    · exact Or.inr (Or.inr rfl)
    · exact isLegal_of_mem_word hc
  isChain := by
    rw [htext]
    exact isChain_sides_iff.mpr ⟨(exists_expression_iff.mp ⟨left, rfl⟩).1.isChain,
      (exists_expression_iff.mp ⟨right, rfl⟩).1.isChain⟩

/-- A side of a well-formed text is spaced if it has no equals sign. -/
theorem WellFormed.spaced {text : String} (h : WellFormed text) {side : List Char}
    (hwithin : side <:+: text.toList) (hside : '=' ∉ side) : Spaced side where
  symbols := by
    intro c hc
    rcases h.isLegal c (hwithin.subset hc) with hd | ho | rfl
    · exact Or.inl hd
    · exact Or.inr ho
    · exact absurd hc hside
  isChain := h.isChain.infix hwithin

/-- If there is one equals sign, the rule about calculation is broken exactly if a side fails. -/
theorem breaks_calculation_iff_sideFails {text : String} {left right : List Char}
    (htext : text.toList = left ++ '=' :: right) (hleft : '=' ∉ left) (hright : '=' ∉ right) :
    Breaks text .calculation ↔ SideFails left ∨ SideFails right := by
  constructor
  · rintro (hcount | ⟨left', right', htext', -, -, hfails⟩)
    · rw [htext, List.count_append, List.count_cons_self, List.count_eq_zero.mpr hleft,
        List.count_eq_zero.mpr hright] at hcount
      omega
    · rw [htext] at htext'
      obtain ⟨rfl, -, rfl⟩ := (List.append_cons_inj_of_notMem hleft hright).mp htext'
      exact hfails
  · exact fun hfails => Or.inr ⟨left, right, htext, hleft, hright, hfails⟩

/-- Both sides of a well-formed text have values exactly if the rule about calculation is kept. -/
theorem breaks_calculation_iff {text : String} (h : WellFormed text) :
    Breaks text .calculation ↔ ∀ l r, balance text ≠ .ok (l, r) := by
  obtain ⟨left, right, htext, hleft⟩ := List.eq_append_cons_of_mem h.equals
  have hl : left <:+: text.toList := ⟨[], '=' :: right, by simp [htext]⟩
  have hr : right <:+: text.toList := ⟨left ++ ['='], [], by simp [htext]⟩
  by_cases hright : '=' ∈ right
  · -- the grammar derives no equals sign, so the right side has no value
    refine iff_of_true (Or.inl ?_) fun l r hok => ?_
    · have := List.count_pos_iff.mpr hright
      rw [htext, List.count_append, List.count_cons_self]
      omega
    · obtain ⟨e, rfl⟩ := exists_word_of_evaluate (fun c hc => h.isLegal c (hr.subset hc))
        ((balance_eq_ok_iff htext hleft).mp hok).2
      exact equals_not_mem_word e hright
  · have hlen := h.length
    have hvalues : (∃ l r, balance text = .ok (l, r)) ↔ ¬(SideFails left ∨ SideFails right) := by
      rw [not_or, ← evaluate_side_iff (h.spaced hl hleft) (hl.length_le.trans (by omega)),
        ← evaluate_side_iff (h.spaced hr hright) (hr.length_le.trans (by omega))]
      simp only [balance_eq_ok_iff htext hleft, exists_and_left, exists_and_right]
    rw [breaks_calculation_iff_sideFails htext hleft hright, ← not_iff_not, ← hvalues]
    simp

/-- The two sides have the values of the expressions that they write. -/
theorem balance_words {text : String} {left right : Expression}
    (htext : text.toList = left.word ++ '=' :: right.word) {l r : Int}
    (hb : balance text = .ok (l, r)) : left.exact = l ∧ right.exact = r := by
  rw [balance_eq_ok_iff htext (equals_not_mem_word left), evaluate_word_iff, evaluate_word_iff,
    Expression.value?_eq_some_iff, Expression.value?_eq_some_iff] at hb
  exact ⟨hb.1.2.2, hb.2.2.2⟩

/-- If both sides of a well-formed text have values, the grammar derives both. -/
theorem WellFormed.exists_words {text : String} (h : WellFormed text) {l r : Int}
    (hb : balance text = .ok (l, r)) : ∃ left right : Expression,
      text.toList = left.word ++ '=' :: right.word ∧ left.value? = some l ∧
        right.value? = some r := by
  obtain ⟨left, right, htext, hleft⟩ := List.eq_append_cons_of_mem h.equals
  obtain ⟨hl, hr⟩ := (balance_eq_ok_iff htext hleft).mp hb
  obtain ⟨le, rfl⟩ := exists_word_of_evaluate (fun c hc => h.isLegal c (by simp [htext, hc])) hl
  obtain ⟨re, rfl⟩ := exists_word_of_evaluate (fun c hc => h.isLegal c (by simp [htext, hc])) hr
  exact ⟨le, re, htext, evaluate_word_iff.mp hl, evaluate_word_iff.mp hr⟩

/-- If both sides of a well-formed text have values, the last rule is broken exactly if these
differ. -/
theorem breaks_sidesDiffer_iff {text : String} (h : WellFormed text) {l r : Int}
    (hb : balance text = .ok (l, r)) : Breaks text .sidesDiffer ↔ l ≠ r := by
  constructor
  · rintro ⟨left, right, htext, hne⟩
    obtain ⟨rfl, rfl⟩ := balance_words htext hb
    exact hne
  · intro hne
    obtain ⟨left, right, htext, -, -⟩ := h.exists_words hb
    obtain ⟨rfl, rfl⟩ := balance_words htext hb
    exact ⟨left, right, htext, hne⟩

/-! ### The verdict -/

/-- The verdict on a text: the first rule that it breaks, or the equation that it is if it breaks
none. -/
def Verdict (text : String) : Except Rejection Equation → Prop
  | .error r => Breaks text r ∧ ∀ r' : Rejection, r'.rank < r.rank → ¬Breaks text r'
  | .ok e => e.text = text ∧ ∀ r, ¬Breaks text r

/-- There is one verdict on a text. -/
theorem Verdict.unique {text : String} : ∀ {a b : Except Rejection Equation},
    Verdict text a → Verdict text b → a = b
  | .error r, .error r', ha, hb => by
    rcases Nat.lt_trichotomy r.rank r'.rank with hlt | heq | hlt
    · exact absurd ha.1 (hb.2 r hlt)
    · rw [Rejection.rank_injective heq]
    · exact absurd hb.1 (ha.2 r' hlt)
  | .error r, .ok _, ha, hb => absurd ha.1 (hb.2 r)
  | .ok _, .error r, ha, hb => absurd hb.1 (ha.2 r)
  | .ok e, .ok e', ha, hb => by
    have hread := Equation.ofString_eq_ok_iff.mpr (ha.1.trans hb.1.symm)
    rw [Equation.ofString_text] at hread
    rw [Except.ok.inj hread]

/-- Validation finds the verdict. -/
theorem verdict_validate (text : String) : Verdict text (validate text) := by
  have hform := judgesForm_checkForm text
  rw [validate]
  cases hcheck : checkForm text with
  | error r =>
    rw [hcheck] at hform
    exact hform
  | ok e =>
    rw [hcheck] at hform
    obtain ⟨he, hkeeps⟩ := hform
    have hw := hkeeps.wellFormed
    have hcalc := breaks_calculation_iff hw
    cases hb : balance text with
    | error fault => exact ⟨hcalc.mpr (by simp [hb]), hkeeps⟩
    | ok values =>
      obtain ⟨l, r⟩ := values
      have hkeeps : KeepsBefore text .sidesDiffer :=
        hkeeps.next (fun h => hcalc.mp h l r hb) rfl
      have hdiffer := breaks_sidesDiffer_iff hw hb
      change Verdict text ((if l = r then .ok () else .error .sidesDiffer :
        Except Rejection Unit).bind fun _ => .ok e)
      by_cases hlr : l = r
      · rw [if_pos hlr]
        exact ⟨he, hkeeps.all fun h => hdiffer.mp h hlr⟩
      · rw [if_neg hlr]
        exact ⟨hdiffer.mpr hlr, hkeeps⟩

theorem validate_eq_iff_verdict {text : String} {outcome : Except Rejection Equation} :
    validate text = outcome ↔ Verdict text outcome :=
  ⟨fun h => h ▸ verdict_validate text, fun h => (verdict_validate text).unique h⟩

/-- A text is accepted as the equation that it writes. -/
theorem text_eq_of_validate {text : String} {e : Equation} (h : validate text = .ok e) :
    e.text = text :=
  (validate_eq_iff_verdict.mp h).1

/-- The text of an equation is accepted as that equation or not at all. -/
theorem eq_of_validate_text {e accepted : Equation} (h : validate e.text = .ok accepted) :
    accepted = e := by
  have hread := Equation.ofString_eq_ok_iff.mpr (text_eq_of_validate h).symm
  rw [Equation.ofString_text] at hread
  exact (Except.ok.inj hread).symm

/-- A well-formed text is accepted exactly if it has an operator and its sides have one value. -/
theorem WellFormed.accepted_iff {text : String} (hw : WellFormed text) :
    (∃ e, validate text = .ok e) ↔
      (∃ c ∈ text.toList, c ∈ operatorChars) ∧ ∃ v, balance text = .ok (v, v) := by
  constructor
  · rintro ⟨e, h⟩
    obtain ⟨-, hno⟩ := validate_eq_iff_verdict.mp h
    obtain ⟨l, r, hb⟩ : ∃ l r, balance text = .ok (l, r) := by
      simpa using mt (breaks_calculation_iff hw).mpr (hno .calculation)
    obtain rfl : l = r := not_not.mp (mt (breaks_sidesDiffer_iff hw hb).mpr (hno .sidesDiffer))
    exact ⟨by simpa [Breaks] using hno .missingOperator, l, hb⟩
  · rintro ⟨hop, v, hb⟩
    have hlegal : ¬Breaks text .illegalCharacter := by simpa [Breaks] using hw.isLegal
    obtain ⟨e, he⟩ : ∃ e, Equation.ofString text = .ok e := by
      simpa using mt (breaks_illegalCharacter_iff hw.length).mpr hlegal
    refine ⟨e, validate_eq_iff_verdict.mpr ⟨(Equation.ofString_eq_ok_iff.mp he).symm, ?_⟩⟩
    intro r
    cases r with
    | wrongLength => exact not_not.mpr hw.length
    | missingEquals => exact not_not.mpr hw.equals
    | missingOperator => simpa [Breaks] using hop
    | consecutiveOperators =>
      rw [breaks_consecutiveOperators_iff, hasAdjacentOperators_eq_false_iff.mpr hw.isChain]
      exact Bool.false_ne_true
    | illegalCharacter => exact hlegal
    | calculation => exact fun h => (breaks_calculation_iff hw).mp h v v hb
    | sidesDiffer => exact fun h => (breaks_sidesDiffer_iff hw hb).mp h rfl

/-- The accepted texts are those of seven characters with an operator in which derivations of one
value stand on both sides of an equals sign. -/
theorem accepted_iff_words {text : String} : (∃ e, validate text = .ok e) ↔
    text.toList.length = 7 ∧ (∃ c ∈ text.toList, c ∈ operatorChars) ∧
      ∃ (left right : Expression) (v : Int), text.toList = left.word ++ '=' :: right.word ∧
        left.value? = some v ∧ right.value? = some v := by
  constructor
  · rintro ⟨e, h⟩
    have hw : WellFormed text :=
      KeepsBefore.wellFormed fun r _ => (validate_eq_iff_verdict.mp h).2 r
    obtain ⟨hop, v, hb⟩ := hw.accepted_iff.mp ⟨e, h⟩
    obtain ⟨left, right, htext, hl, hr⟩ := hw.exists_words hb
    exact ⟨hw.length, hop, left, right, v, htext, hl, hr⟩
  · rintro ⟨hlen, hop, left, right, v, htext, hl, hr⟩
    have hb : balance text = .ok (v, v) :=
      (balance_eq_ok_iff htext (equals_not_mem_word left)).mpr
        ⟨evaluate_word_iff.mpr hl, evaluate_word_iff.mpr hr⟩
    exact (WellFormed.of_words hlen htext).accepted_iff.mpr ⟨hop, v, hb⟩

/-- **Validation reports the first rule that a text breaks, and accepts the texts that break none.**
Whatever it accepts has exactly one equals sign, although no rule asks for that. -/
theorem validate_reports_first_broken_rule (text : String) :
    (∀ r : Rejection, validate text = .error r ↔
      Breaks text r ∧ ∀ r' : Rejection, r'.rank < r.rank → ¬Breaks text r') ∧
    (∀ e, validate text = .ok e ↔ e.text = text ∧ ∀ r, ¬Breaks text r) ∧
    (∀ e, validate text = .ok e → text.toList.count '=' = 1) := by
  refine ⟨fun r => validate_eq_iff_verdict, fun e => validate_eq_iff_verdict, fun e h => ?_⟩
  obtain ⟨-, hno⟩ := validate_eq_iff_verdict.mp h
  have hpos : 0 < text.toList.count '=' :=
    List.count_pos_iff.mpr (not_not.mp (hno .missingEquals))
  have hfew : ¬2 ≤ text.toList.count '=' := fun h => hno .calculation (Or.inl h)
  omega

/-- Two divisions by zero balance each other. -/
theorem validate_two_zero_divisions : ∃ e, validate "8/0=9/0" = .ok e ∧
    "8/0=9/0".toList.count '=' = 1 :=
  ⟨_, rfl, (validate_reports_first_broken_rule "8/0=9/0").2.2 _ rfl⟩

/-- The quotient by zero is the greatest value, and a greater sum is no value. -/
example : validate "8/0+1=9" = .error .calculation := by rfl

end HiddenEquation.Guess
