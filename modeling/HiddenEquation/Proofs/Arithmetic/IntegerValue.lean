import HiddenEquation.Proofs.Arithmetic.Bounds
import HiddenEquation.Proofs.Arithmetic.Diagnosis
import HiddenEquation.Proofs.Arithmetic.ZeroDivision

/-!
# The value over the integers

A well-formed expression has a value over the unbounded integers: products and quotients first, each
chain from left to right, and quotients truncated toward zero. This value knows no range and no
sentinel. Evaluation agrees with it as long as nothing is divided by zero and the expression has at
most eighteen characters.

## Main definitions

* `Operator.onIntegers`, `Term.integer`, `Expression.integer` : the value over the integers.
* `ExactWithoutZeroDivision` : the evaluation of a text that divides nothing by zero is exact.

## Main results

* `Expression.integer_eq_exact` : without a division by zero, the sentinel plays no part.
* `evaluate_ok_or_overflow` : a well-formed text has a value or overflows.
* `exactWithoutZeroDivision_of_length_le` : evaluation is exact up to eighteen characters.
-/

namespace HiddenEquation

/-- The operation on unbounded integers. -/
def Operator.onIntegers : Operator → Int → Int → Int
  | add, left, right => left + right
  | sub, left, right => left - right
  | mul, left, right => left * right
  | div, left, right => left.tdiv right

namespace Arithmetic

/-- The value of a term over the integers. -/
def Term.integer (t : Term) : Int :=
  t.rest.foldl (fun left link => link.1.1.onIntegers left link.2.value) t.first.value

/-- The value of an expression over the integers. -/
def Expression.integer (e : Expression) : Int :=
  e.terms.rest.foldl (fun left link => link.1.1.onIntegers left link.2.integer)
    (signed e.sign e.terms.first.integer)

theorem Step.onIntegers_eq_result {s : Step} (hs : ¬s.DividesByZero) :
    s.op.onIntegers s.left s.right = s.result := by
  obtain ⟨o, left, right⟩ := s
  cases o with
  | add => rfl
  | sub => rfl
  | mul => rfl
  | div =>
    have hright : right ≠ 0 := fun h => hs ⟨rfl, h⟩
    simp [result, Operator.exact, Operator.onIntegers, hright]

theorem Chain.foldl_onIntegers {α : Type} {tight : Bool} {value value' : α → Int} {start : Int}
    {rest : List (OperatorOf tight × α)} (hvalue : ∀ link ∈ rest, value' link.2 = value link.2)
    (hno : ∀ s ∈ steps value start rest, ¬s.DividesByZero) :
    rest.foldl (fun left link => link.1.1.onIntegers left (value' link.2)) start =
      total value start rest := by
  induction rest generalizing start with
  | nil => rfl
  | cons link rest ih =>
    obtain ⟨hlink, hvalue⟩ := List.forall_mem_cons.mp hvalue
    obtain ⟨hstep, hno⟩ := List.forall_mem_cons.mp hno
    rw [List.foldl_cons, hlink, Step.onIntegers_eq_result hstep]
    exact ih hvalue hno

theorem Term.integer_eq_exact {t : Term} (h : ¬t.DividesByZero) : t.integer = t.exact :=
  Chain.foldl_onIntegers (fun _ _ => rfl) fun s hs hz => h ⟨s, hs, hz⟩

/-- Without a division by zero, the sentinel plays no part. -/
theorem Expression.integer_eq_exact {e : Expression} (h : ¬e.DividesByZero) :
    e.integer = e.exact := by
  have hterm : ∀ t ∈ e.allTerms, t.integer = t.exact := fun t ht =>
    Term.integer_eq_exact fun hz => h (dividesByZero_iff.mpr ⟨t, ht, hz⟩)
  rw [integer, hterm _ List.mem_cons_self]
  exact Chain.foldl_onIntegers
    (fun link hlink => hterm _ (List.mem_cons_of_mem _ (List.mem_map_of_mem hlink)))
    Chain.not_dividesByZero_of_mem_steps

/-! ### A well-formed text has a value or overflows -/

/-- Where every place holds a term, sums can only overflow. -/
theorem addTerms_of_terms {rest : List (OperatorOf false × Term)}
    {values : List (OperatorOf false × Option Int)}
    (hvalues : Skeleton.resolveRest? (rest.map fun link => (link.1, some link.2)) = some values)
    {total : Int} {fault : Fault}
    (h : addTerms total (Chain.spellRest .operator placeTokens values) = .error fault) :
    fault = .overflow := by
  induction rest generalizing total values with
  | nil =>
    obtain rfl : [] = values := Option.some.inj hvalues
    cases h
  | cons link rest ih =>
    obtain ⟨o, t⟩ := link
    obtain ⟨value, hplace, hvalues⟩ := Option.bind_eq_some_iff.mp hvalues
    obtain ⟨values, hrest, hvalues⟩ := Option.bind_eq_some_iff.mp hvalues
    obtain rfl := Option.some.inj hvalues
    obtain ⟨v, -, rfl⟩ := Option.map_eq_some_iff.mp hplace
    change (o.1.apply total v).bind (fun t => addTerms t _) = .error fault at h
    rw [Operator.apply_eq] at h
    cases hfit : fit? (o.1.exact total v) with
    | none =>
      rw [hfit] at h
      exact (Except.error.inj h).symm
    | some next =>
      rw [hfit] at h
      exact ih hrest h

/-- The scan over the sums of a derivation can only overflow. -/
theorem resolveSums_of_expression {e : Expression} {values : Chain false (Option Int)}
    (hvalues : e.skeleton.resolve? = some values) {fault : Fault}
    (h : resolveSums (values.spell .operator placeTokens) = .error fault) : fault = .overflow := by
  obtain ⟨sign, first, rest⟩ := e
  obtain ⟨value, hfirst, hvalues⟩ := Option.bind_eq_some_iff.mp hvalues
  obtain ⟨places, hrest, hvalues⟩ := Option.bind_eq_some_iff.mp hvalues
  obtain rfl := Option.some.inj hvalues
  cases sign with
  | none =>
    obtain ⟨v, -, rfl⟩ := Option.map_eq_some_iff.mp hfirst
    exact addTerms_of_terms hrest h
  | some o =>
    obtain rfl : none = value := Option.some.inj hfirst
    have hplaces : Skeleton.resolveRest? (((o, first) :: rest).map
        fun link => (link.1, some link.2)) = some places := hrest
    obtain ⟨value, hplace, htail⟩ := Option.bind_eq_some_iff.mp hrest
    obtain ⟨tail, -, htail⟩ := Option.bind_eq_some_iff.mp htail
    obtain rfl := Option.some.inj htail
    have hsign := resolveSums_sign o (Skeleton.inRange_of_resolvePlace? hplace) tail
    exact addTerms_of_terms hplaces (hsign.symm.trans h)

/-- A well-formed text has a value or overflows. -/
theorem evaluate_ok_or_overflow {text : String} {e : Expression} (he : e.word = visible text) :
    (∃ v, evaluate text = .ok v) ∨ evaluate text = .error .overflow := by
  cases h : evaluate text with
  | ok v => exact Or.inl ⟨v, rfl⟩
  | error fault =>
    right
    congr 1
    have hs : Separated e.lexemes := e.skeleton.separated_lexemes
    by_cases hf : AllFit e.lexemes
    · rw [evaluate_of_lexemes hs hf e.lexemes_ne_nil (e.flatMap_word_lexemes.trans he),
        Expression.lexemes, resolveProducts_skeleton hf] at h
      cases hvalues : e.skeleton.resolve? with
      | none =>
        rw [hvalues] at h
        exact (Except.error.inj h).symm
      | some values =>
        rw [hvalues] at h
        exact resolveSums_of_expression hvalues h
    · have hscan : scan none (visible text) = .error .overflow := by
        rw [← he, ← e.flatMap_word_lexemes]
        exact scan_word_overflow hs hf
      have htokens : tokens text = .error .overflow :=
        tokens_eq_error_iff.mpr (Or.inr (scan_eq_error_iff.mp hscan))
      rw [evaluate_eq_bind, htokens] at h
      exact (Except.error.inj h).symm

/-! ### Exact evaluation -/

/-- The evaluation of a text that divides nothing by zero is exact: it does not overflow, no result
on the way has more digits than the text has visible characters, and if the text is well formed, its
value is the one over the integers, which is not the sentinel. -/
def ExactWithoutZeroDivision (text : String) : Prop :=
  ¬DividesByZero text →
    evaluate text ≠ .error .overflow ∧
    (∀ s ∈ operations text, s.result.natAbs < 10 ^ (visible text).length) ∧
    ∀ e : Expression, e.word = visible text → evaluate text = .ok e.integer ∧
      e.integer.natAbs < 10 ^ (visible text).length ∧ e.integer ≠ undefinedValue

theorem natAbs_lt_of_evaluate {text : String} (hlen : (visible text).length ≤ 18)
    (hno : ¬DividesByZero text) {v : Int} (h : evaluate text = .ok v) :
    v.natAbs < 10 ^ (visible text).length :=
  (recordEvaluation_bounded hlen fun s hs hz => hno ⟨s, hs, hz⟩).2.2 v
    ((outcome_recordEvaluation text).trans h)

/-- A number of at most eighteen digits is not the sentinel. -/
theorem ne_undefinedValue {n : Int} {k : Nat} (hn : n.natAbs < 10 ^ k) (hk : k ≤ 18) :
    n ≠ undefinedValue := by
  rintro rfl
  have hpow : 10 ^ k ≤ 10 ^ 18 := Nat.pow_le_pow_right (by decide) hk
  exact absurd (hn.trans_le hpow) (by decide)

/-- Evaluation is exact up to eighteen characters. -/
theorem exactWithoutZeroDivision_of_length_le {text : String}
    (hlen : (visible text).length ≤ 18) : ExactWithoutZeroDivision text := by
  intro hno
  obtain ⟨hsteps, hoverflow, -⟩ :=
    recordEvaluation_bounded hlen fun s hs hz => hno ⟨s, hs, hz⟩
  rw [outcome_recordEvaluation] at hoverflow
  refine ⟨hoverflow, hsteps, fun e he => ?_⟩
  obtain ⟨v, hv⟩ := (evaluate_ok_or_overflow he).resolve_right hoverflow
  have hvalue := (evaluate_eq_ok_iff_value? he v).mp hv
  have hzero : ¬e.DividesByZero := by
    rintro ⟨s, hs, hz⟩
    exact hno ⟨s, operations_eq_steps he hvalue ▸ hs, hz⟩
  have hinteger : e.integer = v :=
    (Expression.integer_eq_exact hzero).trans (Expression.value?_eq_some_iff.mp hvalue).2.2
  have hbound := natAbs_lt_of_evaluate hlen hno hv
  rw [hinteger]
  exact ⟨hv, hbound, ne_undefinedValue hbound hlen⟩

/-- With at most eighteen characters, only a division by zero leads to the sentinel. -/
theorem dividesByZero_of_evaluate_eq_undefinedValue {text : String}
    (hlen : (visible text).length ≤ 18) (h : evaluate text = .ok undefinedValue) :
    DividesByZero text := by
  by_contra hno
  exact ne_undefinedValue (natAbs_lt_of_evaluate hlen hno h) hlen rfl

end Arithmetic

end HiddenEquation
