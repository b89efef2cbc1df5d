import HiddenEquation.Proofs.Arithmetic.Steps

/-!
# Values behind a division by zero

A division by zero gives the greatest value, and the evaluation goes on with it as with any other
number. In an expression of a few characters that number stays large: a quotient loses no more
digits than its divisor has, and a sum or a difference changes it little. Only a product with zero
brings it back among the small numbers. An expression of five characters has room for that in one
form, a digit divided by zero and multiplied by zero.

## Main definitions

* `CancelsZeroDivision` : a division by zero is followed by a product with zero.
* `Expression.DividesByZero` : an expression divides by zero.
* `zeroQuotientTimesZero` : a digit divided by zero and multiplied by zero.

## Main results

* `Term.le_natAbs_exact` : a term that divides by zero is large, unless a product with zero follows.
* `Expression.le_natAbs_exact_or_word_eq` : an expression of at most five characters that divides by
  zero is large, or it is a digit divided by zero and multiplied by zero.
* `Expression.words_of_uneven` : two expressions with one value, of which one divides by zero and
  the other does not.
-/

namespace HiddenEquation.Arithmetic

/-! ### Operations on a large number -/

/-- The operation is a product with zero. -/
def Step.MultipliesByZero (s : Step) : Prop := s.op = .mul ∧ s.right = 0

/-- A division by zero is followed by a product with zero. -/
def CancelsZeroDivision (steps : List Step) : Prop :=
  ∃ zero factor, [zero, factor].Sublist steps ∧ zero.DividesByZero ∧ factor.MultipliesByZero

theorem CancelsZeroDivision.cons {steps : List Step} (h : CancelsZeroDivision steps) (s : Step) :
    CancelsZeroDivision (s :: steps) := by
  obtain ⟨zero, factor, hsub, hcancels⟩ := h
  exact ⟨zero, factor, hsub.cons s, hcancels⟩

namespace Step

theorem le_natAbs_result_of_dividesByZero {s : Step} {k : Nat} (hs : s.DividesByZero)
    (hk : k ≤ 18) : 10 ^ k ≤ s.result.natAbs := by
  obtain ⟨o, left, right⟩ := s
  obtain ⟨rfl, rfl⟩ : o = .div ∧ right = 0 := hs
  have hresult : result ⟨.div, left, 0⟩ = largest := Operator.exact_div_zero left
  calc 10 ^ k ≤ 10 ^ 18 := Nat.pow_le_pow_right (by decide) hk
    _ ≤ (result ⟨.div, left, 0⟩).natAbs := by rw [hresult]; decide

/-- A factor or a divisor of `l` digits takes at most `l` digits away, unless the factor is zero. -/
theorem le_natAbs_result {s : Step} {k l : Nat} (htight : s.op.bindsTightly = true)
    (hl : 10 ^ (k + l) ≤ s.left.natAbs) (hr : s.right.natAbs < 10 ^ l)
    (hs : ¬s.MultipliesByZero) (hk : k ≤ 18) : 10 ^ k ≤ s.result.natAbs := by
  obtain ⟨o, left, right⟩ := s
  replace hl : 10 ^ (k + l) ≤ left.natAbs := hl
  replace hr : right.natAbs < 10 ^ l := hr
  cases o with
  | add => cases htight
  | sub => cases htight
  | mul =>
    have hright : right ≠ 0 := fun h => hs ⟨rfl, h⟩
    calc 10 ^ k ≤ 10 ^ (k + l) := Nat.pow_le_pow_right (by decide) (Nat.le_add_right k l)
      _ ≤ left.natAbs := hl
      _ ≤ left.natAbs * right.natAbs := Nat.le_mul_of_pos_right _ (Int.natAbs_pos.mpr hright)
      _ = (left * right).natAbs := (Int.natAbs_mul left right).symm
  | div =>
    by_cases hright : right = 0
    · exact le_natAbs_result_of_dividesByZero ⟨rfl, hright⟩ hk
    · have hmul : 10 ^ k * right.natAbs ≤ left.natAbs := by
        calc 10 ^ k * right.natAbs ≤ 10 ^ k * 10 ^ l := Nat.mul_le_mul_left _ hr.le
          _ = 10 ^ (k + l) := (Nat.pow_add 10 k l).symm
          _ ≤ left.natAbs := hl
      calc 10 ^ k ≤ left.natAbs / right.natAbs :=
            (Nat.le_div_iff_mul_le (Int.natAbs_pos.mpr hright)).mpr hmul
        _ = (left.tdiv right).natAbs := (Int.natAbs_tdiv left right).symm
        _ = (result ⟨.div, left, right⟩).natAbs := by simp [result, Operator.exact, hright]

end Step

/-- A sum or a difference is not far from either operand. -/
theorem natAbs_le_exact {o : Operator} (ho : o.bindsTightly = false) (left right : Int) :
    left.natAbs ≤ (o.exact left right).natAbs + right.natAbs ∧
      right.natAbs ≤ (o.exact left right).natAbs + left.natAbs := by
  cases o with
  | add => simp only [Operator.exact]; omega
  | sub => simp only [Operator.exact]; omega
  | mul => cases ho
  | div => cases ho

namespace Chain

section Bound

variable {α : Type} {value : α → Int} {piece : α → List Char} {rest : List (OperatorOf true × α)}
  {start : Int} {k : Nat}

/-- Products and quotients take away at most as many digits as they have characters, unless a factor
is zero. -/
theorem le_natAbs_total
    (hstart : 10 ^ (k + (spellRest Operator.toChar piece rest).length) ≤ start.natAbs)
    (hrest : ∀ link ∈ rest, (value link.2).natAbs < 10 ^ (piece link.2).length)
    (hlen : k + (spellRest Operator.toChar piece rest).length ≤ 18)
    (hno : ∀ s ∈ steps value start rest, ¬s.MultipliesByZero) :
    10 ^ k ≤ (total value start rest).natAbs := by
  induction rest generalizing start with
  | nil => simpa [total] using hstart
  | cons link rest ih =>
    obtain ⟨o, a⟩ := link
    obtain ⟨ha, hrest⟩ := List.forall_mem_cons.mp hrest
    obtain ⟨hs, hno⟩ := List.forall_mem_cons.mp hno
    simp only [spellRest_cons, List.length_cons, List.length_append] at hstart hlen
    have hbehind : 10 ^ (k + (spellRest Operator.toChar piece rest).length + (piece a).length) ≤
        start.natAbs := (Nat.pow_le_pow_right (by decide) (by omega)).trans hstart
    exact ih (Step.le_natAbs_result o.2 hbehind ha hs (by omega)) hrest (by omega) hno

/-- A chain of products and quotients that divides by zero is large, unless a product with zero
follows. -/
theorem le_natAbs_total_of_dividesByZero
    (hrest : ∀ link ∈ rest, (value link.2).natAbs < 10 ^ (piece link.2).length)
    (hlen : k + (spellRest Operator.toChar piece rest).length ≤ 18)
    (hzero : ∃ s ∈ steps value start rest, s.DividesByZero)
    (hno : ¬CancelsZeroDivision (steps value start rest)) :
    10 ^ k ≤ (total value start rest).natAbs := by
  induction rest generalizing start with
  | nil => simp [steps] at hzero
  | cons link rest ih =>
    obtain ⟨o, a⟩ := link
    obtain ⟨-, hrest⟩ := List.forall_mem_cons.mp hrest
    simp only [spellRest_cons, List.length_cons, List.length_append] at hlen
    obtain ⟨s, hs, hz⟩ := hzero
    rcases List.mem_cons.mp hs with rfl | hs
    · -- the quotient is the greatest value, and no factor behind it is zero
      have hquotient : 10 ^ (k + (spellRest Operator.toChar piece rest).length) ≤
          (o.1.exact start (value a)).natAbs :=
        Step.le_natAbs_result_of_dividesByZero hz (by omega)
      change 10 ^ k ≤ (total value (o.1.exact start (value a)) rest).natAbs
      exact le_natAbs_total hquotient hrest (by omega) fun factor hfactor hf =>
        hno ⟨_, factor, (List.singleton_sublist.mpr hfactor).cons_cons _, hz, hf⟩
    · exact ih hrest (by omega) ⟨s, hs, hz⟩ fun h => hno (h.cons _)

end Bound

theorem length_steps {α : Type} {tight : Bool} (value : α → Int) (start : Int)
    (rest : List (OperatorOf tight × α)) : (steps value start rest).length = rest.length := by
  induction rest generalizing start with
  | nil => rfl
  | cons link rest ih => rw [steps, List.length_cons, ih, List.length_cons]

end Chain

/-! ### Numerals and terms -/

namespace Numeral

theorem exists_digits_eq {n : Numeral} (h : n.digits.length = 1) :
    ∃ c, c.isDigit = true ∧ n.digits = [c] := by
  obtain ⟨c, hc⟩ := List.length_eq_one_iff.mp h
  exact ⟨c, n.isDigit_of_mem c (by simp [hc]), hc⟩

/-- The digit that writes zero. -/
theorem digits_eq_zero {n : Numeral} (h : n.digits.length = 1) (hzero : n.value = 0) :
    n.digits = ['0'] := by
  obtain ⟨c, hdigit, hc⟩ := exists_digits_eq h
  have hvalue : c.toNat - '0'.toNat = 0 := by
    simpa [value, hc, Nat.ofDigitChars_cons] using hzero
  rw [hc, eq_zero_of_digit_sub hdigit hvalue]

end Numeral

namespace Term

/-- There are at least two characters to an operation of a term, and one more. -/
theorem two_mul_length_steps_lt (t : Term) : 2 * t.steps.length < t.word.length := by
  rw [steps, Chain.length_steps]
  exact t.two_mul_length_lt

/-- An operation of the term is a division by zero. -/
def DividesByZero (t : Term) : Prop := ∃ s ∈ t.steps, s.DividesByZero

theorem three_le_length {t : Term} (h : t.DividesByZero) : 3 ≤ t.word.length := by
  obtain ⟨s, hs, -⟩ := h
  have := List.length_pos_of_mem hs
  have := t.two_mul_length_steps_lt
  omega

theorem five_le_length {t : Term} (h : CancelsZeroDivision t.steps) : 5 ≤ t.word.length := by
  obtain ⟨zero, factor, hsub, -⟩ := h
  have : 2 ≤ t.steps.length := hsub.length_le
  have := t.two_mul_length_steps_lt
  omega

/-- A term that divides by zero is large, unless a product with zero follows. -/
theorem le_natAbs_exact {t : Term} {k : Nat} (hlen : k + t.word.length ≤ 18)
    (hzero : t.DividesByZero) (hno : ¬CancelsZeroDivision t.steps) : 10 ^ k ≤ t.exact.natAbs := by
  have hfactors : ∀ link ∈ t.rest, (link.2.value : Int).natAbs < 10 ^ link.2.digits.length :=
    fun link _ => by simpa using link.2.value_lt
  rw [length_word] at hlen
  exact Chain.le_natAbs_total_of_dividesByZero hfactors (by omega) hzero hno

/-- Beside a term that divides by zero, four characters leave a digit. -/
theorem le_natAbs_exact_of_short {t u : Term} (hlen : t.word.length + u.word.length ≤ 4)
    (hzero : t.DividesByZero) : 10 ^ 3 + u.exact.natAbs ≤ t.exact.natAbs := by
  have hpos := u.length_pos
  have hthree := three_le_length hzero
  have hlarge : 10 ^ 4 ≤ t.exact.natAbs :=
    le_natAbs_exact (by omega) hzero fun h => by have := five_le_length h; omega
  have hdigit : u.exact.natAbs < 10 ^ u.word.length := by
    refine (steps_bounded (by omega)).2 fun s hs hz => ?_
    have := three_le_length ⟨s, hs, hz⟩
    omega
  have hpow : 10 ^ u.word.length ≤ 10 ^ 1 := Nat.pow_le_pow_right (by decide) (by omega)
  omega

/-- The only term of at most five characters in which a product with zero follows a division by
zero. -/
theorem word_eq_of_cancels {t : Term} (hlen : t.word.length ≤ 5)
    (h : CancelsZeroDivision t.steps) :
    (∃ c, c.isDigit = true ∧ t.word = [c, '/', '0', '*', '0']) ∧ t.exact = 0 := by
  obtain ⟨zero, factor, hsub, hz, hf⟩ := h
  obtain ⟨first, rest⟩ := t
  have hword := two_mul_length_lt ⟨first, rest⟩
  have hsteps : 2 ≤ rest.length := by
    simpa [steps, Chain.length_steps] using hsub.length_le
  obtain ⟨⟨⟨o, ho⟩, n⟩, ⟨⟨o', ho'⟩, n'⟩, rfl⟩ : ∃ link link', rest = [link, link'] :=
    List.length_eq_two.mp (by simp only at hword; omega)
  have heq : [zero, factor] = [⟨o, first.value, n.value⟩, ⟨o', _, n'.value⟩] :=
    hsub.eq_of_length rfl
  simp only [List.cons.injEq, and_true] at heq
  obtain ⟨rfl, rfl⟩ := heq
  obtain ⟨rfl, hn⟩ : o = .div ∧ (n.value : Int) = 0 := hz
  obtain ⟨rfl, hn'⟩ : o' = .mul ∧ (n'.value : Int) = 0 := hf
  have hfirst := first.length_pos
  have hlen₁ := n.length_pos
  have hlen₂ := n'.length_pos
  simp only [length_word, Chain.spellRest_cons, Chain.spellRest_nil, List.length_cons,
    List.length_append, List.length_nil] at hlen
  obtain ⟨c, hc, hdigits⟩ := Numeral.exists_digits_eq (n := first) (by omega)
  have hdigits₁ := Numeral.digits_eq_zero (n := n) (by omega) (by omega)
  have hdigits₂ := Numeral.digits_eq_zero (n := n') (by omega) (by omega)
  refine ⟨⟨c, hc, ?_⟩, ?_⟩
  · simp [word, Chain.spell, hdigits, hdigits₁, hdigits₂, Operator.toChar]
  · simp [exact, Chain.total, hn', Operator.exact]

end Term

/-! ### Expressions -/

namespace Expression

/-- An operation of the expression is a division by zero. -/
def DividesByZero (e : Expression) : Prop := ∃ s ∈ e.steps, s.DividesByZero

/-- A division by zero stands inside a term. -/
theorem dividesByZero_iff {e : Expression} :
    e.DividesByZero ↔ ∃ t ∈ e.allTerms, t.DividesByZero := by
  constructor
  · rintro ⟨s, hs, hz⟩
    rcases List.mem_append.mp hs with hs | hs
    · obtain ⟨t, ht, hs⟩ := List.mem_flatMap.mp hs
      exact ⟨t, ht, s, hs, hz⟩
    · exact absurd hz (Chain.not_dividesByZero_of_mem_steps s hs)
  · rintro ⟨t, ht, s, hs, hz⟩
    exact ⟨s, List.mem_append_left _ (List.mem_flatMap.mpr ⟨t, ht, hs⟩), hz⟩

theorem length_pos (e : Expression) : 0 < e.word.length :=
  e.terms.first.length_pos.trans_le (length_term_le List.mem_cons_self)

theorem three_le_length {e : Expression} (h : e.DividesByZero) : 3 ≤ e.word.length := by
  obtain ⟨t, ht, hz⟩ := dividesByZero_iff.mp h
  exact (Term.three_le_length hz).trans (length_term_le ht)

/-- An expression that does not divide by zero is bounded by its length. -/
theorem natAbs_exact_lt {e : Expression} (hlen : e.word.length ≤ 18) (h : ¬e.DividesByZero) :
    e.exact.natAbs < 10 ^ e.word.length :=
  (sums_bounded hlen fun t ht s hs hz => h (dividesByZero_iff.mpr ⟨t, ht, s, hs, hz⟩)).2

/-- An expression no longer than its first term is that term. -/
theorem first_only_of_length_le {e : Expression}
    (h : e.word.length ≤ e.terms.first.word.length) : e.sign = none ∧ e.terms.rest = [] := by
  have hrest := Chain.two_mul_length_le_spellRest Term.word Term.length_pos e.terms.rest
  rw [length_word] at h
  exact ⟨Option.toList_eq_nil_iff.mp (List.length_eq_zero_iff.mp (by omega)),
    List.length_eq_zero_iff.mp (by omega)⟩

theorem word_first (t : Term) : word ⟨none, t, []⟩ = t.word := by
  simp [word, Chain.spell]

/-- An expression that is one term, with a sign or without. -/
theorem natAbs_exact_of_rest_nil {e : Expression} (h : e.terms.rest = []) :
    e.exact.natAbs = e.terms.first.exact.natAbs := by
  rw [exact, h]
  exact natAbs_signed _ _

/-- Of two terms in five characters, one that divides by zero leaves a digit to the other, and the
digit does not bring the value down. -/
theorem le_natAbs_exact_of_two_terms {sign : Option (OperatorOf false)} {first second : Term}
    {o : OperatorOf false} (hlen : (word ⟨sign, first, [(o, second)]⟩).length ≤ 5)
    (h : first.DividesByZero ∨ second.DividesByZero) :
    10 ^ 3 ≤ (exact ⟨sign, first, [(o, second)]⟩).natAbs := by
  have hnear := natAbs_le_exact o.2 (signed sign first.exact) second.exact
  rw [natAbs_signed] at hnear
  simp only [length_word, Chain.spellRest_cons, Chain.spellRest_nil, List.length_cons,
    List.length_append, List.length_nil] at hlen
  change 10 ^ 3 ≤ (o.1.exact (signed sign first.exact) second.exact).natAbs
  rcases h with h | h
  · have := Term.le_natAbs_exact_of_short (u := second) (by omega) h
    omega
  · have := Term.le_natAbs_exact_of_short (u := first) (by omega) h
    omega

/-- An expression of at most five characters that divides by zero is large, or it is a digit divided
by zero and multiplied by zero. -/
theorem le_natAbs_exact_or_word_eq {e : Expression} (hlen : e.word.length ≤ 5)
    (h : e.DividesByZero) : 10 ^ 3 ≤ e.exact.natAbs ∨
      (∃ c, c.isDigit = true ∧ e.word = [c, '/', '0', '*', '0']) ∧ e.exact = 0 := by
  obtain ⟨t, ht, hz⟩ := dividesByZero_iff.mp h
  have hroom := length_term_add_le ht
  have hterm : t.word.length ≤ 5 := (length_term_le ht).trans hlen
  have hthree := Term.three_le_length hz
  obtain ⟨sign, first, rest⟩ := e
  match rest with
  | [] =>
    obtain rfl : t = first := by simpa [allTerms] using ht
    by_cases hcancels : CancelsZeroDivision t.steps
    · right
      have hfive := Term.five_le_length hcancels
      obtain rfl : sign = none := (first_only_of_length_le (hlen.trans hfive)).1
      rw [word_first]
      exact Term.word_eq_of_cancels hterm hcancels
    · left
      rw [natAbs_exact_of_rest_nil rfl]
      have hlarge : 10 ^ 3 ≤ t.exact.natAbs := Term.le_natAbs_exact (by omega) hz hcancels
      exact hlarge
  | [(o, second)] =>
    left
    obtain rfl | rfl : t = first ∨ t = second := by simpa [allTerms] using ht
    · exact le_natAbs_exact_of_two_terms hlen (Or.inl hz)
    · exact le_natAbs_exact_of_two_terms hlen (Or.inr hz)
  | _ :: _ :: rest =>
    -- three terms do not fit
    simp only [List.length_cons] at hroom
    omega

/-- A single digit whose value is zero. -/
theorem word_eq_zero {e : Expression} (hlen : e.word.length = 1) (hexact : e.exact = 0) :
    e.word = ['0'] := by
  have honly := first_only_of_length_le (hlen.trans_le e.terms.first.length_pos)
  obtain ⟨sign, ⟨n, factors⟩, rest⟩ := e
  obtain ⟨rfl, rfl⟩ : sign = none ∧ rest = [] := honly
  rw [word_first] at hlen ⊢
  have hfactors := Term.two_mul_length_lt ⟨n, factors⟩
  obtain rfl : factors = [] := List.length_eq_zero_iff.mp (by simp only at hfactors; omega)
  have hdigits : n.digits.length = 1 := by simpa [Term.length_word] using hlen
  have hvalue : (n.value : Int) = 0 := hexact
  simp [Term.word, Chain.spell, Numeral.digits_eq_zero hdigits (by omega)]

/-- Two expressions with one value that together have six characters. If one of them divides by
zero and the other does not, the product with zero stands against zero. -/
theorem words_of_uneven {e e' : Expression} (hlen : e.word.length + e'.word.length ≤ 6)
    (hexact : e.exact = e'.exact) (h : e.DividesByZero) (h' : ¬e'.DividesByZero) :
    ∃ c, c.isDigit = true ∧ e.word = [c, '/', '0', '*', '0'] ∧ e'.word = ['0'] := by
  have hpos := e'.length_pos
  have hthree := three_le_length h
  have hsmall := natAbs_exact_lt (by omega) h'
  rcases le_natAbs_exact_or_word_eq (by omega) h with hlarge | ⟨⟨c, hc, hword⟩, hzero⟩
  · have hpow : 10 ^ e'.word.length ≤ 10 ^ 3 := Nat.pow_le_pow_right (by decide) (by omega)
    rw [hexact] at hlarge
    omega
  · rw [hword] at hlen
    refine ⟨c, hc, hword, word_eq_zero ?_ (hexact ▸ hzero)⟩
    simp only [List.length_cons, List.length_nil] at hlen
    omega

end Expression

/-! ### The product with zero -/

/-- A digit divided by zero and multiplied by zero. -/
def zeroQuotientTimesZero (c : Char) (hc : c.isDigit = true) : Expression where
  sign := none
  terms := ⟨⟨.single c hc, [(⟨.div, rfl⟩, .single '0' rfl), (⟨.mul, rfl⟩, .single '0' rfl)]⟩, []⟩

/-- The expression that writes zero with one digit. -/
def zeroDigit : Expression where
  sign := none
  terms := ⟨⟨.single '0' rfl, []⟩, []⟩

theorem dividesByZero_zeroQuotientTimesZero (c : Char) (hc : c.isDigit = true) :
    (zeroQuotientTimesZero c hc).DividesByZero :=
  ⟨_, List.mem_cons_self, rfl, rfl⟩

theorem not_dividesByZero_zeroDigit : ¬zeroDigit.DividesByZero :=
  fun h => absurd (Expression.three_le_length h) (by decide)

theorem value?_zeroQuotientTimesZero (c : Char) (hc : c.isDigit = true) :
    (zeroQuotientTimesZero c hc).value? = some 0 := by
  have hfirst : (Numeral.single c hc).value? = some (Numeral.single c hc).value :=
    Numeral.value?_eq_some_iff.mpr ⟨Numeral.inRange_value (by simp [Numeral.single]), rfl⟩
  have hterm : (zeroQuotientTimesZero c hc).terms.first.value? = some 0 :=
    Option.bind_eq_some_iff.mpr ⟨_, hfirst, rfl⟩
  exact Option.bind_eq_some_iff.mpr ⟨0, hterm, rfl⟩

theorem value?_zeroDigit : zeroDigit.value? = some 0 := rfl

end HiddenEquation.Arithmetic
