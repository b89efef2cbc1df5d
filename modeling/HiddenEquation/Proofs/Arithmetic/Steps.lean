import HiddenEquation.Proofs.Arithmetic.Grammar
import Mathlib.Algebra.Order.Ring.Nat
import Mathlib.Data.List.Basic

/-!
# The operations of an evaluation

This file follows an evaluation operation by operation over the unbounded integers. A derivation has
a value exactly if every numeral and every result fits in 64 bits. In an expression of at most
eighteen characters a result can leave that range only after a division by zero: without one, an
expression of `n` characters stays below `10 ^ n`.

## Main definitions

* `Step` : one operation with its operands.
* `Expression.steps`, `Expression.exact` : the operations of an expression in the order in which
  they are carried out, and its exact value.
* `Expression.LeavesRangeAfterZeroDivision` : a division by zero is followed by a result that does
  not fit.

## Main results

* `Expression.value?_eq_some_iff` : when a derivation has a value, and which.
* `Expression.value?_eq_none_iff` : why a derivation of at most eighteen characters has no value.
-/

namespace HiddenEquation.Arithmetic

/-- One operation of an evaluation. -/
structure Step where
  op : Operator
  left : Int
  right : Int

namespace Step

/-- The exact result of an operation. -/
def result (s : Step) : Int := s.op.exact s.left s.right

/-- The operation is a division by zero. -/
def DividesByZero (s : Step) : Prop := s.op = .div ∧ s.right = 0

instance : DecidablePred DividesByZero := fun s =>
  inferInstanceAs (Decidable (s.op = .div ∧ s.right = 0))

end Step

namespace Chain

variable {α : Type} {tight : Bool} (value : α → Int)

/-- The operations of a chain, starting from a value. -/
def steps (start : Int) : List (OperatorOf tight × α) → List Step
  | [] => []
  | (o, piece) :: rest =>
    ⟨o.1, start, value piece⟩ :: steps (o.1.exact start (value piece)) rest

/-- The exact result of the operations of a chain. -/
def total (start : Int) (rest : List (OperatorOf tight × α)) : Int :=
  rest.foldl (fun left link => link.1.1.exact left (value link.2)) start

end Chain

/-- The exact value of a term. -/
def Term.exact (t : Term) : Int := Chain.total (fun n => n.value) t.first.value t.rest

/-- The operations of a term. -/
def Term.steps (t : Term) : List Step := Chain.steps (fun n => n.value) t.first.value t.rest

namespace Expression

/-- The terms of an expression. -/
def allTerms (e : Expression) : List Term := e.terms.first :: e.terms.rest.map Prod.snd

/-- The exact value of the first term with the sign of the expression. -/
def start (e : Expression) : Int := signed e.sign e.terms.first.exact

/-- The exact value of an expression. -/
def exact (e : Expression) : Int := Chain.total Term.exact e.start e.terms.rest

/-- The operations of an expression: those inside its terms, then the sums and differences. -/
def steps (e : Expression) : List Step :=
  e.allTerms.flatMap Term.steps ++ Chain.steps Term.exact e.start e.terms.rest

/-- A division by zero is followed by a result that does not fit. -/
def LeavesRangeAfterZeroDivision (e : Expression) : Prop :=
  ∃ zero out, [zero, out].Sublist e.steps ∧ zero.DividesByZero ∧ ¬InRange out.result

end Expression

/-! ### When a derivation has a value -/

/-- Operations can be carried out exactly if their operands have values and their results fit. -/
theorem Chain.carryOn_eq_some_iff {α : Type} {tight : Bool} {value? : α → Option Int}
    {value : α → Int} (hvalue : ∀ {a n}, value? a = some n → n = value a) {start v : Int}
    {rest : List (OperatorOf tight × α)} :
    carryOn value? start rest = some v ↔ (∀ link ∈ rest, value? link.2 = some (value link.2)) ∧
      (∀ s ∈ steps value start rest, InRange s.result) ∧ total value start rest = v := by
  induction rest generalizing start with
  | nil => simp [carryOn, steps, total]
  | cons link rest ih =>
    obtain ⟨o, piece⟩ := link
    simp only [carryOn, steps, Option.bind_eq_bind, Option.bind_eq_some_iff, fit?_eq_some_iff,
      List.forall_mem_cons, ih]
    constructor
    · rintro ⟨right, hright, _, ⟨hfit, rfl⟩, hrest, hsteps, htotal⟩
      obtain rfl := hvalue hright
      exact ⟨⟨hright, hrest⟩, ⟨hfit, hsteps⟩, htotal⟩
    · rintro ⟨⟨hright, hrest⟩, ⟨hfit, hsteps⟩, htotal⟩
      exact ⟨_, hright, _, ⟨hfit, rfl⟩, hrest, hsteps, htotal⟩

/-- The numerals of a term fit. -/
def Term.NumeralsFit (t : Term) : Prop :=
  InRange t.first.value ∧ ∀ link ∈ t.rest, InRange link.2.value

theorem Term.value?_eq_some_iff {t : Term} {v : Int} :
    t.value? = some v ↔ t.NumeralsFit ∧ (∀ s ∈ t.steps, InRange s.result) ∧ t.exact = v := by
  have hnumeral {n : Numeral} {v : Int} (h : n.value? = some v) : v = n.value :=
    (Numeral.value?_eq_some_iff.mp h).2.symm
  simp only [value?, Option.bind_eq_bind, Option.bind_eq_some_iff, Numeral.value?_eq_some_iff,
    Chain.carryOn_eq_some_iff hnumeral]
  simp [NumeralsFit, steps, exact, and_assoc]

/-- A derivation has a value exactly if its numerals and all results fit, and the value is exact. -/
theorem Expression.value?_eq_some_iff {e : Expression} {v : Int} :
    e.value? = some v ↔ (∀ t ∈ e.allTerms, t.NumeralsFit) ∧ (∀ s ∈ e.steps, InRange s.result) ∧
      e.exact = v := by
  have hterm {t : Term} {v : Int} (h : t.value? = some v) : v = t.exact :=
    (Term.value?_eq_some_iff.mp h).2.2.symm
  simp only [value?, Option.bind_eq_bind, Option.bind_eq_some_iff,
    Chain.carryOn_eq_some_iff hterm, Term.value?_eq_some_iff, allTerms, steps, exact, start,
    List.forall_mem_cons, List.forall_mem_append, List.forall_mem_map, List.forall_mem_flatMap]
  constructor
  · rintro ⟨_, ⟨hfit, hsteps, rfl⟩, hrest, hsums, htotal⟩
    exact ⟨⟨hfit, fun link hl => (hrest link hl).1⟩,
      ⟨⟨hsteps, fun link hl => (hrest link hl).2.1⟩, hsums⟩, htotal⟩
  · rintro ⟨⟨hfit, hfits⟩, ⟨⟨hsteps, hrest⟩, hsums⟩, htotal⟩
    exact ⟨_, ⟨hfit, hsteps, rfl⟩, fun link hl => ⟨hfits link hl, hrest link hl, trivial⟩,
      hsums, htotal⟩

/-! ### Size and length -/

theorem digit_sub_lt_ten {c : Char} (hc : c.isDigit = true) : c.toNat - '0'.toNat < 10 := by
  have := (Char.isDigit_iff_toNat.mp hc).2
  simp only [Char.reduceToNat] at this ⊢
  omega

theorem eq_zero_of_digit_sub {c : Char} (hc : c.isDigit = true) (hzero : c.toNat - '0'.toNat = 0) :
    c = '0' := by
  have := (Char.isDigit_iff_toNat.mp hc).1
  refine Char.toNat_inj.mp ?_
  simp only [Char.reduceToNat] at this hzero ⊢
  omega

theorem ofDigitChars_lt {digits : List Char} (hd : ∀ c ∈ digits, c.isDigit = true) (n : Nat) :
    Nat.ofDigitChars 10 digits n < 10 ^ digits.length * (n + 1) := by
  induction digits generalizing n with
  | nil => simp
  | cons c digits ih =>
    have hc : c.toNat - '0'.toNat < 10 := digit_sub_lt_ten (hd c List.mem_cons_self)
    rw [Nat.ofDigitChars_cons, List.length_cons, Nat.pow_succ, Nat.mul_assoc]
    exact (ih (fun c' hc' => hd c' (List.mem_cons_of_mem _ hc')) _).trans_le
      (Nat.mul_le_mul_left _ (by omega))

/-- A numeral of `n` digits is below `10 ^ n`. -/
theorem Numeral.value_lt (n : Numeral) : n.value < 10 ^ n.digits.length := by
  simpa [Numeral.value] using ofDigitChars_lt n.isDigit_of_mem 0

theorem inRange_of_natAbs_lt {n : Int} {k : Nat} (hn : n.natAbs < 10 ^ k) (hk : k ≤ 18) :
    InRange n := by
  have hpow : 10 ^ k ≤ 10 ^ 18 := Nat.pow_le_pow_right (by decide) hk
  simp only [InRange, smallest, largest]
  omega

/-- An operation other than a division by zero makes numbers grow no faster than the characters that
write them. -/
theorem Step.natAbs_result_lt {s : Step} {k l : Nat} (hl : s.left.natAbs < 10 ^ k)
    (hr : s.right.natAbs < 10 ^ l) (hs : ¬s.DividesByZero) :
    s.result.natAbs < 10 ^ (k + 1 + l) := by
  obtain ⟨o, left, right⟩ := s
  replace hl : left.natAbs < 10 ^ k := hl
  replace hr : right.natAbs < 10 ^ l := hr
  have hsum : 10 ^ k + 10 ^ l ≤ 10 ^ (k + 1 + l) := by
    have hle : 10 ^ k ≤ 10 ^ (k + l) := Nat.pow_le_pow_right (by decide) (by omega)
    have hle' : 10 ^ l ≤ 10 ^ (k + l) := Nat.pow_le_pow_right (by decide) (by omega)
    rw [show k + 1 + l = (k + l) + 1 by omega, Nat.pow_succ]
    omega
  cases o with
  | add =>
    calc (left + right).natAbs ≤ left.natAbs + right.natAbs := Int.natAbs_add_le left right
      _ < 10 ^ (k + 1 + l) := by omega
  | sub =>
    calc (left - right).natAbs ≤ left.natAbs + right.natAbs := Int.natAbs_sub_le left right
      _ < 10 ^ (k + 1 + l) := by omega
  | mul =>
    calc (left * right).natAbs = left.natAbs * right.natAbs := Int.natAbs_mul left right
      _ < 10 ^ k * 10 ^ l := Nat.mul_lt_mul'' hl hr
      _ ≤ 10 ^ (k + 1 + l) := by
        rw [← Nat.pow_add]
        exact Nat.pow_le_pow_right (by decide) (by omega)
  | div =>
    have hright : right ≠ 0 := fun h => hs ⟨rfl, h⟩
    calc ((Operator.div).exact left right).natAbs = (left.tdiv right).natAbs := by
          simp [Operator.exact, hright]
      _ ≤ left.natAbs := Int.natAbs_tdiv_le_natAbs left right
      _ < 10 ^ k := hl
      _ ≤ 10 ^ (k + 1 + l) := by omega

theorem Step.inRange_result_of_dividesByZero {s : Step} (hs : s.DividesByZero) :
    InRange s.result := by
  obtain ⟨o, left, right⟩ := s
  obtain ⟨rfl, rfl⟩ : o = .div ∧ right = 0 := hs
  rw [result, Operator.exact_div_zero]
  decide

/-- A chain written with at most eighteen characters leaves the range only after a division by zero.
Without one, its result is bounded by the number of characters. -/
theorem Chain.steps_bounded {α : Type} {tight : Bool} {value : α → Int} {piece : α → List Char}
    {rest : List (OperatorOf tight × α)} {start : Int} {k : Nat} (hstart : start.natAbs < 10 ^ k)
    (hrest : ∀ link ∈ rest, (value link.2).natAbs < 10 ^ (piece link.2).length)
    (hlen : k + (spellRest Operator.toChar piece rest).length ≤ 18) :
    (∀ out ∈ steps value start rest, InRange out.result ∨
      ∃ zero, [zero, out].Sublist (steps value start rest) ∧ zero.DividesByZero) ∧
    ((∀ s ∈ steps value start rest, ¬s.DividesByZero) → (total value start rest).natAbs <
      10 ^ (k + (spellRest Operator.toChar piece rest).length)) := by
  induction rest generalizing start k with
  | nil => simpa [steps, total] using hstart
  | cons link rest ih =>
    obtain ⟨o, a⟩ := link
    obtain ⟨ha, hrest⟩ := List.forall_mem_cons.mp hrest
    simp only [spellRest_cons, List.length_cons, List.length_append] at hlen ⊢
    by_cases hzero : Step.DividesByZero ⟨o.1, start, value a⟩
    · refine ⟨fun out hout => ?_, fun hno => absurd hzero (hno _ List.mem_cons_self)⟩
      rcases List.mem_cons.mp hout with rfl | hout
      · exact Or.inl (Step.inRange_result_of_dividesByZero hzero)
      · exact Or.inr ⟨_, (List.singleton_sublist.mpr hout).cons_cons _, hzero⟩
    · have hstep : (o.1.exact start (value a)).natAbs < 10 ^ (k + 1 + (piece a).length) :=
        Step.natAbs_result_lt hstart ha hzero
      obtain ⟨hout, htotal⟩ := ih hstep hrest (by omega)
      constructor
      · intro out hmem
        rcases List.mem_cons.mp hmem with rfl | hmem
        · exact Or.inl (inRange_of_natAbs_lt hstep (by omega))
        · rcases hout out hmem with hfit | ⟨zero, hsub, hz⟩
          · exact Or.inl hfit
          · exact Or.inr ⟨zero, hsub.cons _, hz⟩
      · intro hno
        have hlength : k + 1 + (piece a).length + (spellRest Operator.toChar piece rest).length =
            k + ((piece a).length + (spellRest Operator.toChar piece rest).length + 1) := by omega
        rw [← hlength]
        exact htotal fun s hs => hno s (List.mem_cons_of_mem _ hs)

theorem Chain.not_dividesByZero_of_mem_steps {α : Type} {value : α → Int} {start : Int}
    {rest : List (OperatorOf false × α)} : ∀ s ∈ steps value start rest, ¬s.DividesByZero := by
  induction rest generalizing start with
  | nil => simp [steps]
  | cons link rest ih =>
    obtain ⟨⟨o, ho⟩, a⟩ := link
    refine List.forall_mem_cons.mpr ⟨?_, ih⟩
    rintro ⟨rfl, -⟩
    cases ho

theorem Term.length_word (t : Term) : t.word.length =
    t.first.digits.length + (Chain.spellRest Operator.toChar Numeral.digits t.rest).length :=
  List.length_append

/-- A term of at most eighteen characters leaves the range only after a division by zero. Without
one, its value is bounded by its length. -/
theorem Term.steps_bounded {t : Term} (hlen : t.word.length ≤ 18) :
    (∀ out ∈ t.steps, InRange out.result ∨
      ∃ zero, [zero, out].Sublist t.steps ∧ zero.DividesByZero) ∧
    ((∀ s ∈ t.steps, ¬s.DividesByZero) → t.exact.natAbs < 10 ^ t.word.length) := by
  rw [length_word] at hlen ⊢
  exact Chain.steps_bounded (by simpa using t.first.value_lt)
    (fun link _ => by simpa using link.2.value_lt) hlen

theorem Numeral.inRange_value {n : Numeral} (hlen : n.digits.length ≤ 18) : InRange n.value :=
  inRange_of_natAbs_lt (by simpa using n.value_lt) hlen

theorem Numeral.length_pos (n : Numeral) : 0 < n.digits.length :=
  List.length_pos_iff.mpr n.digits_ne_nil

namespace Chain

variable {α : Type} {tight : Bool} (piece : α → List Char)

/-- Each operator comes with a piece behind it, and no piece is empty. -/
theorem two_mul_length_le_spellRest (hpiece : ∀ a, 0 < (piece a).length)
    (rest : List (OperatorOf tight × α)) :
    2 * rest.length ≤ (spellRest Operator.toChar piece rest).length := by
  induction rest with
  | nil => simp
  | cons link rest ih =>
    have := hpiece link.2
    simp only [spellRest_cons, List.length_cons, List.length_append]
    omega

/-- A piece leaves room for the operators and for the other pieces. -/
theorem length_piece_add_le_spellRest (hpiece : ∀ a, 0 < (piece a).length)
    {rest : List (OperatorOf tight × α)} {link : OperatorOf tight × α} (hlink : link ∈ rest) :
    (piece link.2).length + 2 * rest.length ≤
      (spellRest Operator.toChar piece rest).length + 1 := by
  induction rest with
  | nil => cases hlink
  | cons head rest ih =>
    simp only [spellRest_cons, List.length_cons, List.length_append]
    rcases List.mem_cons.mp hlink with rfl | hlink
    · have := two_mul_length_le_spellRest piece hpiece rest
      omega
    · have := hpiece head.2
      have := ih hlink
      omega

end Chain

theorem Term.two_mul_length_lt (t : Term) : 2 * t.rest.length < t.word.length := by
  have := t.first.length_pos
  have := Chain.two_mul_length_le_spellRest Numeral.digits Numeral.length_pos t.rest
  rw [length_word]
  omega

theorem Term.length_pos (t : Term) : 0 < t.word.length :=
  Nat.zero_lt_of_lt t.two_mul_length_lt

theorem Term.numeralsFit {t : Term} (hlen : t.word.length ≤ 18) : t.NumeralsFit := by
  have hfirst := t.first.length_pos
  rw [length_word] at hlen
  refine ⟨Numeral.inRange_value (by omega), fun link hlink => Numeral.inRange_value ?_⟩
  have := Chain.length_piece_add_le_spellRest Numeral.digits Numeral.length_pos hlink
  omega

namespace Expression

theorem length_word (e : Expression) : e.word.length = e.sign.toList.length +
    (e.terms.first.word.length +
      (Chain.spellRest Operator.toChar Term.word e.terms.rest).length) := by
  rw [word, List.length_append, List.length_map, Chain.spell, List.length_append]

/-- A term leaves room for the operators and for the other terms. -/
theorem length_term_add_le {e : Expression} {t : Term} (ht : t ∈ e.allTerms) :
    t.word.length + 2 * e.terms.rest.length ≤ e.word.length := by
  have hfirst := e.terms.first.length_pos
  rw [length_word]
  rcases List.mem_cons.mp ht with rfl | ht
  · have := Chain.two_mul_length_le_spellRest Term.word Term.length_pos e.terms.rest
    omega
  · obtain ⟨link, hlink, rfl⟩ := List.mem_map.mp ht
    have := Chain.length_piece_add_le_spellRest Term.word Term.length_pos hlink
    omega

theorem length_term_le {e : Expression} {t : Term} (ht : t ∈ e.allTerms) :
    t.word.length ≤ e.word.length :=
  (Nat.le_add_right _ _).trans (length_term_add_le ht)

theorem natAbs_signed (sign : Option (OperatorOf false)) (n : Int) :
    (signed sign n).natAbs = n.natAbs := by
  simp only [signed]
  split
  · exact Int.natAbs_neg n
  · rfl

/-- The sums and differences of an expression in which nothing is divided by zero stay below a
bound given by its length, and so does its value. -/
theorem sums_bounded {e : Expression} (hlen : e.word.length ≤ 18)
    (hno : ∀ t ∈ e.allTerms, ∀ s ∈ t.steps, ¬s.DividesByZero) :
    (∀ out ∈ Chain.steps Term.exact e.start e.terms.rest, InRange out.result) ∧
      e.exact.natAbs < 10 ^ e.word.length := by
  have hterm (t : Term) (ht : t ∈ e.allTerms) : t.exact.natAbs < 10 ^ t.word.length :=
    (Term.steps_bounded ((length_term_le ht).trans hlen)).2 (hno t ht)
  have hstart : e.start.natAbs < 10 ^ e.terms.first.word.length := by
    rw [start, natAbs_signed]
    exact hterm _ List.mem_cons_self
  have hrest (link) (hlink : link ∈ e.terms.rest) :
      link.2.exact.natAbs < 10 ^ link.2.word.length :=
    hterm _ (List.mem_cons_of_mem _ (List.mem_map_of_mem hlink))
  have hword := e.length_word
  obtain ⟨hout, htotal⟩ := Chain.steps_bounded hstart hrest (by omega)
  constructor
  · intro out hmem
    rcases hout out hmem with hfit | ⟨zero, hsub, hzero⟩
    · exact hfit
    · have hmem := hsub.subset List.mem_cons_self
      exact absurd hzero (Chain.not_dividesByZero_of_mem_steps zero hmem)
  · exact (htotal Chain.not_dividesByZero_of_mem_steps).trans_le
      (Nat.pow_le_pow_right (by decide) (by omega))

/-- In an expression of at most eighteen characters, a result that does not fit comes after a
division by zero. -/
theorem inRange_or_zero_division {e : Expression} (hlen : e.word.length ≤ 18) :
    ∀ out ∈ e.steps, InRange out.result ∨
      ∃ zero, [zero, out].Sublist e.steps ∧ zero.DividesByZero := by
  intro out hout
  rcases List.mem_append.mp hout with hout | hout
  · obtain ⟨t, ht, hout⟩ := List.mem_flatMap.mp hout
    have hbounded := Term.steps_bounded ((length_term_le ht).trans hlen)
    rcases hbounded.1 out hout with hfit | ⟨zero, hsub, hz⟩
    · exact Or.inl hfit
    · have hterm : t.steps.Sublist (e.allTerms.flatMap Term.steps) :=
        List.sublist_flatten_of_mem (List.mem_map_of_mem ht)
      exact Or.inr ⟨zero, (hsub.trans hterm).trans (List.sublist_append_left _ _), hz⟩
  · by_cases hno : ∀ t ∈ e.allTerms, ∀ s ∈ t.steps, ¬s.DividesByZero
    · exact Or.inl ((sums_bounded hlen hno).1 out hout)
    · -- a division by zero inside some term comes before every sum
      push Not at hno
      obtain ⟨t, ht, zero, hmem, hz⟩ := hno
      have hzero : zero ∈ e.allTerms.flatMap Term.steps := List.mem_flatMap.mpr ⟨t, ht, hmem⟩
      exact Or.inr ⟨zero, (List.singleton_sublist.mpr hzero).append
        (List.singleton_sublist.mpr hout), hz⟩

/-- A derivation of at most eighteen characters has no value exactly if a division by zero is
followed by a result that does not fit. -/
theorem value?_eq_none_iff {e : Expression} (hlen : e.word.length ≤ 18) :
    e.value? = none ↔ e.LeavesRangeAfterZeroDivision := by
  constructor
  · intro h
    by_contra hno
    have hfit : ∀ s ∈ e.steps, InRange s.result := by
      intro out hout
      rcases inRange_or_zero_division hlen out hout with hfit | ⟨zero, hsub, hz⟩
      · exact hfit
      · by_contra hout
        exact hno ⟨zero, out, hsub, hz, hout⟩
    have hsome : e.value? = some e.exact := value?_eq_some_iff.mpr
      ⟨fun t ht => Term.numeralsFit ((length_term_le ht).trans hlen), hfit, rfl⟩
    rw [h] at hsome
    cases hsome
  · rintro ⟨zero, out, hsub, -, hout⟩
    cases h : e.value? with
    | none => rfl
    | some v =>
      have hmem : out ∈ e.steps := hsub.subset (List.mem_cons_of_mem _ List.mem_cons_self)
      exact absurd ((value?_eq_some_iff.mp h).2.1 out hmem) hout

end Expression

end HiddenEquation.Arithmetic
