import HiddenEquation.Proofs.Arithmetic.Grammar
import Mathlib.Data.List.Chain

/-!
# The words of the grammar

Which words the grammar derives can be read off their characters. They are the rows of digits and
operators in which no two operators stand side by side and none is left dangling: the row is not
empty, no product or quotient sign leads it, and no operator ends it.

## Main definitions

* `operatorChars` : the characters that write operators.
* `Spaced` : rows of digits and operators without two operators side by side.
* `Dangling` : rows that are empty, or have an operator without an operand at one end.

## Main results

* `exists_expression_iff` : the grammar derives the spaced rows that are not dangling.
-/

namespace HiddenEquation

/-- The characters that write operators. -/
def operatorChars : List Char := ['+', '-', '*', '/']

theorem mem_operatorChars {c : Char} : c ∈ operatorChars ↔ ∃ o : Operator, c = o.toChar := by
  constructor
  · intro hc
    simp only [operatorChars, List.mem_cons, List.not_mem_nil, or_false] at hc
    rcases hc with rfl | rfl | rfl | rfl
    exacts [⟨.add, rfl⟩, ⟨.sub, rfl⟩, ⟨.mul, rfl⟩, ⟨.div, rfl⟩]
  · rintro ⟨o, rfl⟩
    cases o <;> decide

theorem Operator.toChar_mem (o : Operator) : o.toChar ∈ operatorChars :=
  mem_operatorChars.mpr ⟨o, rfl⟩

theorem Operator.isDigit_toChar (o : Operator) : o.toChar.isDigit = false := by
  cases o <;> decide

theorem not_mem_operatorChars_of_isDigit {c : Char} (hc : c.isDigit = true) :
    c ∉ operatorChars := by
  intro h
  obtain ⟨o, rfl⟩ := mem_operatorChars.mp h
  rw [o.isDigit_toChar] at hc
  cases hc

namespace Arithmetic

/-! ### Rows of digits and operators -/

/-- A row of digits and operators in which no two operators stand side by side. -/
structure Spaced (cs : List Char) : Prop where
  symbols : ∀ c ∈ cs, c.isDigit = true ∨ c ∈ operatorChars
  isChain : cs.IsChain fun a b => ¬(a ∈ operatorChars ∧ b ∈ operatorChars)

/-- The row is empty, or a product or quotient sign leads it, or an operator ends it. -/
def Dangling (cs : List Char) : Prop :=
  cs = [] ∨ (∃ c ∈ cs.head?, c = '*' ∨ c = '/') ∨ ∃ c ∈ cs.getLast?, c ∈ operatorChars

/-- A spaced row that begins and ends with a digit. -/
structure Framed (cs : List Char) : Prop extends Spaced cs where
  head : ∃ c ∈ cs.head?, c.isDigit = true
  last : ∃ c ∈ cs.getLast?, c.isDigit = true

theorem Spaced.tail {c : Char} {cs : List Char} (h : Spaced (c :: cs)) : Spaced cs where
  symbols := fun c' hc' => h.symbols c' (List.mem_cons_of_mem _ hc')
  isChain := (List.isChain_cons.mp h.isChain).2

/-- What follows an operator is a digit. -/
theorem Spaced.isDigit_head {o : Operator} {cs : List Char} (h : Spaced (o.toChar :: cs)) :
    ∀ c ∈ cs.head?, c.isDigit = true := by
  intro c hc
  rcases h.symbols c (List.mem_cons_of_mem _ (List.mem_of_mem_head? hc)) with hd | ho
  · exact hd
  · exact absurd ⟨o.toChar_mem, ho⟩ ((List.isChain_cons.mp h.isChain).1 c hc)

theorem Numeral.framed (n : Numeral) : Framed n.digits where
  symbols := fun c hc => Or.inl (n.isDigit_of_mem c hc)
  isChain := by
    refine List.isChain_iff_forall_rel_of_append_cons_cons.mpr fun a b l₁ l₂ heq h => ?_
    exact not_mem_operatorChars_of_isDigit (n.isDigit_of_mem a (by simp [heq])) h.1
  head := ⟨_, List.head?_eq_some_head n.digits_ne_nil, n.isDigit_of_mem _ (List.head_mem _)⟩
  last := ⟨_, List.getLast?_eq_some_getLast n.digits_ne_nil,
    n.isDigit_of_mem _ (List.getLast_mem _)⟩

/-- Two framed rows with an operator between them. -/
theorem Framed.append {before after : List Char} (hb : Framed before) (ha : Framed after)
    (o : Operator) : Framed (before ++ o.toChar :: after) := by
  obtain ⟨c, hc, hdigit⟩ := hb.last
  obtain ⟨d, hd, hdigit'⟩ := ha.head
  refine ⟨⟨?_, ?_⟩, ?_, ?_⟩
  · rintro x hx
    rcases List.mem_append.mp hx with hx | hx
    · exact hb.symbols x hx
    · rcases List.mem_cons.mp hx with rfl | hx
      · exact Or.inr o.toChar_mem
      · exact ha.symbols x hx
  · refine List.isChain_append.mpr ⟨hb.isChain, List.isChain_cons.mpr ⟨?_, ha.isChain⟩, ?_⟩
    · rintro y hy ⟨-, hop⟩
      rw [Option.mem_unique hy hd] at hop
      exact not_mem_operatorChars_of_isDigit hdigit' hop
    · rintro x hx y - ⟨hop, -⟩
      rw [Option.mem_unique hx hc] at hop
      exact not_mem_operatorChars_of_isDigit hdigit hop
  · obtain ⟨x, hx, hx'⟩ := hb.head
    exact ⟨x, List.mem_head?_append_of_mem_head? hx, hx'⟩
  · obtain ⟨x, hx, hx'⟩ := ha.last
    refine ⟨x, ?_, hx'⟩
    rw [List.getLast?_append, List.getLast?_cons, Option.mem_def.mp hx]
    rfl

/-- What stands between an operator and a digit at the end is framed. -/
theorem Spaced.framed_behind {o : Operator} {cs : List Char} (hs : Spaced (o.toChar :: cs))
    (hlast : ∃ c ∈ (o.toChar :: cs).getLast?, c.isDigit = true) : Framed cs := by
  obtain ⟨c, hc, hdigit⟩ := hlast
  cases cs with
  | nil =>
    obtain rfl : o.toChar = c := by simpa using hc
    rw [o.isDigit_toChar] at hdigit
    cases hdigit
  | cons c' cs => exact ⟨hs.tail, ⟨c', rfl, hs.isDigit_head c' rfl⟩, c, by simpa using hc, hdigit⟩

theorem framed_append_spellRest {α : Type} {tight : Bool} {piece : α → List Char}
    (hpiece : ∀ a, Framed (piece a)) {before : List Char} (hb : Framed before)
    (rest : List (OperatorOf tight × α)) :
    Framed (before ++ Chain.spellRest Operator.toChar piece rest) := by
  induction rest generalizing before with
  | nil => simpa using hb
  | cons link rest ih =>
    rw [Chain.spellRest_cons, ← List.cons_append, ← List.append_assoc]
    exact ih (hb.append (hpiece link.2) link.1)

theorem Term.framed_word (t : Term) : Framed t.word :=
  framed_append_spellRest Numeral.framed t.first.framed t.rest

theorem Expression.framed_terms (e : Expression) :
    Framed (e.terms.spell Operator.toChar Term.word) :=
  framed_append_spellRest Term.framed_word e.terms.first.framed_word e.terms.rest

/-! ### Derivations of a row -/

/-- A numeral with one more digit in front of it. -/
def Numeral.cons (c : Char) (hc : c.isDigit = true) (n : Numeral) : Numeral where
  digits := c :: n.digits
  digits_ne_nil := by simp
  isDigit_of_mem := List.forall_mem_cons.mpr ⟨hc, n.isDigit_of_mem⟩

/-- Every framed row is a chain of terms. -/
theorem exists_terms_of_framed : ∀ {cs : List Char}, Framed cs →
    ∃ terms : Chain false Term, terms.spell Operator.toChar Term.word = cs
  | [], h => by
    obtain ⟨c, hc, -⟩ := h.head
    cases hc
  | [d], h => by
    obtain ⟨c, hc, hdigit⟩ := h.head
    obtain rfl : d = c := by simpa using hc
    exact ⟨⟨⟨Numeral.single d hdigit, []⟩, []⟩, rfl⟩
  | d :: c :: cs, h => by
    have hd : d.isDigit = true := by simpa using h.head
    rcases h.symbols c (by simp) with hc | hc
    · -- the digit belongs to the first numeral of what follows
      have htail : Framed (c :: cs) := ⟨h.tail, ⟨c, rfl, hc⟩, by simpa using h.last⟩
      obtain ⟨⟨⟨n, factors⟩, terms⟩, hword⟩ := exists_terms_of_framed htail
      exact ⟨⟨⟨n.cons d hd, factors⟩, terms⟩, by rw [← hword]; rfl⟩
    · -- the digit is a numeral of its own
      obtain ⟨o, rfl⟩ := mem_operatorChars.mp hc
      obtain ⟨⟨t, terms⟩, hword⟩ := exists_terms_of_framed
        (h.tail.framed_behind (by simpa using h.last))
      cases ho : o.bindsTightly with
      | true =>
        refine ⟨⟨⟨Numeral.single d hd, (⟨o, ho⟩, t.first) :: t.rest⟩, terms⟩, ?_⟩
        rw [← hword]
        rfl
      | false => exact ⟨⟨⟨Numeral.single d hd, []⟩, (⟨o, ho⟩, t) :: terms⟩, by rw [← hword]; rfl⟩

/-! ### The ends of a row -/

theorem Framed.not_dangling {cs : List Char} (h : Framed cs) : ¬Dangling cs := by
  obtain ⟨c, hc, hdigit⟩ := h.head
  obtain ⟨d, hd, hdigit'⟩ := h.last
  rintro (rfl | ⟨c', hc', htight⟩ | ⟨d', hd', hop⟩)
  · cases hc
  · obtain rfl := Option.mem_unique hc hc'
    rcases htight with rfl | rfl <;> cases hdigit
  · obtain rfl := Option.mem_unique hd hd'
    exact not_mem_operatorChars_of_isDigit hdigit' hop

/-- A framed row stays spaced behind a sign, and it is not dangling there. -/
theorem Framed.signed {cs : List Char} (h : Framed cs) {o : Operator}
    (ho : o.bindsTightly = false) : Spaced (o.toChar :: cs) ∧ ¬Dangling (o.toChar :: cs) := by
  obtain ⟨c, hc, hdigit⟩ := h.head
  obtain ⟨d, hd, hdigit'⟩ := h.last
  refine ⟨⟨List.forall_mem_cons.mpr ⟨Or.inr o.toChar_mem, h.symbols⟩, ?_⟩, ?_⟩
  · refine List.isChain_cons.mpr ⟨?_, h.isChain⟩
    rintro y hy ⟨-, hop⟩
    obtain rfl := Option.mem_unique hc hy
    exact not_mem_operatorChars_of_isDigit hdigit hop
  · rintro (hnil | ⟨c', hc', htight⟩ | ⟨d', hd', hop⟩)
    · cases hnil
    · obtain rfl : o.toChar = c' := by simpa using hc'
      cases o <;> simp [Operator.toChar, Operator.bindsTightly] at htight ho
    · rw [List.getLast?_cons, Option.mem_def.mp hd] at hd'
      obtain rfl : d = d' := by simpa using hd'
      exact not_mem_operatorChars_of_isDigit hdigit' hop

theorem Spaced.isDigit_last {cs : List Char} (hs : Spaced cs) (hd : ¬Dangling cs) :
    ∃ c ∈ cs.getLast?, c.isDigit = true := by
  have hne : cs ≠ [] := fun h => hd (Or.inl h)
  have hlast := List.getLast?_eq_some_getLast hne
  refine ⟨_, hlast, (hs.symbols _ (List.getLast_mem hne)).resolve_right fun hop => ?_⟩
  exact hd (Or.inr (Or.inr ⟨_, hlast, hop⟩))

/-- **The words of the grammar, read off their characters.** The grammar derives the rows of digits
and operators in which no two operators stand side by side and none is left dangling. -/
theorem exists_expression_iff {cs : List Char} :
    (∃ e : Expression, e.word = cs) ↔ Spaced cs ∧ ¬Dangling cs := by
  constructor
  · rintro ⟨⟨_ | ⟨o, ho⟩, terms⟩, rfl⟩
    · have hframed := Expression.framed_terms ⟨none, terms⟩
      exact ⟨hframed.toSpaced, hframed.not_dangling⟩
    · exact (Expression.framed_terms ⟨some ⟨o, ho⟩, terms⟩).signed ho
  · rintro ⟨hs, hd⟩
    obtain ⟨l, hl, hdigit⟩ := hs.isDigit_last hd
    cases cs with
    | nil => exact absurd (Or.inl rfl) hd
    | cons c cs =>
      rcases hs.symbols c List.mem_cons_self with hc | hc
      · obtain ⟨terms, hterms⟩ := exists_terms_of_framed ⟨hs, ⟨c, rfl, hc⟩, l, hl, hdigit⟩
        exact ⟨⟨none, terms⟩, hterms⟩
      · obtain ⟨o, rfl⟩ := mem_operatorChars.mp hc
        have ho : o.bindsTightly = false := by
          by_contra htight
          refine hd (Or.inr (Or.inl ⟨_, rfl, ?_⟩))
          cases o <;> simp [Operator.toChar, Operator.bindsTightly] at htight ⊢
        obtain ⟨terms, hterms⟩ := exists_terms_of_framed (hs.framed_behind ⟨l, hl, hdigit⟩)
        exact ⟨⟨some ⟨o, ho⟩, terms⟩, by rw [← hterms]; rfl⟩

end Arithmetic

end HiddenEquation
