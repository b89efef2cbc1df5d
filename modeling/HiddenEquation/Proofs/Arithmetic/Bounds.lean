import HiddenEquation.Proofs.Arithmetic.Misreadings
import HiddenEquation.Proofs.Arithmetic.Operations

/-!
# How large the numbers of an evaluation get

A number of `w` digits is written with `w` characters, and an operation on numbers of `k` and `l`
digits takes one character more. Unless it is a division by zero, its result has at most
`k + 1 + l` digits. So the room that a row of tokens takes up does not grow when an operation is
carried out. This holds of every evaluation, whether or not its text is well formed: with at most
eighteen characters, no number on the way can leave the range before something is divided by zero.

## Main definitions

* `Room` : a row of tokens can be written in a number of characters.
* `Recorded.Bounded` : a run that divides nothing by zero stays below a power of ten, does not
  overflow, and ends with a result of some kind.

## Main results

* `Recorded.Bounded.andThen` : bounded runs one after the other.
* `recordEvaluation_bounded` : the evaluation of at most eighteen characters is bounded.
-/

namespace HiddenEquation.Arithmetic

/-! ### Room for tokens -/

/-- A row of tokens can be written in a number of characters: one for each operator, and as many as
it has digits for each number. -/
inductive Room : List Token → Nat → Prop
  | nil {k : Nat} : Room [] k
  | number {n : Int} {w k : Nat} {rest : List Token} (hn : n.natAbs < 10 ^ w)
      (hrest : Room rest k) :
      Room (.number n :: rest) (w + k)
  | operator {o : Operator} {k : Nat} {rest : List Token} (hrest : Room rest k) :
      Room (.operator o :: rest) (k + 1)

namespace Room

theorem append {before after : List Token} {j k : Nat} (hbefore : Room before j)
    (hafter : Room after k) : Room (before ++ after) (j + k) := by
  induction hbefore with
  | @nil j =>
    rw [List.nil_append]
    induction hafter with
    | nil => exact nil
    | number hn _ ih =>
      rw [Nat.add_left_comm]
      exact number hn ih
    | operator _ ih => exact operator ih
  | number hn _ ih =>
    rw [List.cons_append, Nat.add_assoc]
    exact number hn ih
  | operator _ ih =>
    rw [List.cons_append, Nat.add_right_comm]
    exact operator ih

theorem of_le {tokens : List Token} {j k : Nat} (h : Room tokens j) (hle : j ≤ k) :
    Room tokens k := by
  simpa [Nat.sub_add_cancel hle] using (nil (k := k - j)).append h

theorem reverse {tokens : List Token} {k : Nat} (h : Room tokens k) : Room tokens.reverse k := by
  induction h with
  | nil => exact nil
  | @number n w k _ hn _ ih =>
    rw [List.reverse_cons, Nat.add_comm]
    exact ih.append (number (k := 0) hn nil)
  | operator _ ih =>
    rw [List.reverse_cons]
    exact ih.append (operator (k := 0) nil)

theorem number_inv {n : Int} {rest : List Token} {k : Nat} (h : Room (.number n :: rest) k) :
    ∃ w later, k = w + later ∧ n.natAbs < 10 ^ w ∧ Room rest later := by
  cases h with
  | number hn hrest => exact ⟨_, _, rfl, hn, hrest⟩

theorem operator_inv {o : Operator} {rest : List Token} {k : Nat}
    (h : Room (.operator o :: rest) k) : ∃ later, k = later + 1 ∧ Room rest later := by
  cases h with
  | operator hrest => exact ⟨_, rfl, hrest⟩

/-- The tokens of lexemes take up the room of the characters that write them. -/
theorem lexemes (row : List Lexeme) :
    Room (row.map Lexeme.token) (row.flatMap Lexeme.word).length := by
  induction row with
  | nil => exact nil
  | cons l row ih =>
    rw [List.map_cons, List.flatMap_cons, List.length_append]
    cases l with
    | numeral n => exact number (by simpa [Lexeme.word] using n.value_lt) ih
    | operator o =>
      rw [Nat.add_comm]
      exact operator ih

end Room

/-! ### Bounded runs -/

namespace Recorded

variable {α β : Type} {n : Nat}

/-- If a run divides nothing by zero, then no result on the way has more than `n` digits, the run
does not overflow, and what it ends with satisfies `Post`. -/
def Bounded (n : Nat) (run : Recorded α) (Post : α → Prop) : Prop :=
  (∀ s ∈ run.steps, ¬s.DividesByZero) →
    (∀ s ∈ run.steps, s.result.natAbs < 10 ^ n) ∧ run.outcome ≠ .error .overflow ∧
      ∀ a, run.outcome = .ok a → Post a

namespace Bounded

variable {run : Recorded α} {Mid : α → Prop} {Post : β → Prop}

theorem ok {Post : α → Prop} {a : α} (h : Post a) : (silent (.ok a)).Bounded n Post := by
  intro _
  refine ⟨by simp [silent], by simp [silent], fun a' ha => ?_⟩
  obtain rfl := Except.ok.inj ha
  exact h

theorem error {Post : α → Prop} {fault : Fault} (h : fault ≠ .overflow) :
    (silent (.error fault)).Bounded n Post := by
  intro _
  exact ⟨by simp [silent], by simpa [silent] using h, fun a ha => by cases ha⟩

/-- Bounded runs one after the other. -/
theorem andThen {next : α → Recorded β} (hrun : run.Bounded n Mid)
    (hnext : ∀ a, Mid a → (next a).Bounded n Post) : (run.andThen next).Bounded n Post := by
  intro hno
  rw [Recorded.andThen] at hno ⊢
  cases houtcome : run.outcome with
  | error fault =>
    rw [houtcome] at hno
    obtain ⟨hsteps, hfault, -⟩ := hrun hno
    exact ⟨hsteps, by simpa [houtcome] using hfault, fun b hb => by cases hb⟩
  | ok a =>
    rw [houtcome] at hno
    obtain ⟨hbefore, hafter⟩ := List.forall_mem_append.mp hno
    obtain ⟨hsteps, -, hmid⟩ := hrun hbefore
    obtain ⟨hlater, hrest⟩ := hnext a (hmid a houtcome) hafter
    exact ⟨List.forall_mem_append.mpr ⟨hsteps, hlater⟩, hrest⟩

/-- The result of an operation takes up the room of its operands and of the operator. -/
theorem operation {o : Operator} {left right : Int} {k l : Nat} (hl : left.natAbs < 10 ^ k)
    (hr : right.natAbs < 10 ^ l) (hroom : k + 1 + l ≤ n) (hn : n ≤ 18) :
    (Recorded.operation o left right).Bounded n fun value => value.natAbs < 10 ^ (k + 1 + l) := by
  intro hno
  have hresult : (o.exact left right).natAbs < 10 ^ (k + 1 + l) :=
    Step.natAbs_result_lt (s := ⟨o, left, right⟩) hl hr (hno _ List.mem_cons_self)
  have hfit : fit? (o.exact left right) = some (o.exact left right) :=
    if_pos (inRange_of_natAbs_lt hresult (hroom.trans hn))
  have houtcome : (Recorded.operation o left right).outcome = .ok (o.exact left right) := by
    rw [Recorded.operation, Operator.apply_eq, hfit]
    rfl
  refine ⟨?_, by simp [houtcome], fun value hvalue => ?_⟩
  · have hpow : 10 ^ (k + 1 + l) ≤ 10 ^ n := Nat.pow_le_pow_right (by decide) hroom
    simpa [Recorded.operation, Step.result] using hresult.trans_le hpow
  · rw [houtcome] at hvalue
    exact Except.ok.inj hvalue ▸ hresult

end Bounded

end Recorded

open Recorded

/-! ### The scans are bounded -/

theorem recordProducts_bounded {n : Nat} (hn : n ≤ 18) (passed found : List Token) {j k : Nat}
    (hpassed : Room passed j) (hfound : Room found k) (hroom : j + k ≤ n) :
    (recordProducts passed found).Bounded n (Room · n) := by
  induction passed, found using resolveProducts.induct generalizing j k with
  | case1 passed => exact Bounded.ok (hpassed.reverse.of_le (by omega))
  | case2 passed m rest ih =>
    obtain ⟨w, later, rfl, hm, hrest⟩ := hfound.number_inv
    exact ih (Room.number hm hpassed) hrest (by omega)
  | case3 o ho left earlier right rest ih =>
    obtain ⟨w, before, rfl, hleft, hearlier⟩ := hpassed.number_inv
    obtain ⟨after, rfl, hafter⟩ := hfound.operator_inv
    obtain ⟨w', later, rfl, hright, hrest⟩ := hafter.number_inv
    rw [recordProducts_tight left earlier ⟨o, ho⟩]
    refine (Bounded.operation hleft hright (by omega) hn).andThen fun value hvalue => ?_
    exact ih value (Room.number hvalue hearlier) hrest (by omega)
  | case4 passed o rest ho hno =>
    rw [recordProducts_missing passed ⟨o, ho⟩ rest hno]
    exact Bounded.error (by simp)
  | case5 passed o rest ho ih =>
    obtain ⟨later, rfl, hrest⟩ := hfound.operator_inv
    have ho' : o.bindsTightly = false := by simpa using ho
    rw [recordProducts_loose passed ⟨o, ho'⟩]
    exact ih (Room.operator hpassed) hrest (by omega)

theorem recordTerms_bounded {n : Nat} (hn : n ≤ 18) (total : Int) (terms : List Token) {j k : Nat}
    (htotal : total.natAbs < 10 ^ j) (hterms : Room terms k) (hroom : j + k ≤ n) :
    (recordTerms total terms).Bounded n fun v => v.natAbs < 10 ^ n := by
  induction total, terms using addTerms.induct generalizing j k with
  | case1 total =>
    exact Bounded.ok (htotal.trans_le (Nat.pow_le_pow_right (by decide) (by omega)))
  | case2 total m rest => exact Bounded.error (by simp)
  | case3 total o m rest ih =>
    obtain ⟨after, rfl, hafter⟩ := hterms.operator_inv
    obtain ⟨w, later, rfl, hm, hrest⟩ := hafter.number_inv
    rw [recordTerms]
    refine (Bounded.operation htotal hm (by omega) hn).andThen fun value hvalue => ?_
    exact ih value hvalue hrest (by omega)
  | case4 total o rest hno =>
    rw [recordTerms.eq_4 total o rest hno]
    exact Bounded.error (by simp)

theorem recordSums_bounded {n : Nat} (hn : n ≤ 18) (terms : List Token) (hterms : Room terms n) :
    (recordSums terms).Bounded n fun v => v.natAbs < 10 ^ n := by
  cases terms using resolveSums.fun_cases with
  | case1 => exact Bounded.error (by simp)
  | case2 m rest =>
    obtain ⟨w, later, rfl, hm, hrest⟩ := hterms.number_inv
    exact recordTerms_bounded hn m rest hm hrest le_rfl
  | case3 m rest =>
    obtain ⟨after, rfl, hafter⟩ := hterms.operator_inv
    obtain ⟨w, later, rfl, hm, hrest⟩ := hafter.number_inv
    exact recordTerms_bounded hn m rest hm hrest (by omega)
  | case4 m rest =>
    obtain ⟨after, rfl, hafter⟩ := hterms.operator_inv
    obtain ⟨w, later, rfl, hm, hrest⟩ := hafter.number_inv
    have hopposite : (-m).natAbs < 10 ^ w := by rwa [Int.natAbs_neg]
    rw [recordSums, checked, if_pos (inRange_of_natAbs_lt hopposite (by omega)),
      silent_ok_andThen]
    exact recordTerms_bounded hn (-m) rest hopposite hrest (by omega)
  | case5 o rest hadd hsub =>
    rw [recordSums.eq_5 o rest hadd hsub]
    exact Bounded.error (by simp)

/-- Characters that are too few for a number out of range are not misread as one. -/
theorem Misread.fault_ne_overflow {cs : List Char} {fault : Fault} (h : Misread cs fault)
    (hlen : cs.length ≤ 18) : fault ≠ .overflow := by
  cases h with
  | tooLarge _ _ _ hlarge =>
    simp only [List.length_append] at hlen
    exact absurd (Numeral.inRange_value (by omega)) hlarge
  | foreign => simp

/-- The tokens of a text take up the room of its characters. -/
theorem tokens_bounded {text : String} (hlen : (visible text).length ≤ 18) :
    (silent (tokens text)).Bounded (visible text).length (Room · (visible text).length) := by
  cases htokens : tokens text with
  | error fault =>
    refine Bounded.error ?_
    rcases tokens_eq_error_iff.mp htokens with ⟨-, rfl⟩ | h
    · simp
    · exact h.fault_ne_overflow hlen
  | ok found =>
    obtain ⟨row, -, -, -, hword, rfl⟩ := exists_lexemes_of_tokens htokens
    exact Bounded.ok (hword ▸ Room.lexemes row)

/-- The evaluation of at most eighteen characters is bounded by their number. -/
theorem recordEvaluation_bounded {text : String} (hlen : (visible text).length ≤ 18) :
    (recordEvaluation text).Bounded (visible text).length
      fun v => v.natAbs < 10 ^ (visible text).length := by
  refine (tokens_bounded hlen).andThen fun found hfound => ?_
  have hproducts := recordProducts_bounded hlen [] found (Room.nil (k := 0)) hfound (by omega)
  exact hproducts.andThen (recordSums_bounded hlen)

end HiddenEquation.Arithmetic
