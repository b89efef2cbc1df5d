import HiddenEquation.Proofs.Arithmetic.Evaluation
import HiddenEquation.Proofs.Arithmetic.Steps

/-!
# The operations that an evaluation carries out

An evaluation answers with a value and forgets how it came about. This file runs the same two scans
and records every operation that they apply, with its operands, in the order of time. Without the
record, a recorded run is the evaluation. With it, one can say what happens on the way to a value:
for a text that the grammar derives and that has a value, the operations on the record are those of
the derivation.

## Main definitions

* `Recorded` : an outcome with the operations that were applied on the way to it.
* `recordProducts`, `recordTerms`, `recordSums`, `recordEvaluation` : the scans with a record.
* `operations` : the operations that the evaluation of a text applies.
* `DividesByZero` : a division by zero is among them.

## Main results

* `outcome_recordEvaluation` : a recorded run has the outcome of the evaluation.
* `operations_eq_steps` : the operations of a text with a value are those of its derivation.
-/

namespace HiddenEquation.Arithmetic

/-! ### Runs with a record -/

/-- An outcome, with the operations that were applied on the way to it. -/
structure Recorded (α : Type) where
  outcome : Except Fault α
  steps : List Step

namespace Recorded

variable {α β : Type}

/-- An outcome that takes no operation. -/
def silent (outcome : Except Fault α) : Recorded α := ⟨outcome, []⟩

/-- One operation is applied, whether or not its result fits. -/
def operation (o : Operator) (left right : Int) : Recorded Int :=
  ⟨o.apply left right, [⟨o, left, right⟩]⟩

/-- Go on with a result. A fault ends the run. -/
def andThen (run : Recorded α) (next : α → Recorded β) : Recorded β :=
  match run.outcome with
  | .ok a => ⟨(next a).outcome, run.steps ++ (next a).steps⟩
  | .error fault => ⟨.error fault, run.steps⟩

/-- The same run after earlier operations. -/
def after (steps : List Step) (run : Recorded α) : Recorded α := ⟨run.outcome, steps ++ run.steps⟩

theorem after_append (steps later : List Step) (run : Recorded α) :
    after (steps ++ later) run = after steps (after later run) := by
  rw [after, List.append_assoc, after, after]

theorem after_ok_andThen (steps : List Step) (a : α) (next : α → Recorded β) :
    (after steps (silent (.ok a))).andThen next = after steps (next a) := by
  simp [andThen, after, silent]

theorem silent_ok_andThen (a : α) (next : α → Recorded β) :
    (silent (.ok a)).andThen next = next a := rfl

theorem outcome_andThen (run : Recorded α) (next : α → Recorded β) :
    (run.andThen next).outcome = run.outcome.bind fun a => (next a).outcome := by
  rw [andThen]
  cases run.outcome <;> rfl

/-- An operation whose result fits. -/
theorem operation_andThen {o : Operator} {left right value : Int}
    (h : fit? (o.exact left right) = some value) (next : Int → Recorded β) :
    (operation o left right).andThen next = after [⟨o, left, right⟩] (next value) := by
  rw [andThen, operation, Operator.apply_eq, h]
  rfl

end Recorded

open Recorded

/-! ### The scans with a record -/

/-- The scan over products, with a record. -/
def recordProducts (passed : List Token) : List Token → Recorded (List Token)
  | [] => silent (.ok passed.reverse)
  | .number n :: rest => recordProducts (.number n :: passed) rest
  | .operator o :: rest =>
    if o.bindsTightly then
      match passed, rest with
      | .number left :: earlier, .number right :: rest =>
        (operation o left right).andThen fun value =>
          recordProducts (.number value :: earlier) rest
      | _, _ => silent (.error .missingOperand)
    else recordProducts (.operator o :: passed) rest

/-- Adding and subtracting from left to right, with a record. -/
def recordTerms (total : Int) : List Token → Recorded Int
  | [] => silent (.ok total)
  | .number _ :: _ => silent (.error .missingOperator)
  | .operator o :: .number n :: rest =>
    (operation o total n).andThen fun total => recordTerms total rest
  | .operator _ :: _ => silent (.error .missingOperand)

/-- The scan over sums, with a record. A leading sign is no operation. -/
def recordSums : List Token → Recorded Int
  | [] => silent (.error .empty)
  | .number n :: rest => recordTerms n rest
  | .operator .add :: .number n :: rest => recordTerms n rest
  | .operator .sub :: .number n :: rest =>
    (silent (checked (-n))).andThen fun total => recordTerms total rest
  | .operator _ :: _ => silent (.error .missingOperand)

/-- The evaluation of a text, with a record. -/
def recordEvaluation (expression : String) : Recorded Int :=
  (silent (tokens expression)).andThen fun found =>
    (recordProducts [] found).andThen recordSums

/-- The operations that the evaluation of a text applies, in the order of time. -/
def operations (expression : String) : List Step := (recordEvaluation expression).steps

/-- The evaluation of a text carries out a division by zero. -/
def DividesByZero (expression : String) : Prop := ∃ s ∈ operations expression, s.DividesByZero

instance (expression : String) : Decidable (DividesByZero expression) :=
  inferInstanceAs (Decidable (∃ s ∈ operations expression, s.DividesByZero))

/-! ### The record changes no outcome -/

theorem recordProducts_loose (passed : List Token) (o : OperatorOf false) (rest : List Token) :
    recordProducts passed (.operator o.1 :: rest) =
      recordProducts (.operator o.1 :: passed) rest := by
  refine (recordProducts.eq_def _ _).trans ?_
  simp only [o.2, Bool.false_eq_true, if_false]

theorem recordProducts_tight (left : Int) (earlier : List Token) (o : OperatorOf true)
    (right : Int) (rest : List Token) :
    recordProducts (.number left :: earlier) (.operator o.1 :: .number right :: rest) =
      (operation o.1 left right).andThen fun value =>
        recordProducts (.number value :: earlier) rest := by
  rw [recordProducts, if_pos o.2]

theorem recordProducts_missing (passed : List Token) (o : OperatorOf true) (rest : List Token)
    (h : ∀ left earlier right later, passed = .number left :: earlier →
      rest = .number right :: later → False) :
    recordProducts passed (.operator o.1 :: rest) = silent (.error .missingOperand) := by
  rw [recordProducts.eq_4 passed o.1 rest h, if_pos o.2]

theorem outcome_recordProducts (passed found : List Token) :
    (recordProducts passed found).outcome = resolveProducts passed found := by
  induction passed, found using resolveProducts.induct with
  | case1 passed => rfl
  | case2 passed n rest ih => rw [recordProducts, resolveProducts, ih]
  | case3 o ho left earlier right rest ih =>
    rw [recordProducts_tight left earlier ⟨o, ho⟩, outcome_andThen,
      resolveProducts_tight left earlier ⟨o, ho⟩]
    exact congrArg (Except.bind _) (funext ih)
  | case4 passed o rest ho hno =>
    rw [recordProducts_missing passed ⟨o, ho⟩ rest hno,
      resolveProducts_missing passed ⟨o, ho⟩ rest hno]
    rfl
  | case5 passed o rest ho ih =>
    have ho' : o.bindsTightly = false := by simpa using ho
    rw [recordProducts_loose passed ⟨o, ho'⟩, ih, resolveProducts_loose passed ⟨o, ho'⟩]

theorem outcome_recordTerms (total : Int) (terms : List Token) :
    (recordTerms total terms).outcome = addTerms total terms := by
  induction total, terms using addTerms.induct with
  | case1 total => rfl
  | case2 total n rest => rfl
  | case3 total o n rest ih =>
    rw [recordTerms, outcome_andThen, addTerms]
    exact congrArg (Except.bind _) (funext ih)
  | case4 total o rest hno =>
    rw [recordTerms.eq_4 total o rest hno, addTerms.eq_4 total o rest hno]
    rfl

theorem outcome_recordSums (terms : List Token) :
    (recordSums terms).outcome = resolveSums terms := by
  cases terms using resolveSums.fun_cases with
  | case1 => rfl
  | case2 n rest => exact outcome_recordTerms n rest
  | case3 n rest => exact outcome_recordTerms n rest
  | case4 n rest =>
    rw [recordSums, outcome_andThen]
    exact congrArg (Except.bind _) (funext fun total => outcome_recordTerms total rest)
  | case5 o rest hadd hsub =>
    rw [recordSums.eq_5 o rest hadd hsub, resolveSums.eq_5 o rest hadd hsub]
    rfl

/-- A recorded run has the outcome of the evaluation. -/
theorem outcome_recordEvaluation (expression : String) :
    (recordEvaluation expression).outcome = evaluate expression := by
  rw [recordEvaluation, outcome_andThen]
  refine congrArg (Except.bind _) (funext fun found => ?_)
  rw [outcome_andThen, outcome_recordProducts]
  exact congrArg (Except.bind _) (funext outcome_recordSums)

/-! ### The record of a derivation -/

/-- The factors of a term are multiplied into the number in front of them, one by one. -/
theorem recordProducts_factors (earlier rest : List Token) {left v : Int}
    {factors : List (OperatorOf true × Numeral)}
    (h : Chain.carryOn Numeral.value? left factors = some v) :
    recordProducts (.number left :: earlier)
        ((Chain.spellRest .operator (fun n => [.numeral n]) factors).map Lexeme.token ++ rest) =
      after (Chain.steps (fun n => n.value) left factors)
        (recordProducts (.number v :: earlier) rest) := by
  induction factors generalizing left with
  | nil =>
    obtain rfl : left = v := Option.some.inj h
    rfl
  | cons link factors ih =>
    obtain ⟨o, n⟩ := link
    simp only [Chain.carryOn, Option.bind_eq_bind, Option.bind_eq_some_iff,
      Numeral.value?_eq_some_iff] at h
    obtain ⟨_, ⟨-, rfl⟩, value, hvalue, h⟩ := h
    refine (recordProducts_tight left earlier o n.value _).trans ?_
    rw [operation_andThen hvalue, Chain.steps, (fit?_eq_some_iff.mp hvalue).2,
      ← List.singleton_append, after_append]
    exact congrArg (after _) (ih h)

/-- A term is replaced by its value. -/
theorem recordProducts_term (passed rest : List Token) {t : Term} {v : Int}
    (h : t.value? = some v) :
    recordProducts passed (t.lexemes.map Lexeme.token ++ rest) =
      after t.steps (recordProducts (.number t.exact :: passed) rest) := by
  have hexact : t.exact = v := (Term.value?_eq_some_iff.mp h).2.2
  simp only [Term.value?, Option.bind_eq_bind, Option.bind_eq_some_iff,
    Numeral.value?_eq_some_iff] at h
  obtain ⟨_, ⟨-, rfl⟩, h⟩ := h
  rw [hexact]
  exact recordProducts_factors passed rest h

/-- The tokens that the scan over products leaves of the terms behind the first one. -/
def valueTokens (rest : List (OperatorOf false × Term)) : List Token :=
  Chain.spellRest .operator (fun t => [.number t.exact]) rest

/-- The terms behind the first one are replaced by their values. -/
theorem recordProducts_rest (passed : List Token) {rest : List (OperatorOf false × Term)}
    (h : ∀ link ∈ rest, ∃ v, link.2.value? = some v) :
    recordProducts passed ((Chain.spellRest .operator Term.lexemes rest).map Lexeme.token) =
      after (rest.flatMap fun link => link.2.steps)
        (silent (.ok (passed.reverse ++ valueTokens rest))) := by
  induction rest generalizing passed with
  | nil => simp [recordProducts, valueTokens, after, silent]
  | cons link rest ih =>
    obtain ⟨o, t⟩ := link
    obtain ⟨⟨v, hv⟩, h⟩ := List.forall_mem_cons.mp h
    rw [Chain.spellRest_cons, List.map_cons, List.map_append]
    refine (recordProducts_loose passed o _).trans ?_
    rw [recordProducts_term _ _ hv, ih _ h, ← after_append, List.flatMap_cons]
    simp [valueTokens]

/-- The values of the terms are added and subtracted, one by one. -/
theorem recordTerms_rest {start v : Int} {rest : List (OperatorOf false × Term)}
    (h : Chain.carryOn Term.value? start rest = some v) :
    recordTerms start (valueTokens rest) =
      after (Chain.steps Term.exact start rest) (silent (.ok v)) := by
  induction rest generalizing start with
  | nil =>
    obtain rfl : start = v := Option.some.inj h
    rfl
  | cons link rest ih =>
    obtain ⟨o, t⟩ := link
    simp only [Chain.carryOn, Option.bind_eq_bind, Option.bind_eq_some_iff,
      Term.value?_eq_some_iff] at h
    obtain ⟨_, ⟨-, -, rfl⟩, total, htotal, h⟩ := h
    change (operation o.1 start t.exact).andThen
      (fun total => recordTerms total (valueTokens rest)) = _
    rw [operation_andThen htotal, Chain.steps, (fit?_eq_some_iff.mp htotal).2,
      ← List.singleton_append, after_append]
    exact congrArg (after _) (ih h)

/-- The tokens of a text that the grammar derives, if every numeral fits. -/
theorem tokens_eq {expression : String} {e : Expression} (he : e.word = visible expression)
    (hf : AllFit e.lexemes) : tokens expression = .ok (e.lexemes.map Lexeme.token) := by
  have hscan : scan none (visible expression) = .ok (e.lexemes.map Lexeme.token) := by
    rw [← he, ← e.flatMap_word_lexemes]
    exact scan_word e.skeleton.separated_lexemes hf
  have hne : (e.lexemes.map Lexeme.token).isEmpty = false := by
    simpa using e.lexemes_ne_nil
  rw [tokens, ← visible, hscan]
  change (if (e.lexemes.map Lexeme.token).isEmpty then _ else _) = _
  rw [hne]
  rfl

/-- The scan over products replaces every term of a derivation by its value. -/
theorem recordProducts_lexemes {e : Expression} (h : ∀ t ∈ e.allTerms, ∃ v, t.value? = some v) :
    recordProducts [] (e.lexemes.map Lexeme.token) = after (e.allTerms.flatMap Term.steps)
      (silent (.ok ((e.sign.toList.map fun o => .operator o.1) ++
        .number e.terms.first.exact :: valueTokens e.terms.rest))) := by
  obtain ⟨sign, first, rest⟩ := e
  obtain ⟨⟨v, hfirst⟩, hothers⟩ := List.forall_mem_cons.mp h
  have hrest : ∀ link ∈ rest, ∃ v, link.2.value? = some v :=
    fun link hlink => hothers link.2 (List.mem_map_of_mem hlink)
  have hterms (passed : List Token) : recordProducts passed
      (first.lexemes.map Lexeme.token ++
        (Chain.spellRest .operator Term.lexemes rest).map Lexeme.token) =
      after (first.steps ++ rest.flatMap fun link => link.2.steps)
        (silent (.ok (passed.reverse ++ .number first.exact :: valueTokens rest))) := by
    rw [recordProducts_term _ _ hfirst, recordProducts_rest _ hrest, ← after_append]
    simp
  rw [Expression.lexemes_eq, Chain.spell, List.map_append, List.map_append, Expression.allTerms,
    List.flatMap_cons, List.flatMap_map]
  cases sign with
  | none => exact hterms []
  | some o => exact (recordProducts_loose [] o _).trans (hterms [.operator o.1])

/-- The scan over sums adds and subtracts the values of the terms, after one sign at most. -/
theorem recordSums_valueTokens {e : Expression} {v : Int} (h : e.value? = some v) :
    recordSums ((e.sign.toList.map fun o => .operator o.1) ++
        .number e.terms.first.exact :: valueTokens e.terms.rest) =
      after (Chain.steps Term.exact e.start e.terms.rest) (silent (.ok v)) := by
  obtain ⟨sign, first, rest⟩ := e
  obtain ⟨start, hfirst, hrest⟩ := Option.bind_eq_some_iff.mp h
  obtain rfl : first.exact = start := (Term.value?_eq_some_iff.mp hfirst).2.2
  have hterms := recordTerms_rest hrest
  cases sign with
  | none => exact hterms
  | some o =>
    have hsign := signed?_eq o (Term.value?_nonneg hfirst)
    obtain ⟨o, ho⟩ := o
    cases o with
    | add => exact hterms
    | sub =>
      have hchecked : checked (-first.exact) = .ok (-first.exact) := by
        rw [checked_eq, show fit? (-first.exact) = some (-first.exact) from hsign]
        rfl
      change (silent (checked (-first.exact))).andThen
        (fun total => recordTerms total (valueTokens rest)) = _
      rw [hchecked, silent_ok_andThen]
      exact hterms
    | mul => cases ho
    | div => cases ho

/-- The recorded run of a text that the grammar derives and that has a value. -/
theorem recordEvaluation_eq {expression : String} {e : Expression}
    (he : e.word = visible expression) {v : Int} (hv : e.value? = some v) :
    recordEvaluation expression = after e.steps (silent (.ok v)) := by
  have hterms : ∀ t ∈ e.allTerms, ∃ v, t.value? = some v := by
    obtain ⟨start, hfirst, hrest⟩ := Option.bind_eq_some_iff.mp hv
    exact List.forall_mem_cons.mpr
      ⟨⟨start, hfirst⟩, List.forall_mem_map.mpr (Chain.isSome_of_carryOn hrest)⟩
  rw [recordEvaluation, tokens_eq he (Expression.allFit_of_value? hv), silent_ok_andThen,
    recordProducts_lexemes hterms, after_ok_andThen, recordSums_valueTokens hv, ← after_append]
  rfl

/-- The operations of a text that has a value are those of its derivation. -/
theorem operations_eq_steps {expression : String} {e : Expression}
    (he : e.word = visible expression) {v : Int} (hv : e.value? = some v) :
    operations expression = e.steps := by
  rw [operations, recordEvaluation_eq he hv]
  exact List.append_nil _

end HiddenEquation.Arithmetic
