import HiddenEquation.Audit
import HiddenEquation.Proofs.Equation.Spelling
import HiddenEquation.Proofs.Guess.Verdict

/-!
# What an audit finds

An audit goes through a corpus several times. One pass judges every equation and keeps those that
are rejected, four more count the equations with each operator, and the number of equations that
are not rejected is never counted: it is what is left of the total. This file says what the report
tells of a corpus, and that the numbers fit together. Every equation has the length and the
characters of a guess, so an audit never blames either of the two.

A report does not depend on how a corpus is cut up. The report on two corpora, one after the other,
is put together from their reports.

## Main definitions

* `AuditReport.append` : the report that two reports make up.
* `AuditReport.Accounts` : a report tells the truth about a corpus.

## Main results

* `mem_failures_iff`, `isClean_iff` : which equations are listed, and when there are none.
* `accounts_audit` : an audit tells the truth about its corpus.
* `audit_append`, `valid_audit_append` : the report on two corpora one after the other.
-/

namespace HiddenEquation

variable {corpus : List Equation}

/-! ### The rejected equations -/

theorem auditEntry_eq_some_iff {e : Equation} {failure : Equation × Rejection} :
    auditEntry e = some failure ↔
      e = failure.1 ∧ Guess.validate failure.1.text = .error failure.2 := by
  obtain ⟨target, reason⟩ := failure
  rw [auditEntry]
  cases h : Guess.validate e.text with
  | ok accepted =>
    refine iff_of_false (by simp) ?_
    rintro ⟨rfl, herror⟩
    rw [h] at herror
    cases herror
  | error r =>
    rw [Option.some.injEq, Prod.mk.injEq]
    refine and_congr_right ?_
    rintro rfl
    rw [h, Except.error.injEq]

theorem auditEntry_eq_none_iff {e : Equation} :
    auditEntry e = none ↔ Guess.validate e.text = .ok e := by
  rw [auditEntry]
  cases h : Guess.validate e.text with
  | ok accepted => simp [Guess.eq_of_validate_text h]
  | error r => simp

/-- An audit lists the equations of a corpus that are rejected, each with the reason. -/
theorem mem_failures_iff {failure : Equation × Rejection} :
    failure ∈ (audit corpus).failures ↔
      failure.1 ∈ corpus ∧ Guess.validate failure.1.text = .error failure.2 := by
  simp only [audit, List.mem_filterMap, auditEntry_eq_some_iff]
  constructor
  · rintro ⟨e, he, rfl, herror⟩
    exact ⟨he, herror⟩
  · rintro ⟨hmem, herror⟩
    exact ⟨failure.1, hmem, rfl, herror⟩

/-- A corpus is clean if each of its equations is accepted. -/
theorem isClean_iff :
    (audit corpus).isClean = true ↔ ∀ e ∈ corpus, Guess.validate e.text = .ok e := by
  simp only [AuditReport.isClean, audit, List.isEmpty_iff, List.filterMap_eq_nil_iff,
    auditEntry_eq_none_iff]

/-- The rejected equations are listed in the order of the corpus, as often as they occur there. -/
theorem map_fst_failures (corpus : List Equation) :
    (audit corpus).failures.map Prod.fst =
      corpus.filter fun e => !(Guess.validate e.text).isOk := by
  have hentry : (fun e => (auditEntry e).map Prod.fst) =
      Option.guard fun e => !(Guess.validate e.text).isOk := by
    funext e
    rw [auditEntry]
    cases h : Guess.validate e.text <;> simp [Option.guard, h, Except.isOk, Except.toBool]
  rw [audit, List.map_filterMap, hentry, List.filterMap_eq_filter]

/-- An equation has seven characters of the alphabet, so it is rejected for neither its length nor
its characters. -/
theorem rejection_of_equation {e : Equation} {reason : Rejection}
    (h : Guess.validate e.text = .error reason) :
    reason ≠ .wrongLength ∧ reason ≠ .illegalCharacter := by
  obtain ⟨hlength, hlegal⟩ := Equation.spells_text e
  have hbroken := (Guess.validate_eq_iff_verdict.mp h).1
  constructor
  · rintro rfl
    exact hbroken hlength
  · rintro rfl
    obtain ⟨c, hc, hillegal⟩ := hbroken
    exact hillegal (hlegal c hc)

/-! ### The numbers -/

/-- What is left of the total is the number of equations that are accepted. -/
theorem valid_audit (corpus : List Equation) :
    (audit corpus).valid = corpus.countP fun e => (Guess.validate e.text).isOk := by
  have hfailures : (audit corpus).failures.length =
      corpus.countP fun e => !(Guess.validate e.text).isOk := by
    rw [← List.length_map Prod.fst, map_fst_failures, List.countP_eq_length_filter]
  have htotal := corpus.length_eq_countP_add_countP fun e => (Guess.validate e.text).isOk
  simp only [Bool.not_eq_true, Bool.decide_eq_false] at htotal
  rw [AuditReport.valid, hfailures, audit, htotal, Nat.add_sub_cancel]

/-- An equation contains an operator if the character of the operator stands in its text. -/
theorem contains_operator_iff {e : Equation} {o : Operator} :
    e.contains (.operator o) = true ↔ o.toChar ∈ e.text.toList := by
  rw [Equation.contains, List.contains_iff_mem, Equation.text, String.toList_ofList]
  exact (List.mem_map_of_injective fun _ _ => Symbol.toChar_inj.mp).symm

/-- Each operator is counted in each equation that contains it. -/
theorem mem_usage_iff {o : Operator} {n : Nat} :
    (o, n) ∈ (audit corpus).usage ↔ n = corpus.countP fun e => o.toChar ∈ e.text.toList := by
  simp only [audit, List.mem_map, Prod.mk.injEq, ← contains_operator_iff, Bool.decide_eq_true]
  constructor
  · rintro ⟨-, -, rfl, rfl⟩
    rfl
  · rintro rfl
    exact ⟨o, o.mem_all, rfl, rfl⟩

/-- A report tells the truth about a corpus. -/
structure AuditReport.Accounts (corpus : List Equation) (report : AuditReport) : Prop where
  total : report.total = corpus.length
  /-- No equation is left out, and none is counted twice. -/
  balance : report.total = report.valid + report.failures.length
  valid : report.valid = corpus.countP fun e => (Guess.validate e.text).isOk
  /-- The rejected equations are listed in the order of the corpus, as often as they occur. -/
  listed : report.failures.map Prod.fst = corpus.filter fun e => !(Guess.validate e.text).isOk
  reason : ∀ failure ∈ report.failures, Guess.validate failure.1.text = .error failure.2
  /-- No equation is rejected for its length or its characters. -/
  reason_ne : ∀ failure ∈ report.failures,
    failure.2 ≠ .wrongLength ∧ failure.2 ≠ .illegalCharacter
  operators : report.usage.map Prod.fst = [.add, .sub, .mul, .div]
  /-- An equation that holds an operator several times counts once. -/
  usage_iff : ∀ o n, (o, n) ∈ report.usage ↔ n = corpus.countP fun e => o.toChar ∈ e.text.toList

/-- An audit tells the truth about its corpus. -/
theorem accounts_audit (corpus : List Equation) : (audit corpus).Accounts corpus where
  total := rfl
  balance := by
    have hlisted : (audit corpus).failures.length ≤ (audit corpus).total :=
      List.length_filterMap_le auditEntry corpus
    rw [AuditReport.valid, Nat.sub_add_cancel hlisted]
  valid := valid_audit corpus
  listed := map_fst_failures corpus
  reason _ h := (mem_failures_iff.mp h).2
  reason_ne _ h := rejection_of_equation (mem_failures_iff.mp h).2
  operators := by rw [audit, List.map_map]; rfl
  usage_iff _ _ := mem_usage_iff

/-! ### Two corpora -/

/-- The report that two reports make up. -/
def AuditReport.append (report later : AuditReport) : AuditReport where
  total := report.total + later.total
  failures := report.failures ++ later.failures
  usage := List.zipWith (fun x y => (x.1, x.2 + y.2)) report.usage later.usage

instance : Append AuditReport := ⟨AuditReport.append⟩

/-- The report on two corpora one after the other is put together from their reports. -/
theorem audit_append (corpus later : List Equation) :
    audit (corpus ++ later) = audit corpus ++ audit later := by
  have husage (o : Operator) :
      (corpus ++ later).countP (fun e => e.contains (.operator o)) =
        corpus.countP (fun e => e.contains (.operator o)) +
          later.countP fun e => e.contains (.operator o) := List.countP_append
  change _ = AuditReport.append _ _
  simp only [audit, AuditReport.append, List.length_append, List.filterMap_append, husage,
    List.zipWith_map, List.zipWith_self]

/-- As many equations are accepted in two corpora as in both of them together. -/
theorem valid_audit_append (corpus later : List Equation) :
    (audit (corpus ++ later)).valid = (audit corpus).valid + (audit later).valid := by
  rw [valid_audit, valid_audit, valid_audit, List.countP_append]

end HiddenEquation
