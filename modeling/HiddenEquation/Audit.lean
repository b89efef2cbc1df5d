import HiddenEquation.Journal.Event

/-!
# Audit of a corpus

An audit judges every equation of a corpus as a guess. An equation that is rejected is a target that
no player could ever type. The audit also counts how many equations use each operator.

## Main definitions

* `AuditReport` : what an audit finds.
* `audit` : the audit of a corpus.
* `auditEvents` : what an audit writes to the journal.
-/

namespace HiddenEquation

/-- What an audit finds. -/
structure AuditReport where
  /-- The number of equations. -/
  total : Nat
  /-- The rejected equations in corpus order, each with the reason. -/
  failures : List (Equation × Rejection)
  /-- For each operator in keyboard order, the number of equations that hold it. -/
  usage : List (Operator × Nat)
  deriving Repr

namespace AuditReport

/-- The number of equations that were not rejected. -/
def valid (report : AuditReport) : Nat := report.total - report.failures.length

/-- Whether no equation was rejected. -/
def isClean (report : AuditReport) : Bool := report.failures.isEmpty

end AuditReport

/-- An equation with the reason for its rejection, if it is rejected. -/
def auditEntry (equation : Equation) : Option (Equation × Rejection) :=
  match Guess.validate equation.text with
  | .ok _ => none
  | .error reason => some (equation, reason)

/-- Judge every equation of a corpus. -/
def audit (corpus : List Equation) : AuditReport :=
  { total := corpus.length
    failures := corpus.filterMap auditEntry
    usage := Operator.all.map fun o => (o, corpus.countP fun e => e.contains (.operator o)) }

/-- The journal of an audit: what judging each equation tells, then the rejected equations. -/
def auditEvents (corpus : List Equation) : List Event :=
  (corpus.flatMap fun equation => Guess.events equation.text)
    ++ (audit corpus).failures.map fun failure => .entryRejected failure.1 failure.2

end HiddenEquation
