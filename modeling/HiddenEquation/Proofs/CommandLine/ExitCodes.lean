import HiddenEquation.CommandLine.Run
import HiddenEquation.Proofs.Audit.Report
import HiddenEquation.Proofs.Corpus.Sheet
import Mathlib.Data.String.Basic

/-!
# Exit codes

Between a command line and what it asks for, several things can go wrong: the words may make no
sense, the journal may not open, the corpus file may be missing or hold no corpus. This file follows
a run through these stages. The journal is opened first, so the corpus file is looked up among the
files that are there afterwards, and one path can be both.

For an audit this settles the exit code. It is zero if the file holds a corpus of which every
equation is a guess, and one in all other cases; the report is not needed to tell them apart.

## Main definitions

* `Program.opened` : the files that an invocation finds once its journal is open.

## Main results

* `Corpus.load_eq_ok_iff` : a file gives a corpus if it holds a sheet that does.
* `Invocation.loadCorpus_eq_ok_iff` : an invocation takes its corpus from its file.
* `Program.stage_of_journal_error`, `Program.stage_of_opened` : how far a run gets before it plays
  or audits.
* `Program.outcome_of_finished`, `Program.outcome_of_audit` : how it ends from there.
* `Program.code_audit` : the exit code of an audit of a corpus file.
* `Program.audit_accounts_for_corpus` : what an audit reports, and its exit code.
-/

namespace HiddenEquation

/-! ### Loading a corpus -/

/-- A file gives a corpus exactly if its bytes encode a sheet that gives this corpus. -/
theorem Corpus.load_eq_ok_iff {contents : Except FileError ByteArray} {corpus : List Equation} :
    load contents = .ok corpus ↔
      ∃ sheet : String, contents = .ok sheet.toUTF8 ∧ parse sheet = .ok corpus := by
  constructor
  · intro hload
    cases contents with
    | error reason => cases hload
    | ok bytes =>
      cases htext : String.fromUTF8? bytes with
      | none => simp [load, decode, htext] at hload
      | some sheet =>
        obtain rfl := Text.fromUTF8?_eq_some_iff.mp htext
        exact ⟨sheet, rfl, load_toUTF8 sheet ▸ hload⟩
  · rintro ⟨sheet, rfl, hparse⟩
    rw [load_toUTF8, hparse]

namespace Invocation

variable {inv : Invocation} {path : String}

/-- An invocation that reads a file takes from it the corpus that the file gives. -/
theorem loadCorpus_eq_ok_iff (hfile : inv.corpusFile? = some path)
    {contents : Except FileError ByteArray} {corpus : List Equation} :
    (inv.loadCorpus contents).1 = .ok corpus ↔ Corpus.load contents = .ok corpus := by
  rw [loadCorpus, hfile, Corpus.load]
  cases Corpus.decode contents with
  | error reason => simp
  | ok sheet =>
    dsimp only
    rw [Corpus.parse]
    cases (Corpus.read sheet).toCorpus <;> simp

/-- All commands but `check` read a corpus file, if one is named. -/
theorem corpusFile?_of_audit (hcommand : inv.command = .audit) (hnamed : inv.equations ≠ "all") :
    inv.corpusFile? = some inv.equations := by
  rw [corpusFile?, hcommand]
  exact if_neg hnamed

end Invocation

namespace Program

variable {words : List String} {inv : Invocation} {tree files : FileTree} {supply : Draws.Supply}
  {elapsed rate : String} {stamps : Nat → String}

/-! ### The stages of a run -/

/-- The files that an invocation finds once its journal is open. -/
def opened (inv : Invocation) (tree : FileTree) : Except FileError FileTree :=
  match inv.logFile with
  | none => .ok tree
  | some path => tree.create path

/-- A run whose journal cannot be opened goes no further. -/
theorem stage_of_journal_error (hread : Arguments.read words = .ok inv) {reason : FileError}
    (hopened : opened inv tree = .error reason) :
    ∃ failure, (prepare words tree supply).1 = .finished (.failed failure [] []) := by
  rw [opened] at hopened
  cases hlog : inv.logFile with
  | none => simp [hlog] at hopened
  | some path =>
    simp only [hlog] at hopened
    exact ⟨.ofJournal path reason, by simp only [prepare, hread, hlog, hopened]⟩

/-- A run whose journal is open reads its corpus file among the files that are there now. -/
theorem stage_of_opened (hread : Arguments.read words = .ok inv)
    (hopened : opened inv tree = .ok files) :
    (prepare words tree supply).1 = inv.stage (contents inv files) supply := by
  rw [opened] at hopened
  cases hlog : inv.logFile with
  | none =>
    simp only [hlog, Except.ok.injEq] at hopened
    simp only [prepare, hread, hlog, hopened]
  | some path =>
    simp only [hlog] at hopened
    simp only [prepare, hread, hlog, hopened]

/-- How a run over lines ends depends on the stage that it has reached. -/
theorem outcome_eq (words : List String) (tree : FileTree) (supply : Draws.Supply)
    (elapsed rate : String) (stamps : Nat → String) :
    (runLines words tree supply elapsed rate stamps).1 =
      match (prepare words tree supply).1 with
      | .finished outcome => outcome
      | .audit corpus opening => .ofAudit opening corpus elapsed rate
      | .lineGame session opening =>
        .ofTranscript opening (LineGame.play session (linesLeft words tree))
      | .screenGame _ opening => .failed .noTerminal [] opening := rfl

/-- A run that is finished after its preparations prints nothing more. -/
theorem outcome_of_finished {outcome : Outcome}
    (hstage : (prepare words tree supply).1 = .finished outcome) :
    (runLines words tree supply elapsed rate stamps).1 = outcome := by
  rw [outcome_eq, hstage]

/-- A run that has a corpus to audit ends with the report. -/
theorem outcome_of_audit {corpus : List Equation} {opening : List Event}
    (hstage : (prepare words tree supply).1 = .audit corpus opening) :
    (runLines words tree supply elapsed rate stamps).1 =
      .ofAudit opening corpus elapsed rate := by
  rw [outcome_eq, hstage]

/-! ### Audits -/

/-- The exit code of a report is zero if no equation is listed, and one otherwise. -/
theorem code_ofAudit (opening : List Event) (corpus : List Equation) (elapsed rate : String) :
    ((Outcome.ofAudit opening corpus elapsed rate).code = 0 ↔
      ∀ e ∈ corpus, Guess.validate e.text = .ok e) ∧
    ((Outcome.ofAudit opening corpus elapsed rate).code = 0 ∨
      (Outcome.ofAudit opening corpus elapsed rate).code = 1) := by
  rw [← isClean_iff, Outcome.ofAudit]
  cases (audit corpus).isClean <;> simp

/-- The exit code of an audit of a corpus file is zero if the file gives a corpus of guesses, and
one otherwise. -/
theorem code_audit (hread : Arguments.read words = .ok inv) (hcommand : inv.command = .audit)
    (hnamed : inv.equations ≠ "all") (tree : FileTree) (supply : Draws.Supply)
    (elapsed rate : String) (stamps : Nat → String) :
    ((runLines words tree supply elapsed rate stamps).1.code = 0 ↔
      ∃ files corpus, opened inv tree = .ok files ∧
        Corpus.load (files.read inv.equations) = .ok corpus ∧
        ∀ e ∈ corpus, Guess.validate e.text = .ok e) ∧
    ((runLines words tree supply elapsed rate stamps).1.code = 0 ∨
      (runLines words tree supply elapsed rate stamps).1.code = 1) := by
  have hfile := Invocation.corpusFile?_of_audit hcommand hnamed
  cases hopened : opened inv tree with
  | error reason =>
    obtain ⟨failure, hstage⟩ := stage_of_journal_error hread hopened
    rw [outcome_of_finished hstage]
    simp [Outcome.failed]
  | ok files =>
    have hstage : (prepare words tree supply).1 = inv.stage (contents inv files) supply :=
      stage_of_opened hread hopened
    have hload {corpus : List Equation} :
        (inv.loadCorpus (files.read inv.equations)).1 = .ok corpus ↔
          Corpus.load (files.read inv.equations) = .ok corpus :=
      Invocation.loadCorpus_eq_ok_iff hfile
    rw [Invocation.stage, hcommand, contents, hfile] at hstage
    simp only [Except.ok.injEq, exists_and_left, exists_eq_left', ← hload]
    generalize inv.loadCorpus (files.read inv.equations) = loaded at hstage
    obtain ⟨answer, events⟩ := loaded
    cases answer with
    | error failure =>
      rw [outcome_of_finished hstage]
      simp [Outcome.failed]
    | ok corpus =>
      rw [outcome_of_audit hstage]
      simpa using code_ofAudit events corpus elapsed rate

/-- **An audit accounts for its corpus.** For every corpus, the report has the equations in it, the
accepted and the rejected ones and those with each operator, and lists the rejected ones in their
order, each with a reason that is neither its length nor its characters. The report on two corpora,
one after the other, is put together from their reports. For every command line that asks for an
audit of a corpus file, the exit code is zero if the file, as it is found once the journal is open,
holds a sheet that gives a corpus of which every equation is a guess, and one otherwise. -/
theorem audit_accounts_for_corpus :
    (∀ corpus, (audit corpus).Accounts corpus) ∧
    (∀ corpus later, audit (corpus ++ later) = audit corpus ++ audit later ∧
      (audit (corpus ++ later)).valid = (audit corpus).valid + (audit later).valid) ∧
    ∀ words inv tree supply elapsed rate stamps, Arguments.read words = .ok inv →
      inv.command = .audit → inv.equations ≠ "all" →
      ((runLines words tree supply elapsed rate stamps).1.code = 0 ↔
        ∃ files, opened inv tree = .ok files ∧
          ∃ sheet : String, files.read inv.equations = .ok sheet.toUTF8 ∧
            ∃ corpus, Corpus.parse sheet = .ok corpus ∧
              ∀ e ∈ corpus, Guess.validate e.text = .ok e) ∧
      ((runLines words tree supply elapsed rate stamps).1.code = 0 ∨
        (runLines words tree supply elapsed rate stamps).1.code = 1) := by
  refine ⟨accounts_audit, fun corpus later =>
    ⟨audit_append corpus later, valid_audit_append corpus later⟩, ?_⟩
  intro words inv tree supply elapsed rate stamps hread hcommand hnamed
  obtain ⟨hzero, hcode⟩ := code_audit hread hcommand hnamed tree supply elapsed rate stamps
  refine ⟨hzero.trans ?_, hcode⟩
  simp only [Corpus.load_eq_ok_iff]
  constructor
  · rintro ⟨files, corpus, hopened, ⟨sheet, hcontents, hparse⟩, hguesses⟩
    exact ⟨files, hopened, sheet, hcontents, corpus, hparse, hguesses⟩
  · rintro ⟨files, hopened, sheet, hcontents, corpus, hparse, hguesses⟩
    exact ⟨files, corpus, hopened, ⟨sheet, hcontents, hparse⟩, hguesses⟩

/-- The working directory has one file. -/
def oneFile (sheet : String) : FileTree := { files := [(["tmp", "work", "a"], sheet.toUTF8)] }

/-- These paths of one letter are names in the working directory. -/
theorem namesOf_letter :
    ∀ path ∈ ["a", "b"], FileTree.namesOf path = .ok ([path], FileTree.workplace) := by
  have hsplit : ∀ path ∈ ["a", "b"], path.splitOn "/" = [path] := by
    have hseparator : ("/" == "") = false := rfl
    have hstart : ∀ path ∈ ["a", "b"], String.Pos.Raw.atEnd path 0 = false := by decide +kernel
    have hother : ∀ path ∈ ["a", "b"],
        (String.Pos.Raw.get path 0 == String.Pos.Raw.get "/" 0) = false := by decide +kernel
    have horigin : String.Pos.Raw.unoffsetBy 0 0 = 0 := rfl
    have hend : ∀ path ∈ ["a", "b"],
        String.Pos.Raw.atEnd path (String.Pos.Raw.next path 0) = true := by decide +kernel
    have hpiece : ∀ path ∈ ["a", "b"],
        String.Pos.Raw.extract path 0 (String.Pos.Raw.next path 0) = path := by decide +kernel
    intro path hpath
    -- The only character is no separator, and the path ends behind it.
    rw [String.splitOn, hseparator, String.splitOnAux, hstart path hpath, hother path hpath]
    simp only [Bool.false_eq_true, if_false]
    rw [String.splitOnAux, horigin, if_pos (hend path hpath), hpiece path hpath]
    rfl
  have hlocal : ∀ path ∈ ["a", "b"], path.startsWith "/" = false := by simp
  have hsize : ∀ path ∈ ["a", "b"], path.isEmpty = false ∧ path.utf8ByteSize = 1 := by
    decide +kernel
  intro path hpath
  rw [FileTree.namesOf, hsplit path hpath, hlocal path hpath, (hsize path hpath).1,
    (hsize path hpath).2]
  rfl

theorem read_oneFile (sheet : String) : (oneFile sheet).read "a" = .ok sheet.toUTF8 := by
  rw [FileTree.read, FileTree.find, namesOf_letter "a" (by simp)]
  rfl

/-- A file gives two guesses. The second equation of another does not balance. -/
theorem audit_accounts_for_corpus_of_two_files :
    let run (sheet : String) :=
      runLines ["audit", "-e", "a"] (oneFile sheet) (fun _ => id) "" "" fun _ => ""
    Arguments.read ["audit", "-e", "a"] = .ok { command := .audit, equations := "a" } ∧
      (run "1+2+3=6\n12+3=15\n").1.code = 0 ∧ (run "1+2+3=6\n1+2+3=7\n").1.code = 1 := by
  intro run
  refine ⟨rfl, ?_, ?_⟩
  · refine (audit_accounts_for_corpus.2.2 ["audit", "-e", "a"]
      { command := .audit, equations := "a" } _ _ "" "" _ rfl rfl (by decide)).1.mpr ?_
    exact ⟨_, rfl, _, read_oneFile _, _, rfl, isClean_iff.mp (by decide +kernel)⟩
  · obtain ⟨hzero, hcode⟩ := audit_accounts_for_corpus.2.2 ["audit", "-e", "a"]
      { command := .audit, equations := "a" } (oneFile "1+2+3=6\n1+2+3=7\n") (fun _ => id) "" ""
      (fun _ => "") rfl rfl (by decide)
    refine hcode.resolve_left fun hclean => ?_
    obtain ⟨files, hopened, sheet, hcontents, corpus, hparse, hguesses⟩ := hzero.mp hclean
    obtain rfl := Except.ok.inj hopened
    obtain rfl := String.toByteArray_inj.mp
      (Except.ok.inj ((read_oneFile "1+2+3=6\n1+2+3=7\n").symm.trans hcontents))
    obtain rfl := Except.ok.inj hparse
    exact absurd (isClean_iff.mpr hguesses) (by decide +kernel)

end Program

end HiddenEquation
