import HiddenEquation.Corpus
import HiddenEquation.Proofs.Equation.Spelling
import HiddenEquation.Proofs.Text.Bytes
import Mathlib.Data.List.Forall2

/-!
# What a sheet holds

A sheet is judged by its entries, one for each line: what the line holds between the blanks at its
two ends. An entry is blank, or it spells an equation, or it is at fault. The first entry at fault
decides what is reported, with the number of its line, and blank entries count as lines. If none is
at fault, the corpus has the equations of all entries that are not blank, in their order, with those
that are repeated. If there is none either, the sheet is empty. A file holds a sheet if its bytes
are the encoding of a text.

## Main definitions

* `Corpus.entriesOf` : the entries of some lines.
* `Corpus.WellFormed` : no entry is at fault.
* `Corpus.FirstFault` : the first entry at fault, with the number of its line.
* `Corpus.Answers` : what is answered for a sheet with given entries.

## Main results

* `Corpus.fault_readLines_eq_some_iff` : the reading of lines stops at the first entry at fault.
* `Corpus.answers_parse` : the answer to a sheet goes by its entries.
* `Corpus.parse_and_load_by_entries` : what is answered for sheets and for files.
-/

namespace HiddenEquation.Corpus

open Equation (Spells Misspells)

/-! ### Entries -/

/-- The entries of some lines: what they hold between the blanks at their ends. -/
def entriesOf (lines : List String) : List (List Char) :=
  lines.map fun line => Text.trimChars line.toList

/-- No entry is at fault: each one is blank or spells an equation. -/
def WellFormed (entries : List (List Char)) : Prop :=
  ∀ entry ∈ entries, entry = [] ∨ Spells entry

/-- The first entry at fault, where the first entry of all is on the line of the given number. -/
def FirstFault (number : Nat) (entries : List (List Char)) (line : Nat)
    (reason : EquationError) : Prop :=
  ∃ before entry after, entries = before ++ entry :: after ∧ line = before.length + number ∧
    entry ≠ [] ∧ Misspells entry reason ∧ WellFormed before

theorem wellFormed_cons {entry : List Char} {rest : List (List Char)} :
    WellFormed (entry :: rest) ↔ (entry = [] ∨ Spells entry) ∧ WellFormed rest :=
  List.forall_mem_cons

section FirstFault

variable {number line : Nat} {entry : List Char} {rest : List (List Char)} {reason : EquationError}

/-- Behind an entry that is not at fault, the first fault is that of the rest. -/
theorem firstFault_cons_of_wellFormed (h : entry = [] ∨ Spells entry) :
    FirstFault number (entry :: rest) line reason ↔ FirstFault (number + 1) rest line reason := by
  constructor
  · rintro ⟨before, fault, after, hsplit, hline, hne, hfault, hbefore⟩
    cases before with
    | nil =>
      obtain rfl : entry = fault := (List.cons.inj hsplit).1
      exact absurd (h.resolve_left hne) (Equation.exists_misspells_iff.mp ⟨reason, hfault⟩)
    | cons first before =>
      refine ⟨before, fault, after, (List.cons.inj hsplit).2, ?_, hne, hfault,
        (wellFormed_cons.mp hbefore).2⟩
      rw [hline, List.length_cons]
      omega
  · rintro ⟨before, fault, after, rfl, hline, hne, hfault, hbefore⟩
    refine ⟨entry :: before, fault, after, rfl, ?_, hne, hfault, wellFormed_cons.mpr ⟨h, hbefore⟩⟩
    rw [hline, List.length_cons]
    omega

/-- An entry at fault is the first one if it stands in front. -/
theorem firstFault_cons_of_not_wellFormed (hne : entry ≠ []) (h : ¬Spells entry) :
    FirstFault number (entry :: rest) line reason ↔ line = number ∧ Misspells entry reason := by
  constructor
  · rintro ⟨before, fault, after, hsplit, hline, -, hfault, hbefore⟩
    cases before with
    | nil =>
      obtain rfl : entry = fault := (List.cons.inj hsplit).1
      exact ⟨by simpa using hline, hfault⟩
    | cons first before =>
      obtain rfl : entry = first := (List.cons.inj hsplit).1
      exact absurd ((wellFormed_cons.mp hbefore).1.resolve_left hne) h
  · rintro ⟨rfl, hfault⟩
    exact ⟨[], entry, rest, rfl, by simp, hne, hfault, by simp [WellFormed]⟩

theorem exists_firstFault_of_not_wellFormed (number : Nat) {entries : List (List Char)}
    (h : ¬WellFormed entries) : ∃ line reason, FirstFault number entries line reason := by
  induction entries generalizing number with
  | nil => exact absurd (by simp [WellFormed]) h
  | cons entry rest ih =>
    by_cases hentry : entry = [] ∨ Spells entry
    · simp only [firstFault_cons_of_wellFormed hentry]
      exact ih _ fun hrest => h (wellFormed_cons.mpr ⟨hentry, hrest⟩)
    · obtain ⟨hne, hspells⟩ := not_or.mp hentry
      obtain ⟨reason, hfault⟩ := Equation.exists_misspells_iff.mpr hspells
      exact ⟨number, reason, (firstFault_cons_of_not_wellFormed hne hspells).mpr ⟨rfl, hfault⟩⟩

end FirstFault

/-! ### Reading lines -/

section ReadLines

variable (number : Nat) {line : String} (rest : List String)

theorem toList_trim (line : String) : (Text.trim line).toList = Text.trimChars line.toList :=
  String.toList_ofList

theorem isEmpty_trim_iff : (Text.trim line).isEmpty = true ↔ Text.trimChars line.toList = [] := by
  rw [String.isEmpty_iff, ← String.toList_inj, toList_trim]
  rfl

/-- A blank line is passed over. -/
theorem readLines_of_blank (h : Text.trimChars line.toList = []) :
    readLines number (line :: rest) = readLines (number + 1) rest := by
  rw [readLines, if_pos (isEmpty_trim_iff.mpr h)]

/-- A line that spells an equation adds it. -/
theorem readLines_of_spells (h : Spells (Text.trimChars line.toList)) :
    ∃ equation : Equation, equation.text.toList = Text.trimChars line.toList ∧
      readLines number (line :: rest) = { readLines (number + 1) rest with
        equations := (number, equation) :: (readLines (number + 1) rest).equations } := by
  rw [← toList_trim] at h
  obtain ⟨equation, hread⟩ := Equation.exists_ofString_eq_ok_iff.mpr h
  refine ⟨equation, by rw [← Equation.ofString_eq_ok_iff.mp hread, toList_trim], ?_⟩
  have hne : ¬(Text.trim line).isEmpty = true := by
    rw [isEmpty_trim_iff, ← toList_trim]
    intro hnil
    rw [hnil] at h
    cases h.1
  rw [readLines, if_neg hne, hread]

/-- A line at fault ends the reading. -/
theorem readLines_of_not_spells (hne : Text.trimChars line.toList ≠ [])
    (h : ¬Spells (Text.trimChars line.toList)) :
    ∃ reason, (∀ reason', Misspells (Text.trimChars line.toList) reason' ↔ reason' = reason) ∧
      readLines number (line :: rest) = { equations := [], fault := some (number, reason) } := by
  rw [← toList_trim, ← Equation.exists_ofString_eq_ok_iff] at h
  cases hread : Equation.ofString (Text.trim line) with
  | ok equation => exact absurd ⟨equation, hread⟩ h
  | error reason =>
    refine ⟨reason, fun reason' => ?_, ?_⟩
    · rw [← toList_trim, ← Equation.ofString_eq_error_iff, hread, Except.error.injEq, eq_comm]
    · rw [readLines, if_neg (mt isEmpty_trim_iff.mp hne), hread]

end ReadLines

/-- The reading of lines stops at the first entry at fault. -/
theorem fault_readLines_eq_some_iff {number line : Nat} {lines : List String}
    {reason : EquationError} :
    (readLines number lines).fault = some (line, reason) ↔
      FirstFault number (entriesOf lines) line reason := by
  induction lines generalizing number with
  | nil => simp [readLines, entriesOf, FirstFault]
  | cons first rest ih =>
    rw [entriesOf, List.map_cons, ← entriesOf]
    by_cases hblank : Text.trimChars first.toList = []
    · rw [readLines_of_blank number rest hblank, firstFault_cons_of_wellFormed (.inl hblank), ih]
    by_cases hspells : Spells (Text.trimChars first.toList)
    · obtain ⟨equation, -, hread⟩ := readLines_of_spells number rest hspells
      rw [hread, firstFault_cons_of_wellFormed (.inr hspells), ih]
    · obtain ⟨fault, hfault, hread⟩ :=
        readLines_of_not_spells number rest hblank hspells
      rw [hread, firstFault_cons_of_not_wellFormed hblank hspells, hfault, Option.some.injEq,
        Prod.mk.injEq, eq_comm, eq_comm (a := fault)]

/-- Without a fault, all entries that are not blank are read, in their order. -/
theorem readLines_of_wellFormed (number : Nat) {lines : List String}
    (h : WellFormed (entriesOf lines)) :
    (readLines number lines).fault = none ∧
      (readLines number lines).equations.map (fun found => found.2.text.toList) =
        (entriesOf lines).filter (· ≠ []) := by
  induction lines generalizing number with
  | nil => exact ⟨rfl, rfl⟩
  | cons first rest ih =>
    rw [entriesOf, List.map_cons, ← entriesOf] at h ⊢
    obtain ⟨hfirst, hrest⟩ := wellFormed_cons.mp h
    obtain ⟨hnone, hequations⟩ := ih (number + 1) hrest
    by_cases hblank : Text.trimChars first.toList = []
    · rw [readLines_of_blank number rest hblank]
      exact ⟨hnone, by simpa [hblank] using hequations⟩
    · obtain ⟨equation, htext, hread⟩ :=
        readLines_of_spells number rest (hfirst.resolve_left hblank)
      rw [hread]
      exact ⟨hnone, by simpa [hblank, htext] using hequations⟩

/-! ### Sheets and files -/

/-- What is answered for a sheet with the given entries. -/
structure Answers (entries : List (List Char)) (answer : Except CorpusError (List Equation)) :
    Prop where
  /-- The answer is a corpus if no entry is at fault and not all of them are blank. Then the corpus
  has the equations of all entries that are not blank, in their order. -/
  ok_iff : ∀ corpus, answer = .ok corpus ↔
    WellFormed entries ∧ (∃ entry ∈ entries, entry ≠ []) ∧
      corpus.map (fun equation => equation.text.toList) = entries.filter (· ≠ [])
  /-- The first entry at fault is reported, with the number of its line, counted from one. -/
  malformed_iff : ∀ line reason, answer = .error (.malformed line reason) ↔
    FirstFault 1 entries line reason
  /-- A sheet is empty if all its entries are blank. -/
  empty_iff : answer = .error .empty ↔ ∀ entry ∈ entries, entry = []
  /-- A sheet is never unreadable. -/
  readable : ∀ reason, answer ≠ .error (.unreadable reason)

theorem map_toList_text_injective :
    Function.Injective (List.map fun equation : Equation => equation.text.toList) :=
  List.map_injective_iff.mpr fun _ _ h => Equation.text_injective (String.toList_inj.mp h)

/-- The answer to a sheet goes by its entries. -/
theorem answers_parse (sheet : String) :
    Answers (entriesOf (Text.lines sheet)) (parse sheet) := by
  rw [parse, read, Reading.toCorpus]
  generalize hentries : entriesOf (Text.lines sheet) = entries
  have hfault (line : Nat) (reason : EquationError) :
      (readLines 1 (Text.lines sheet)).fault = some (line, reason) ↔
        FirstFault 1 entries line reason := hentries ▸ fault_readLines_eq_some_iff
  by_cases hformed : WellFormed entries
  case neg =>
    obtain ⟨line, reason, hfirst⟩ := exists_firstFault_of_not_wellFormed 1 hformed
    have hsome := (hfault line reason).mpr hfirst
    have hblank : ¬∀ entry ∈ entries, entry = [] :=
      fun hall => hformed fun entry hentry => .inl (hall entry hentry)
    simp only [hsome]
    exact
      { ok_iff := fun corpus => by simp [hformed]
        malformed_iff := fun line' reason' => by rw [← hfault, hsome]; simp
        empty_iff := by simp [hblank]
        readable := by simp }
  case pos =>
    obtain ⟨hnone, hequations⟩ := readLines_of_wellFormed 1 (hentries ▸ hformed)
    have hno (line : Nat) (reason : EquationError) : ¬FirstFault 1 entries line reason := by
      rw [← hfault, hnone]
      simp
    rw [hentries] at hequations
    simp only [hnone]
    generalize (readLines 1 (Text.lines sheet)).equations = found at hequations
    have hempty : found.isEmpty = true ↔ ∀ entry ∈ entries, entry = [] := by
      rw [List.isEmpty_iff, ← List.map_eq_nil_iff, hequations, List.filter_eq_nil_iff]
      simp
    have hcorpus (corpus : List Equation) : found.map Prod.snd = corpus ↔
        corpus.map (fun equation => equation.text.toList) = entries.filter (· ≠ []) := by
      rw [← hequations, ← map_toList_text_injective.eq_iff, List.map_map, eq_comm]
      rfl
    have hsome : (∃ entry ∈ entries, entry ≠ []) ↔ ¬∀ entry ∈ entries, entry = [] := by
      simp
    by_cases hblank : ∀ entry ∈ entries, entry = []
    case pos =>
      rw [if_pos (hempty.mpr hblank)]
      exact
        { ok_iff := fun corpus => iff_of_false (by simp) fun h => hsome.mp h.2.1 hblank
          malformed_iff := fun line reason => by simp [hno]
          empty_iff := iff_of_true rfl hblank
          readable := by simp }
    case neg =>
      rw [if_neg (mt hempty.mp hblank)]
      exact
        { ok_iff := fun corpus => by
            rw [Except.ok.injEq, hcorpus, and_iff_right hformed, and_iff_right (hsome.mpr hblank)]
          malformed_iff := fun line reason => by simp [hno]
          empty_iff := iff_of_false (by simp) hblank
          readable := by simp }

/-- A file that holds a text is read as the sheet that it holds. -/
theorem load_toUTF8 (sheet : String) : load (.ok sheet.toUTF8) = parse sheet := by
  rw [load, decode, Text.fromUTF8?_eq_some_iff.mpr rfl]

/-- A file is not readable as a text exactly if its bytes encode no text. -/
theorem load_eq_notUtf8_iff (bytes : ByteArray) :
    load (.ok bytes) = .error (.unreadable .notUtf8) ↔
      ∀ sheet : String, sheet.toUTF8 ≠ bytes := by
  constructor
  · rintro hload sheet rfl
    rw [load_toUTF8] at hload
    exact (answers_parse sheet).readable .notUtf8 hload
  · intro hbytes
    have hnone : String.fromUTF8? bytes = none := by
      rw [Option.eq_none_iff_forall_ne_some]
      exact fun sheet hsheet => hbytes sheet (Text.fromUTF8?_eq_some_iff.mp hsheet)
    rw [load, decode, hnone]

/-- **A sheet is judged by its entries.** For every text, what stands on its lines between the
blanks at their ends decides the answer: the equations of all entries that are not blank, if each of
them spells one and there is one; the first entry that does not, with the number of its line and
what is wrong with it; or that there is none. For a file, the answer is the same if its bytes encode
a text, and a file error if they do not or if there are none. -/
theorem parse_and_load_by_entries :
    (∀ sheet : String, ∃ entries,
      List.Forall₂ Text.IsTrimmed (Text.linesOf sheet.toList) entries ∧
        Answers entries (parse sheet)) ∧
    (∀ sheet : String, load (.ok sheet.toUTF8) = parse sheet) ∧
    (∀ bytes, load (.ok bytes) = .error (.unreadable .notUtf8) ↔
      ∀ sheet : String, sheet.toUTF8 ≠ bytes) ∧
    ∀ reason, load (.error reason) = .error (.unreadable reason) := by
  refine ⟨fun sheet => ⟨entriesOf (Text.lines sheet), ?_, answers_parse sheet⟩, load_toUTF8,
    load_eq_notUtf8_iff, fun reason => rfl⟩
  have hentries : entriesOf (Text.lines sheet) =
      (Text.linesOf sheet.toList).map Text.trimChars := by
    rw [entriesOf, Text.lines_eq_map_linesOf, List.map_map]
    exact List.map_congr_left fun line _ => congrArg Text.trimChars String.toList_ofList
  rw [hentries, List.forall₂_map_right_iff, List.forall₂_same]
  exact fun line _ => Text.isTrimmed_trimChars line

/-- A blank line and a repeated equation do not matter; the fourth line has two characters too
few. -/
example : parse " 1+2+3=6\t\r\n\r\n1+2+3=6\n1+1=2\nx" = .error (.malformed 4 (.wrongLength 5)) := by
  rfl

end HiddenEquation.Corpus
