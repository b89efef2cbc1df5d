import HiddenEquation.Proofs.Corpus.Sheet

/-!
# Sheets read entry by entry

A corpus comes from a sheet in one of two ways. The sheet is read as a whole, and then the first
malformed line ends the reading. Or its entries are listed and counted beforehand, and each of them
is read for itself later on; then an entry that is no equation is passed over without a word. The
two ways agree on every sheet without a fault. On any other sheet, the second way gives fewer
equations than entries were counted, one less for each entry that is no equation.

The entries are taken as they stand on the sheet. How they are quoted in between, when a list of
them is built into the program, is not part of the comparison; it matters only for entries with a
quote or a backslash, which are no equations.

## Main results

* `toList_entries` : the entries of a sheet are the contents of its lines that are not blank.
* `map_text_ofTexts` : the texts that are not passed over are those that spell an equation.
* `parse_eq_ok_iff_entries`, `parse_malformed_iff_entries`, `parse_eq_empty_iff_entries` : what is
  answered for a sheet, in terms of its entries.
* `parse_agrees_with_ofTexts_entries` : the two ways of reading a sheet compared.
-/

namespace HiddenEquation.Corpus

open Equation (Spells)

/-! ### Reading text by text -/

section OfTexts

variable {texts : List String} {corpus : List Equation}

/-- The texts that are not passed over are those that spell an equation. -/
theorem map_text_ofTexts (texts : List String) :
    (ofTexts texts).map Equation.text = texts.filter fun text => Spells text.toList := by
  induction texts with
  | nil => rfl
  | cons text rest ih =>
    rw [ofTexts] at ih ⊢
    cases hread : Equation.ofString text with
    | ok equation =>
      have hspells : Spells text.toList := Equation.exists_ofString_eq_ok_iff.mp ⟨_, hread⟩
      rw [List.filterMap_cons_some (by rw [hread]; rfl), List.map_cons, ih,
        List.filter_cons_of_pos (by simpa using hspells), ← Equation.ofString_eq_ok_iff.mp hread]
    | error reason =>
      have hspells : ¬Spells text.toList := by
        rw [← Equation.exists_ofString_eq_ok_iff, hread]
        simp
      rw [List.filterMap_cons_none (by rw [hread]; rfl), ih,
        List.filter_cons_of_neg (by simpa using hspells)]

/-- The texts of equations are read as these equations. -/
theorem ofTexts_map_text (corpus : List Equation) :
    ofTexts (corpus.map Equation.text) = corpus := by
  rw [ofTexts, List.filterMap_map]
  refine (List.filterMap_congr fun equation _ => ?_).trans List.filterMap_some
  rw [Function.comp_apply, Equation.ofString_text]
  rfl

/-- Nothing is passed over exactly if the texts are those of the equations that are read. -/
theorem ofTexts_eq_and_length_eq_iff :
    ofTexts texts = corpus ∧ texts.length = corpus.length ↔ corpus.map Equation.text = texts := by
  constructor
  · rintro ⟨rfl, hlength⟩
    rw [← List.length_map Equation.text, map_text_ofTexts] at hlength
    rw [map_text_ofTexts]
    exact List.filter_sublist.eq_of_length hlength.symm
  · rintro rfl
    exact ⟨ofTexts_map_text corpus, List.length_map Equation.text⟩

/-- Fewer equations are read than there are texts exactly if a text spells none. -/
theorem length_ofTexts_lt_iff :
    (ofTexts texts).length < texts.length ↔ ∃ text ∈ texts, ¬Spells text.toList := by
  rw [← List.length_map Equation.text, map_text_ofTexts,
    List.length_filter_lt_length_iff_exists]
  simp only [decide_eq_true_eq]

end OfTexts

/-! ### The entries of a sheet -/

/-- Some entry is the first one at fault exactly if not all of them are well formed. -/
theorem exists_firstFault_iff {number : Nat} {entries : List (List Char)} :
    (∃ line reason, FirstFault number entries line reason) ↔ ¬WellFormed entries := by
  refine ⟨?_, exists_firstFault_of_not_wellFormed number⟩
  rintro ⟨-, reason, before, entry, after, rfl, -, hne, hfault, -⟩ hformed
  have hspells := (hformed entry (by simp)).resolve_left hne
  exact Equation.exists_misspells_iff.mp ⟨reason, hfault⟩ hspells

section Entries

variable {sheet : String} {corpus : List Equation}

/-- The entries of a sheet are the contents of its lines that are not blank. -/
theorem toList_entries (sheet : String) :
    (entries sheet).map String.toList = (entriesOf (Text.lines sheet)).filter (· ≠ []) := by
  rw [entries, entriesOf]
  induction Text.lines sheet with
  | nil => rfl
  | cons line rest ih =>
    rw [List.map_cons, List.map_cons]
    by_cases hblank : Text.trimChars line.toList = []
    · rw [List.filter_cons_of_neg (by simpa using isEmpty_trim_iff.mpr hblank),
        List.filter_cons_of_neg (by simpa using hblank), ih]
    · rw [List.filter_cons_of_pos (by simpa using mt isEmpty_trim_iff.mp hblank),
        List.filter_cons_of_pos (by simpa using hblank), List.map_cons, toList_trim, ih]

theorem mem_toList_entries_iff {entry : List Char} :
    entry ∈ (entries sheet).map String.toList ↔
      entry ∈ entriesOf (Text.lines sheet) ∧ entry ≠ [] := by
  rw [toList_entries, List.mem_filter, decide_eq_true_eq]

/-- No line is at fault exactly if every entry spells an equation. -/
theorem wellFormed_iff_entries :
    WellFormed (entriesOf (Text.lines sheet)) ↔ ∀ entry ∈ entries sheet, Spells entry.toList := by
  rw [← List.forall_mem_map (f := String.toList) (P := Spells)]
  simp only [mem_toList_entries_iff, WellFormed, and_imp, or_iff_not_imp_left, ne_eq]

/-- There is no entry exactly if all lines are blank. -/
theorem entries_eq_nil_iff :
    entries sheet = [] ↔ ∀ entry ∈ entriesOf (Text.lines sheet), entry = [] := by
  rw [← List.map_eq_nil_iff (f := String.toList), List.eq_nil_iff_forall_not_mem]
  simp only [mem_toList_entries_iff, not_and, not_not]

/-- A sheet gives the equations that its entries write, all of them, if there is one. -/
theorem parse_eq_ok_iff_entries :
    parse sheet = .ok corpus ↔ corpus ≠ [] ∧ corpus.map Equation.text = entries sheet := by
  have htexts : corpus.map (fun equation => equation.text.toList) =
      (entriesOf (Text.lines sheet)).filter (· ≠ []) ↔
        corpus.map Equation.text = entries sheet := by
    rw [← toList_entries, ← (List.map_injective_iff.mpr fun _ _ => String.toList_inj.mp).eq_iff,
      List.map_map]
    rfl
  have hsome : (∃ entry ∈ entriesOf (Text.lines sheet), entry ≠ []) ↔ entries sheet ≠ [] := by
    simp [entries_eq_nil_iff]
  rw [(answers_parse sheet).ok_iff, wellFormed_iff_entries, hsome, htexts]
  constructor
  · rintro ⟨-, hne, htext⟩
    exact ⟨fun hnil => hne (by rw [← htext, hnil, List.map_nil]), htext⟩
  · rintro ⟨hne, htext⟩
    rw [← htext]
    refine ⟨List.forall_mem_map.mpr fun equation _ => Equation.spells_text equation, ?_, rfl⟩
    exact mt List.map_eq_nil_iff.mp hne

/-- A sheet is malformed exactly if an entry spells no equation. -/
theorem parse_malformed_iff_entries :
    (∃ line reason, parse sheet = .error (.malformed line reason)) ↔
      ∃ entry ∈ entries sheet, ¬Spells entry.toList := by
  simp only [(answers_parse sheet).malformed_iff, exists_firstFault_iff, wellFormed_iff_entries]
  simp

/-- A sheet is empty exactly if it has no entries. -/
theorem parse_eq_empty_iff_entries : parse sheet = .error .empty ↔ entries sheet = [] := by
  rw [(answers_parse sheet).empty_iff, entries_eq_nil_iff]

/-- **The two ways of reading a sheet agree, but for entries that are no equations.** For every
sheet, reading it as a whole gives a corpus exactly if reading it entry by entry gives that corpus
and it has as many equations as entries were counted. The sheet is malformed exactly if there are
fewer equations than entries, and then those entries are missing that spell no equation, and no
others. It is empty exactly if there are no equations and no entries. -/
theorem parse_agrees_with_ofTexts_entries (sheet : String) :
    (∀ corpus, parse sheet = .ok corpus ↔
      corpus ≠ [] ∧ ofTexts (entries sheet) = corpus ∧
        (entries sheet).length = corpus.length) ∧
    ((∃ line reason, parse sheet = .error (.malformed line reason)) ↔
      (ofTexts (entries sheet)).length < (entries sheet).length) ∧
    (ofTexts (entries sheet)).map Equation.text =
      (entries sheet).filter (fun entry => Spells entry.toList) ∧
    (parse sheet = .error .empty ↔
      ofTexts (entries sheet) = [] ∧ (entries sheet).length = 0) := by
  refine ⟨fun corpus => ?_, ?_, map_text_ofTexts _, ?_⟩
  · rw [parse_eq_ok_iff_entries, ofTexts_eq_and_length_eq_iff]
  · rw [parse_malformed_iff_entries, length_ofTexts_lt_iff]
  · rw [parse_eq_empty_iff_entries, List.length_eq_zero_iff, iff_and_self]
    intro hnil
    rw [hnil]
    rfl

/-- The second line is passed over, and the third is blank. -/
example : parse "1+2+3=6\n1+1=2\n \n12+3=15" = .error (.malformed 2 (.wrongLength 5)) ∧
    (entries "1+2+3=6\n1+1=2\n \n12+3=15").length = 3 ∧
    (ofTexts (entries "1+2+3=6\n1+1=2\n \n12+3=15")).map Equation.text =
      ["1+2+3=6", "12+3=15"] := ⟨rfl, rfl, rfl⟩

end Entries

end HiddenEquation.Corpus
