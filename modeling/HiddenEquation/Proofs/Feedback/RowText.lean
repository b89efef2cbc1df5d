import HiddenEquation.Feedback.RowText
import Mathlib.Data.List.Forall2

/-!
# Which texts name rows

A row is read in one pass over a text of any length. The pass stops at a character that names no
colour and at the eighth character, whatever it is, and what it has read by the end must fill all
seven places. So the texts that name a row are those of seven characters that each name a colour,
and a character decides the colour of its own place. A row is written with one character for each
colour, which names that colour; so what is written names the row again.

## Main definitions

* `Color.spellings` : the characters that name a colour.
* `Names` : characters name colours, one by one.
* `Row.Legible` : seven characters that each name a colour.

## Main results

* `Row.fill_eq_some_iff` : what has been read when the pass over a text is over.
* `Row.ofString?_eq_some_iff` : a text names a row if its characters name the colours of the row.
* `Row.reads_seven_color_names` : which texts name a row, and which row they name.
-/

namespace HiddenEquation

/-- The characters that name a colour. -/
def Color.spellings : Color → List Char
  | green => ['G', 'g', '🟩']
  | orange => ['O', 'o', '🟧']
  | grey => ['-', '_', '⬜']

theorem Color.ofChar?_eq_some_iff {ch : Char} {c : Color} :
    ofChar? ch = some c ↔ ch ∈ c.spellings := by
  constructor
  · intro h
    unfold ofChar? at h
    split at h <;> cases h <;> decide
  · intro h
    cases c <;> simp only [spellings, List.mem_cons, List.not_mem_nil, or_false] at h <;>
      rcases h with rfl | rfl | rfl <;> rfl

theorem Color.square_mem_spellings (c : Color) : c.square ∈ c.spellings := by
  cases c <;> decide

/-! ### Characters that name colours -/

/-- Characters name colours, one by one. -/
abbrev Names (cs : List Char) (colors : List Color) : Prop :=
  List.Forall₂ (fun ch c => ch ∈ Color.spellings c) cs colors

/-- Characters name colours if each names one. -/
theorem exists_names_iff {cs : List Char} :
    (∃ colors, Names cs colors) ↔ ∀ ch ∈ cs, ∃ c : Color, ch ∈ c.spellings := by
  induction cs with
  | nil => simp
  | cons ch cs ih =>
    rw [List.forall_mem_cons, ← ih]
    constructor
    · rintro ⟨_, hnames⟩
      cases hnames with
      | cons hch hcs => exact ⟨⟨_, hch⟩, ⟨_, hcs⟩⟩
    · rintro ⟨⟨c, hch⟩, ⟨colors, hcs⟩⟩
      exact ⟨c :: colors, .cons hch hcs⟩

/-- A character names the colour in its own place. -/
theorem names_iff_getElem? {cs : List Char} {colors : List Color} :
    Names cs colors ↔ cs.length = colors.length ∧
      ∀ (i : Nat) (ch : Char), cs[i]? = some ch →
        ∃ c : Color, colors[i]? = some c ∧ ch ∈ c.spellings := by
  rw [Names, List.forall₂_iff_get]
  refine and_congr_right fun hlength => ?_
  constructor
  · intro h i ch hch
    obtain ⟨hi, rfl⟩ := List.getElem?_eq_some_iff.mp hch
    exact ⟨_, List.getElem?_eq_getElem (hlength ▸ hi), h i hi (hlength ▸ hi)⟩
  · intro h i hi hi'
    obtain ⟨c, hc, hch⟩ := h i _ (List.getElem?_eq_getElem hi)
    obtain ⟨_, rfl⟩ := List.getElem?_eq_some_iff.mp hc
    exact hch

/-- The squares of colours name them. -/
theorem names_squares (colors : List Color) : Names (colors.map Color.square) colors := by
  rw [Names, List.forall₂_map_left_iff, List.forall₂_same]
  exact fun c _ => c.square_mem_spellings

namespace Row

variable {filled colors : List Color} {cs : List Char} {text : String} {row : Row}

/-! ### The pass over a text -/

theorem fill_cons_of_named {ch : Char} {c : Color} (hroom : filled.length < equationLength)
    (hch : ch ∈ c.spellings) : fill filled (ch :: cs) = fill (filled ++ [c]) cs := by
  rw [fill, if_pos hroom, Color.ofChar?_eq_some_iff.mpr hch]

theorem fill_cons_of_foreign {ch : Char} (hch : ∀ c : Color, ch ∉ c.spellings) :
    fill filled (ch :: cs) = none := by
  have hnone : Color.ofChar? ch = none := by
    rw [Option.eq_none_iff_forall_ne_some]
    exact fun c hc => hch c (Color.ofChar?_eq_some_iff.mp hc)
  rw [fill, hnone, ite_self]

theorem fill_cons_of_full {ch : Char} (hfull : ¬filled.length < equationLength) :
    fill filled (ch :: cs) = none := by
  rw [fill, if_neg hfull]

/-- At the end of the pass, the characters have named the colours of the places behind those that
were filled before, and there were places for all of them. -/
theorem fill_eq_some_iff (hfilled : filled.length ≤ equationLength) :
    fill filled cs = some colors ↔
      ∃ more, Names cs more ∧ filled ++ more = colors ∧ colors.length ≤ equationLength := by
  -- each step moves one character over to the filled places, of which there are never too many
  induction cs generalizing filled with
  | nil =>
    rw [fill, Option.some.injEq]
    constructor
    · rintro rfl
      exact ⟨[], .nil, List.append_nil _, hfilled⟩
    · rintro ⟨more, hnames, rfl, -⟩
      cases hnames
      rw [List.append_nil]
  | cons ch cs ih =>
    constructor
    · intro hfill
      by_cases hroom : filled.length < equationLength
      · by_cases hnamed : ∃ c : Color, ch ∈ c.spellings
        · obtain ⟨c, hch⟩ := hnamed
          rw [fill_cons_of_named hroom hch, ih (by simpa using Nat.succ_le_of_lt hroom)] at hfill
          obtain ⟨more, hnames, rfl, hlength⟩ := hfill
          exact ⟨c :: more, .cons hch hnames, by simp, hlength⟩
        · rw [fill_cons_of_foreign fun c hch => hnamed ⟨c, hch⟩] at hfill
          cases hfill
      · rw [fill_cons_of_full hroom] at hfill
        cases hfill
    · rintro ⟨_, hnames, rfl, hlength⟩
      cases hnames with
      | @cons _ c _ more hch hnames =>
        have hroom : filled.length < equationLength := by
          rw [List.length_append, List.length_cons] at hlength
          omega
        rw [fill_cons_of_named hroom hch, ih (by simpa using Nat.succ_le_of_lt hroom)]
        exact ⟨more, hnames, by simp, hlength⟩

/-- A text names a row exactly if its characters name the colours of the row. -/
theorem ofString?_eq_some_iff : ofString? text = some row ↔ Names text.toList row.colors := by
  have hfill {colors : List Color} : fill [] text.toList = some colors ↔
      Names text.toList colors ∧ colors.length ≤ equationLength := by
    rw [fill_eq_some_iff (Nat.zero_le _)]
    simp
  rw [ofString?]
  constructor
  · intro h
    split at h
    · cases h
    · rename_i colors hcolors
      split at h
      · cases h
        exact (hfill.mp hcolors).1
      · cases h
  · intro hnames
    rw [hfill.mpr ⟨hnames, Nat.le_of_eq row.length_colors⟩]
    exact dif_pos row.length_colors

theorem ofString?_emoji (row : Row) : ofString? row.emoji = some row := by
  rw [ofString?_eq_some_iff, emoji, String.toList_ofList]
  exact names_squares row.colors

theorem length_emoji (row : Row) : row.emoji.toList.length = 7 := by
  rw [emoji, String.toList_ofList, List.length_map, row.length_colors, equationLength]

/-! ### The texts that name a row -/

/-- A text of seven characters that each name a colour. -/
def Legible (text : String) : Prop :=
  text.toList.length = 7 ∧ ∀ ch ∈ text.toList, ∃ c : Color, ch ∈ c.spellings

theorem exists_ofString?_iff_legible : (∃ row, ofString? text = some row) ↔ Legible text := by
  simp only [ofString?_eq_some_iff]
  constructor
  · rintro ⟨row, hnames⟩
    exact ⟨hnames.length_eq.trans row.length_colors, exists_names_iff.mp ⟨_, hnames⟩⟩
  · rintro ⟨hlength, hnamed⟩
    obtain ⟨colors, hnames⟩ := exists_names_iff.mpr hnamed
    exact ⟨⟨colors, hnames.length_eq.symm.trans hlength⟩, hnames⟩

theorem ofString_of_ofString?_eq_none (h : ofString? text = none) :
    ofString text = .error (unreadable text) := by
  rw [ofString, h]

/-- **A row is named by seven colour names.** A text names a row exactly if it has seven characters
that each name a colour, and then the colour of each place is the one that its character names.
Every other text is refused, with an error that quotes it. A row is read back from its squares.
Whatever names a row, the squares of that row are seven characters, and they are the same when they
have been read and written again. -/
theorem reads_seven_color_names :
    (∀ text, (∃ row, ofString? text = some row) ↔ Legible text) ∧
    (∀ text row, ofString? text = some row ↔ text.toList.length = 7 ∧
      ∀ (i : Nat) (ch : Char), text.toList[i]? = some ch →
        ∃ c : Color, row.colors[i]? = some c ∧ ch ∈ c.spellings) ∧
    (∀ text, ¬Legible text → ofString? text = none ∧
      ofString text = .error ("Invalid feedback string: " ++ text)) ∧
    (∀ row, ofString? row.emoji = some row) ∧
    ∀ text row, ofString? text = some row → ofString text = .ok row ∧
      row.emoji.toList.length = 7 ∧ (ofString? row.emoji).map emoji = some row.emoji := by
  refine ⟨fun text => exists_ofString?_iff_legible, fun text row => ?_, fun text hillegible => ?_,
    ofString?_emoji, fun text row hrow => ⟨?_, row.length_emoji, ?_⟩⟩
  · rw [ofString?_eq_some_iff, names_iff_getElem?, row.length_colors, equationLength]
  · have hnone : ofString? text = none := by
      rw [Option.eq_none_iff_forall_ne_some]
      exact fun row hrow => hillegible (exists_ofString?_iff_legible.mp ⟨row, hrow⟩)
    exact ⟨hnone, ofString_of_ofString?_eq_none hnone⟩
  · rw [ofString, hrow]
  · rw [ofString?_emoji, Option.map_some]

/-- Letters of both cases, signs and squares name a row together, but not with one letter more. -/
theorem reads_seven_color_names_mixed :
    let row : Row := ⟨[.green, .orange, .grey, .green, .grey, .orange, .grey], rfl⟩
    (ofString? "gO_🟩-o⬜" = some row ∧ ofString "gO_🟩-o⬜" = .ok row ∧
      row.emoji.toList.length = 7 ∧ (ofString? row.emoji).map emoji = some row.emoji) ∧
    ¬Legible "gO_🟩-o⬜G" ∧ ofString? "gO_🟩-o⬜G" = none ∧
      ofString "gO_🟩-o⬜G" = .error "Invalid feedback string: gO_🟩-o⬜G" := by
  intro row
  obtain ⟨-, -, hrefused, -, hread⟩ := reads_seven_color_names
  have hrow : ofString? "gO_🟩-o⬜" = some row := by decide
  have hillegible : ¬Legible "gO_🟩-o⬜G" := fun h => absurd h.1 (by decide)
  exact ⟨⟨hrow, hread _ _ hrow⟩, hillegible, hrefused _ hillegible⟩

end Row

end HiddenEquation
