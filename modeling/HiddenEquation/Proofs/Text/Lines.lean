import HiddenEquation.Text.Blank
import HiddenEquation.Text.Lines
import Mathlib.Data.List.DropRight

/-!
# Lines and their contents

The lines of a text are found by cutting it after each line feed, and the contents of a line by
dropping blanks from its front, reversing it, and dropping blanks again. This file says what both
come to without a word on how it is done. The lines are the stretches between the line feeds, as
`List.splitOn` gives them, the last of them only if it holds something. The contents of a line are
what stands between the blanks at its two ends, which there is only one way to choose. The end of
a line is blank, so it does not matter to the contents whether it was taken off before.

## Main definitions

* `linesOf` : the lines of a text, from the stretches between its line feeds.
* `IsTrimmed` : what a text holds between the blanks at its two ends.

## Main results

* `splitAfter_eq_pieces` : cutting after each line feed and splitting at the line feeds compared.
* `lines_eq_map_linesOf` : the lines of a text are those between its line feeds.
* `isTrimmed_iff` : trimming finds what stands between the blanks, and there is no other choice.
* `trimChars_dropLineEnd` : the end of a line does not bear on its contents.
-/

namespace HiddenEquation.Text

/-! ### Lines -/

/-- A stretch of text without one carriage return at its end. -/
def dropReturn (stretch : List Char) : List Char :=
  if stretch.getLast? = some '\r' then stretch.dropLast else stretch

/-- The lines that the stretches between line feeds make up. Each of them but the last is a line,
without one carriage return at its end. The last is a line only if it holds something. -/
def linesOfStretches : List (List Char) → List (List Char)
  | [] => []
  | [last] => if last = [] then [] else [last]
  | stretch :: next :: rest => dropReturn stretch :: linesOfStretches (next :: rest)

/-- The lines of a text, from the stretches between its line feeds. -/
def linesOf (text : List Char) : List (List Char) := linesOfStretches (text.splitOn '\n')

/-- The pieces of which the given stretches are left when each piece but the last loses the element
that ends it. No piece is empty. -/
def pieces {α : Type} (sep : α) : List (List α) → List (List α)
  | [] => []
  | [last] => if last.isEmpty then [] else [last]
  | stretch :: next :: rest => (stretch ++ [sep]) :: pieces sep (next :: rest)

/-- Cutting after each separator leaves the stretches between them, each with its separator. -/
theorem splitAfter_eq_pieces {α : Type} [BEq α] [LawfulBEq α] (sep : α) (xs : List α) :
    splitAfter (· == sep) xs = pieces sep (xs.splitOn sep) := by
  induction xs with
  | nil => rfl
  | cons x rest ih =>
    obtain ⟨stretch, stretches, hrest⟩ :=
      List.exists_cons_of_ne_nil (List.splitOn_ne_nil sep rest)
    rw [hrest] at ih
    rw [splitAfter, List.splitOn_cons_eq_if_modifyHead, hrest, ih]
    by_cases hx : (x == sep) = true
    · rw [if_pos hx, if_pos hx, beq_iff_eq.mp hx, pieces, List.nil_append]
    · rw [if_neg hx, if_neg hx, List.modifyHead_cons]
      cases stretches with
      | nil => cases stretch <;> simp [pieces]
      | cons next rest => simp [pieces]

theorem dropLineEnd_append_lineFeed (stretch : List Char) :
    dropLineEnd (stretch ++ ['\n']) = dropReturn stretch := by
  simp [dropLineEnd, dropReturn]

theorem dropLineEnd_of_not_mem {stretch : List Char} (h : '\n' ∉ stretch) :
    dropLineEnd stretch = stretch :=
  if_neg fun hlast => h (List.mem_of_getLast? hlast)

theorem map_dropLineEnd_pieces {stretches : List (List Char)}
    (h : ∀ stretch ∈ stretches, '\n' ∉ stretch) :
    (pieces '\n' stretches).map dropLineEnd = linesOfStretches stretches := by
  induction stretches with
  | nil => rfl
  | cons stretch rest ih =>
    cases rest with
    | nil =>
      have hline := dropLineEnd_of_not_mem (h stretch List.mem_cons_self)
      cases stretch with
      | nil => rfl
      | cons c cs => simp [pieces, linesOfStretches, hline]
    | cons next rest =>
      rw [pieces, List.map_cons, linesOfStretches, dropLineEnd_append_lineFeed,
        ih fun later hlater => h later (List.mem_cons_of_mem stretch hlater)]

/-- No stretch between separators holds a separator. -/
theorem not_mem_of_mem_splitOn {α : Type} [BEq α] [LawfulBEq α] {sep : α} {xs stretch : List α}
    (h : stretch ∈ xs.splitOn sep) : sep ∉ stretch := by
  induction xs generalizing stretch with
  | nil =>
    rw [List.splitOn_nil, List.mem_singleton] at h
    simp [h]
  | cons x rest ih =>
    obtain ⟨first, stretches, hrest⟩ :=
      List.exists_cons_of_ne_nil (List.splitOn_ne_nil sep rest)
    rw [List.splitOn_cons_eq_if_modifyHead, hrest] at h
    rw [hrest] at ih
    by_cases hx : (x == sep) = true
    · rw [if_pos hx, List.mem_cons] at h
      rcases h with rfl | h
      · exact List.not_mem_nil
      · exact ih h
    · rw [if_neg hx, List.modifyHead_cons, List.mem_cons] at h
      rcases h with rfl | h
      · rw [List.mem_cons, not_or]
        exact ⟨fun heq => hx (beq_iff_eq.mpr heq.symm), ih List.mem_cons_self⟩
      · exact ih (List.mem_cons_of_mem first h)

/-- The pieces after each line feed, without their ends, are the lines between the line feeds. -/
theorem map_dropLineEnd_splitAfter (text : List Char) :
    (splitAfter (· == '\n') text).map dropLineEnd = linesOf text := by
  rw [splitAfter_eq_pieces, linesOf]
  exact map_dropLineEnd_pieces fun _ h => not_mem_of_mem_splitOn h

/-- The lines of a text are those between its line feeds. -/
theorem lines_eq_map_linesOf (text : String) :
    lines text = (linesOf text.toList).map String.ofList := by
  rw [lines, ← map_dropLineEnd_splitAfter, List.map_map]
  rfl

/-! ### What a line holds -/

/-- What a text holds between the blanks at its two ends. -/
structure IsTrimmed (text core : List Char) : Prop where
  between : ∃ before after, text = before ++ core ++ after ∧
    (∀ c ∈ before, isBlank c = true) ∧ ∀ c ∈ after, isBlank c = true
  first_visible : ∀ c ∈ core.head?, isBlank c = false
  last_visible : ∀ c ∈ core.getLast?, isBlank c = false

/-- Blanks at the front are dropped, and nothing else is. -/
theorem dropWhile_isBlank_append {before rest : List Char}
    (hbefore : ∀ c ∈ before, isBlank c = true) (hrest : ∀ c ∈ rest.head?, isBlank c = false) :
    (before ++ rest).dropWhile isBlank = rest := by
  rw [List.dropWhile_append_of_pos hbefore]
  cases rest with
  | nil => rfl
  | cons c cs => rw [List.dropWhile_cons_of_neg (by simp [hrest c rfl])]

theorem IsTrimmed.eq_trimChars {text core : List Char} (h : IsTrimmed text core) :
    core = trimChars text := by
  obtain ⟨⟨before, after, rfl, hbefore, hafter⟩, hfirst, hlast⟩ := h
  cases core with
  | nil =>
    have hblank : ∀ c ∈ before ++ after, isBlank c = true := by
      intro c hc
      exact (List.mem_append.mp hc).elim (hbefore c) (hafter c)
    have hdrop : (before ++ after).dropWhile isBlank = [] := List.dropWhile_eq_nil_iff.mpr hblank
    rw [List.append_nil, trimChars, hdrop]
    rfl
  | cons c cs =>
    have hfront : (before ++ (c :: cs ++ after)).dropWhile isBlank = c :: cs ++ after :=
      dropWhile_isBlank_append hbefore hfirst
    have hback : (after.reverse ++ (c :: cs).reverse).dropWhile isBlank = (c :: cs).reverse :=
      dropWhile_isBlank_append (by simpa using hafter) (by rwa [List.head?_reverse])
    rw [trimChars, List.append_assoc, hfront, List.reverse_append, hback, List.reverse_reverse]

theorem not_isBlank_of_mem_head?_dropWhile {text : List Char} {c : Char}
    (hc : c ∈ (text.dropWhile isBlank).head?) : isBlank c = false := by
  have hstop := List.head?_dropWhile_not isBlank text
  rw [Option.mem_def.mp hc] at hstop
  exact hstop

theorem isTrimmed_trimChars (text : List Char) : IsTrimmed text (trimChars text) := by
  let front := text.takeWhile isBlank
  let back := (text.dropWhile isBlank).reverse.takeWhile isBlank
  have hrest : text.dropWhile isBlank = trimChars text ++ back.reverse := by
    rw [trimChars, ← List.reverse_append, List.takeWhile_append_dropWhile, List.reverse_reverse]
  refine ⟨⟨front, back.reverse, ?_, ?_, ?_⟩, ?_, ?_⟩
  · rw [List.append_assoc, ← hrest, List.takeWhile_append_dropWhile]
  · exact fun c hc => List.mem_takeWhile_imp hc
  · exact fun c hc => List.mem_takeWhile_imp (List.mem_reverse.mp hc)
  · intro c hc
    have hfront : c ∈ (text.dropWhile isBlank).head? := by
      rw [hrest, List.head?_append, Option.mem_def.mp hc]
      rfl
    exact not_isBlank_of_mem_head?_dropWhile hfront
  · intro c hc
    rw [trimChars, List.getLast?_reverse] at hc
    exact not_isBlank_of_mem_head?_dropWhile hc

/-- Trimming finds what stands between the blanks, and there is no other choice. -/
theorem isTrimmed_iff {text core : List Char} : IsTrimmed text core ↔ core = trimChars text :=
  ⟨IsTrimmed.eq_trimChars, fun h => h ▸ isTrimmed_trimChars text⟩

theorem IsTrimmed.append_blank {text core ending : List Char} (h : IsTrimmed text core)
    (hending : ∀ c ∈ ending, isBlank c = true) : IsTrimmed (text ++ ending) core := by
  obtain ⟨before, after, rfl, hbefore, hafter⟩ := h.between
  refine ⟨⟨before, after ++ ending, by simp, hbefore, ?_⟩, h.first_visible, h.last_visible⟩
  intro c hc
  exact (List.mem_append.mp hc).elim (hafter c) (hending c)

theorem exists_append_of_getLast? {text : List Char} {c : Char} (h : text.getLast? = some c) :
    text = text.dropLast ++ [c] := by
  obtain ⟨front, rfl⟩ := List.getLast?_eq_some_iff.mp h
  rw [List.dropLast_concat]

/-- What is taken off the end of a line is blank. -/
theorem exists_dropLineEnd_append (piece : List Char) :
    ∃ ending, piece = dropLineEnd piece ++ ending ∧ ∀ c ∈ ending, isBlank c = true := by
  have hfeed : isBlank '\n' = true := by decide
  have hreturn : isBlank '\r' = true := by decide
  rw [dropLineEnd]
  split
  case isTrue hlast =>
    have hpiece := exists_append_of_getLast? hlast
    dsimp only
    split
    case isTrue hlast' =>
      have hbody := exists_append_of_getLast? hlast'
      refine ⟨['\r', '\n'], ?_, by simp [hfeed, hreturn]⟩
      calc piece = piece.dropLast ++ ['\n'] := hpiece
        _ = piece.dropLast.dropLast ++ ['\r'] ++ ['\n'] := by rw [← hbody]
        _ = piece.dropLast.dropLast ++ ['\r', '\n'] := by simp
    case isFalse => exact ⟨['\n'], hpiece, by simp [hfeed]⟩
  case isFalse => exact ⟨[], by simp, by simp⟩

/-- The end of a line does not bear on its contents. -/
theorem trimChars_dropLineEnd (piece : List Char) :
    trimChars (dropLineEnd piece) = trimChars piece := by
  obtain ⟨ending, hpiece, hending⟩ := exists_dropLineEnd_append piece
  have htrimmed := (isTrimmed_trimChars (dropLineEnd piece)).append_blank hending
  rw [← hpiece] at htrimmed
  exact htrimmed.eq_trimChars

end HiddenEquation.Text
