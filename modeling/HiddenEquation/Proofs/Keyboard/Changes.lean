import HiddenEquation.Proofs.Keyboard.Best
import Mathlib.Data.List.Dedup
import Mathlib.Data.List.DropRight
import Mathlib.Data.Set.Basic
import Mathlib.Order.Bounds.Defs

/-!
# What a keyboard remembers

A keyboard changes in two ways: a guess is recorded with a row, which need not be feedback, or all
colours are forgotten. The history of a keyboard is what was recorded since colours were last
forgotten. From its history a keyboard keeps, for each symbol, the best colour of the places that
hold the symbol. Hence the history counts as a set: its order and repetitions in it are without
effect, and an entry that is added takes no colour away.

## Main definitions

* `Keyboard.Change`, `Keyboard.change` : what can happen to a keyboard.
* `Keyboard.after` : the keyboard after changes to an empty one.
* `Keyboard.recorded` : what changes recorded since colours were last forgotten.
* `Keyboard.Earned` : the colours of the places that hold a symbol.

## Main results

* `Keyboard.after_eq_ofHistory` : a keyboard is determined by its history.
* `Keyboard.color?_ofHistory_eq_some_iff` : the colour of a symbol is the greatest that it earned.
* `Keyboard.ofHistory_congr` : histories with the same entries give the same keyboard.
* `Keyboard.keeps_best_since_clear` : what a keyboard keeps after any changes.
-/

namespace HiddenEquation

namespace Keyboard

/-- What happens to a keyboard. -/
inductive Change where
  | record (guess : Equation) (row : Row)
  | clear
  deriving DecidableEq, Repr

/-- The guess that a change records, with its row. -/
def Change.entry? : Change → Option (Equation × Row)
  | record guess row => some (guess, row)
  | clear => none

/-- The keyboard after one change. -/
def change (k : Keyboard) : Change → Keyboard
  | .record guess row => k.record guess row
  | .clear => k.clear

/-- The keyboard after changes to an empty one. -/
def after (changes : List Change) : Keyboard := changes.foldl change empty

/-- What changes recorded since colours were last forgotten, in order. -/
def recorded (changes : List Change) : List (Equation × Row) :=
  (changes.rtakeWhile fun c => c ≠ .clear).filterMap Change.entry?

/-- The colours of all places of a history that hold a symbol. -/
def Earned (history : List (Equation × Row)) (s : Symbol) : Set Color :=
  {c | ∃ entry ∈ history, ∃ i, entry.1.symbolAt? i = some s ∧ entry.2.colors[i]? = some c}

variable {changes later : List Change} {history history' : List (Equation × Row)} {s : Symbol}
  {c : Color}

/-! ### The history of a keyboard -/

theorem recorded_concat_record (changes : List Change) (guess : Equation) (row : Row) :
    recorded (changes ++ [.record guess row]) = recorded changes ++ [(guess, row)] := by
  rw [recorded, List.rtakeWhile_concat_pos _ _ _ (by simp), List.filterMap_append, recorded]
  rfl

theorem recorded_concat_clear (changes : List Change) :
    recorded (changes ++ [.clear]) = [] := by
  rw [recorded, List.rtakeWhile_concat_neg _ _ _ (by simp), List.filterMap_nil]

/-- A keyboard is determined by what was recorded since colours were last forgotten. -/
theorem after_eq_ofHistory (changes : List Change) :
    after changes = ofHistory (recorded changes) := by
  -- the last change adds to the history or ends it
  induction changes using List.reverseRecOn with
  | nil => rfl
  | append_singleton changes last ih =>
    rw [after, List.foldl_concat, ← after, ih]
    cases last with
    | record guess row =>
      rw [recorded_concat_record, ofHistory_concat]
      rfl
    | clear =>
      rw [recorded_concat_clear]
      rfl

/-- As long as no colour is forgotten, the history only grows. -/
theorem recorded_subset_append (hlater : .clear ∉ later) :
    recorded changes ⊆ recorded (changes ++ later) := by
  induction later using List.reverseRecOn with
  | nil => simp
  | append_singleton later last ih =>
    have hlast : last ≠ .clear := fun h => hlater (by simp [h])
    have ih := ih fun h => hlater (List.mem_append_left _ h)
    cases last with
    | record guess row =>
      rw [← List.append_assoc, recorded_concat_record]
      exact List.subset_append_of_subset_left _ ih
    | clear => exact absurd rfl hlast

/-! ### The colours of a history -/

/-- A symbol reaches the colours that are not better than one that it earned. -/
theorem reaches_ofHistory_iff_earned :
    (ofHistory history).Reaches s c ↔ ∃ best ∈ Earned history s, c ≤ best := by
  simp only [reaches_ofHistory, Row.awards_iff, Earned, Set.mem_ofPred_eq]
  constructor
  · rintro ⟨entry, hentry, best, hplace, hle⟩
    exact ⟨best, ⟨entry, hentry, hplace⟩, hle⟩
  · rintro ⟨best, ⟨entry, hentry, hplace⟩, hle⟩
    exact ⟨entry, hentry, best, hplace, hle⟩

/-- The colour of a symbol is the greatest that it earned. -/
theorem color?_ofHistory_eq_some_iff :
    (ofHistory history).color? s = some c ↔ IsGreatest (Earned history s) c := by
  have hearned {c : Color} (hc : c ∈ Earned history s) : (ofHistory history).Reaches s c :=
    reaches_ofHistory_iff_earned.mpr ⟨c, hc, c.le_refl⟩
  constructor
  · intro hcolor
    have hupper : c ∈ upperBounds (Earned history s) := by
      intro earned hmem
      obtain ⟨best, hbest, hle⟩ := hearned hmem
      rw [hcolor, Option.some.injEq] at hbest
      exact hbest ▸ hle
    obtain ⟨best, hbest, hle⟩ := reaches_ofHistory_iff_earned.mp ⟨c, hcolor, c.le_refl⟩
    rw [Color.le_antisymm hle (hupper hbest)]
    exact ⟨hbest, fun earned hmem => Color.le_trans (hupper hmem) hle⟩
  · rintro ⟨hmem, hupper⟩
    obtain ⟨best, hcolor, hle⟩ := hearned hmem
    obtain ⟨earned, hmem', hle'⟩ := reaches_ofHistory_iff_earned.mp ⟨best, hcolor, best.le_refl⟩
    rw [hcolor, Color.le_antisymm hle (Color.le_trans hle' (hupper hmem'))]

theorem color?_ofHistory_eq_none_iff_earned :
    (ofHistory history).color? s = none ↔ Earned history s = ∅ := by
  rw [color?_eq_none_iff, reaches_ofHistory_iff_earned, Set.eq_empty_iff_forall_notMem]
  simp only [Color.grey_le, and_true, not_exists]

/-- Histories with the same entries give the same keyboard. -/
theorem ofHistory_congr (h : ∀ entry, entry ∈ history ↔ entry ∈ history') :
    ofHistory history = ofHistory history' := by
  have hearned (s : Symbol) : Earned history s = Earned history' s := by simp only [Earned, h]
  have hcolor : (ofHistory history).color? = (ofHistory history').color? := by
    refine funext fun s => Option.ext fun c => ?_
    rw [color?_ofHistory_eq_some_iff, hearned, ← color?_ofHistory_eq_some_iff]
  exact congrArg Keyboard.mk hcolor

/-- A longer history gives no symbol a worse colour. -/
theorem exists_color?_of_subset (h : history ⊆ history')
    (hcolor : (ofHistory history).color? s = some c) :
    ∃ best, (ofHistory history').color? s = some best ∧ c ≤ best := by
  obtain ⟨entry, hentry, hawards⟩ := reaches_ofHistory.mp ⟨c, hcolor, c.le_refl⟩
  exact reaches_ofHistory.mpr ⟨entry, h hentry, hawards⟩

/-- The coloured symbols are counted once each. -/
theorem size_ofHistory (history : List (Equation × Row)) :
    (ofHistory history).size = (history.flatMap fun entry => entry.1.symbols).dedup.length := by
  have hall : Symbol.all.Nodup := by decide
  rw [size, List.countP_eq_length_filter]
  refine List.Perm.length_eq ((List.perm_ext_iff_of_nodup (hall.filter _) (List.nodup_dedup _)).mpr
    fun s => ?_)
  rw [List.mem_filter, List.mem_dedup, List.mem_flatMap, and_iff_right s.mem_all,
    Option.isSome_iff_ne_none, ne_eq, color?_ofHistory_eq_none_iff]
  simp

/-! ### What is kept -/

/-- **A keyboard keeps the best colours since it was last cleared.** After any changes, the colour
of a symbol is the greatest of the colours of the places that held it since then. A symbol without
such a place has no colour, and the other symbols are counted once each. Hence the order in which
guesses are recorded is without effect, what was recorded can be recorded again without effect, and
until colours are forgotten no symbol loses its colour or gets a worse one. -/
theorem keeps_best_since_clear (changes : List Change) :
    (∀ s c, (after changes).color? s = some c ↔ IsGreatest (Earned (recorded changes) s) c) ∧
    (∀ s, (after changes).color? s = none ↔ Earned (recorded changes) s = ∅) ∧
    (after changes).size =
      ((recorded changes).flatMap fun entry => entry.1.symbols).dedup.length ∧
    (∀ changes', (recorded changes).Perm (recorded changes') → after changes = after changes') ∧
    (∀ guess row, (guess, row) ∈ recorded changes →
      after (changes ++ [.record guess row]) = after changes) ∧
    ∀ later, .clear ∉ later → ∀ s c, (after changes).color? s = some c →
      ∃ best, (after (changes ++ later)).color? s = some best ∧ c ≤ best := by
  simp only [after_eq_ofHistory]
  refine ⟨fun s c => color?_ofHistory_eq_some_iff, fun s => color?_ofHistory_eq_none_iff_earned,
    size_ofHistory _, fun changes' hperm => ofHistory_congr fun entry => hperm.mem_iff, ?_, ?_⟩
  · intro guess row hmem
    refine ofHistory_congr fun entry => ?_
    rw [recorded_concat_record, List.mem_append, List.mem_singleton]
    exact or_iff_left_of_imp fun h => h ▸ hmem
  · exact fun later hlater s c => exists_color?_of_subset (recorded_subset_append hlater)

/-- A green `1` is forgotten. Then two guesses are recorded, in two orders, with rows that are no
feedback: the `1` is grey and orange in the first row and grey in the second. -/
theorem keeps_best_since_clear_two_guesses :
    let green : Change := .record ⟨[.digit 1, .operator .add, .digit 2, .operator .add, .digit 3,
      .equals, .digit 6], rfl⟩ Row.perfect
    let first : Change := .record ⟨[.digit 1, .operator .add, .digit 1, .operator .sub, .digit 2,
      .equals, .digit 0], rfl⟩ ⟨[.grey, .grey, .orange, .grey, .grey, .green, .grey], rfl⟩
    let second : Change := .record ⟨[.digit 6, .operator .sub, .digit 5, .operator .add, .digit 1,
      .equals, .digit 2], rfl⟩ ⟨List.replicate 7 .grey, rfl⟩
    let changes := [green, .clear, first, second]
    IsGreatest (Earned (recorded changes) (.digit 1)) .orange ∧
      Earned (recorded changes) (.digit 3) = ∅ ∧
      (after changes).size = 8 ∧
      after changes = after [second, first] ∧
      after (changes ++ [first]) = after changes ∧
      ∃ best, (after (changes ++ [second])).color? (.digit 1) = some best ∧ .orange ≤ best := by
  intro green first second changes
  obtain ⟨hsome, hnone, hsize, hperm, hagain, hlater⟩ := keeps_best_since_clear changes
  have horange : (after changes).color? (.digit 1) = some .orange := rfl
  exact ⟨(hsome _ _).mp horange, (hnone _).mp rfl, hsize.trans (by decide), hperm _ (by decide),
    hagain _ _ (by decide), hlater [second] (by decide) _ _ horange⟩

end Keyboard

end HiddenEquation
