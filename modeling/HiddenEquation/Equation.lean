import HiddenEquation.Symbol

/-!
# Equations

An equation is a word of seven symbols. Nothing is said about its arithmetic: `=======` is an
equation too. Whether a word makes a playable guess is the subject of `HiddenEquation.Guess`.

## Main definitions

* `Equation` : seven symbols in a row.
* `Equation.ofString` : reading an equation; the length is judged before the characters.
* `Equation.text` : the text of an equation.
* `Equation.count`, `Equation.contains` : how often, and whether, a symbol occurs.

## Main results

* `Equation.ofString_eq_ok_iff` : a text is read as an equation exactly if it is that equation's
  text.
-/

namespace HiddenEquation

/-- The number of symbols in an equation. -/
def equationLength : Nat := 7

/-- A word of exactly seven symbols. -/
structure Equation where
  symbols : List Symbol
  length_symbols : symbols.length = equationLength
  deriving DecidableEq, Repr

/-- Why a text is not an equation. -/
inductive EquationError where
  /-- The text does not have exactly seven characters. -/
  | wrongLength (length : Nat)
  /-- The text has seven characters, and this is the leftmost one outside the alphabet. -/
  | illegalCharacter (c : Char)
  deriving DecidableEq, Repr

/-- The wording of an equation error. -/
def EquationError.message : EquationError → String
  | wrongLength n => "equation must be exactly " ++ toString equationLength ++ " symbols, got "
      ++ toString n
  | illegalCharacter c => "equation contains illegal character '" ++ c.toString ++ "'"

namespace Equation

/-- Read every character as a symbol, or name the leftmost one that is none. -/
def readSymbols : List Char → Except Char (List Symbol)
  | [] => .ok []
  | c :: rest =>
    match Symbol.ofChar? c with
    | none => .error c
    | some s => (readSymbols rest).map (s :: ·)

/-- Reading succeeds exactly on what the symbols write. -/
theorem readSymbols_eq_ok_iff {cs : List Char} {symbols : List Symbol} :
    readSymbols cs = .ok symbols ↔ cs = symbols.map Symbol.toChar := by
  induction cs generalizing symbols with
  | nil => cases symbols <;> simp [readSymbols]
  | cons c rest ih =>
    rw [readSymbols]
    cases hc : Symbol.ofChar? c with
    | none =>
      cases symbols with
      | nil => simp
      | cons s tail =>
        have hne : c ≠ s.toChar := fun h => by
          rw [Symbol.ofChar?_eq_some_iff.mpr h] at hc
          cases hc
        simp [hne]
    | some s =>
      have hs := Symbol.ofChar?_eq_some_iff.mp hc
      cases symbols with
      | nil => cases readSymbols rest <;> simp [Except.map]
      | cons s' tail =>
        have hinj : c = s'.toChar ↔ s = s' := by
          rw [← Symbol.ofChar?_eq_some_iff, hc, Option.some.injEq]
        rw [List.map_cons, List.cons.injEq, hinj, ← ih]
        cases readSymbols rest <;> simp [Except.map]

/-- Read an equation. A wrong length is reported before an illegal character. -/
def ofString (text : String) : Except EquationError Equation :=
  let cs := text.toList
  if hlen : cs.length = equationLength then
    match h : readSymbols cs with
    | .error c => .error (.illegalCharacter c)
    | .ok symbols => .ok ⟨symbols, by
        rw [← hlen, readSymbols_eq_ok_iff.mp h, List.length_map]⟩
  else .error (.wrongLength cs.length)

/-- The text of an equation. -/
def text (e : Equation) : String := String.ofList (e.symbols.map Symbol.toChar)

/-- A text is read as an equation exactly if it is the text of that equation. -/
theorem ofString_eq_ok_iff {t : String} {e : Equation} : ofString t = .ok e ↔ t = e.text := by
  have htext : t = e.text ↔ t.toList = e.symbols.map Symbol.toChar := by
    rw [text, ← String.toList_inj, String.toList_ofList]
  rw [htext, ← readSymbols_eq_ok_iff, ofString]
  split
  · split
    · rename_i h
      simp [h]
    · rename_i symbols h
      have hread : readSymbols t.toList = .ok e.symbols ↔ symbols = e.symbols := by
        rw [h, Except.ok.injEq]
      rw [hread, Except.ok.injEq]
      exact ⟨fun he => he ▸ rfl, fun he => by cases e; cases he; rfl⟩
  · rename_i hlen
    have hne : t.toList ≠ e.symbols.map Symbol.toChar := fun h => by
      rw [h, List.length_map] at hlen
      exact hlen e.length_symbols
    simp [readSymbols_eq_ok_iff, hne]

theorem ofString_text (e : Equation) : ofString e.text = .ok e := ofString_eq_ok_iff.mpr rfl

/-- The symbol at a position counted from zero, if the position exists. -/
def symbolAt? (e : Equation) (position : Nat) : Option Symbol := e.symbols[position]?

/-- How often a symbol occurs. -/
def count (e : Equation) (s : Symbol) : Nat := e.symbols.count s

/-- Whether a symbol occurs. -/
def contains (e : Equation) (s : Symbol) : Bool := e.symbols.contains s

end Equation

end HiddenEquation
