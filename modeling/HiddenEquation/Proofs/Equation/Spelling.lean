import HiddenEquation.Proofs.Guess.Rules

/-!
# The spelling of equations

A text is read as an equation if it has seven characters and all of them belong to the alphabet.
Otherwise the reading says what is wrong: the length, whatever the characters are, or else the
leftmost character that is outside the alphabet. This file states both in terms of the characters
and shows that nothing else decides how a text is read.

## Main definitions

* `Equation.Spells` : seven characters of the alphabet.
* `Equation.Misspells` : what is wrong with characters that spell no equation.

## Main results

* `Equation.readSymbols_eq_error_iff` : reading stops at the leftmost illegal character.
* `Equation.exists_misspells_iff` : what spells no equation has a fault.
* `Equation.exists_ofString_eq_ok_iff`, `Equation.ofString_eq_error_iff` : how a text is read.
-/

namespace HiddenEquation.Equation

open Guess (IsLegal)

/-- The characters are seven, and they all belong to the alphabet. -/
def Spells (cs : List Char) : Prop := cs.length = 7 ∧ ∀ c ∈ cs, IsLegal c

instance : DecidablePred Spells := fun cs =>
  inferInstanceAs (Decidable (cs.length = 7 ∧ ∀ c ∈ cs, IsLegal c))

/-- What is wrong with the characters: they are not seven, or they are, and this is the leftmost one
that does not belong to the alphabet. -/
def Misspells (cs : List Char) : EquationError → Prop
  | .wrongLength n => n = cs.length ∧ n ≠ 7
  | .illegalCharacter c => cs.length = 7 ∧
      ∃ before after, cs = before ++ c :: after ∧ ¬IsLegal c ∧ ∀ earlier ∈ before, IsLegal earlier

theorem ofChar?_eq_none_iff {c : Char} : Symbol.ofChar? c = none ↔ ¬IsLegal c := by
  rw [Guess.isLegal_iff, not_exists, Option.eq_none_iff_forall_ne_some]
  exact forall_congr' fun s => not_congr (Symbol.ofChar?_eq_some_iff.trans eq_comm)

theorem isLegal_toChar (s : Symbol) : IsLegal s.toChar := Guess.isLegal_iff.mpr ⟨s, rfl⟩

/-- Reading stops at the leftmost character outside the alphabet. -/
theorem readSymbols_eq_error_iff {cs : List Char} {c : Char} :
    readSymbols cs = .error c ↔
      ∃ before after, cs = before ++ c :: after ∧ ¬IsLegal c ∧
        ∀ earlier ∈ before, IsLegal earlier := by
  induction cs with
  | nil => simp [readSymbols]
  | cons d rest ih =>
    cases hd : Symbol.ofChar? d with
    | none =>
      have hillegal := ofChar?_eq_none_iff.mp hd
      rw [readSymbols, hd, Except.error.injEq]
      constructor
      · rintro rfl
        exact ⟨[], rest, rfl, hillegal, by simp⟩
      · rintro ⟨before, after, hsplit, -, hbefore⟩
        cases before with
        | nil => exact (List.cons.inj hsplit).1
        | cons first before =>
          obtain rfl : d = first := (List.cons.inj hsplit).1
          exact absurd (hbefore d List.mem_cons_self) hillegal
    | some s =>
      obtain rfl := Symbol.ofChar?_eq_some_iff.mp hd
      have hstep : readSymbols (s.toChar :: rest) = .error c ↔ readSymbols rest = .error c := by
        rw [readSymbols, hd]
        cases readSymbols rest <;> simp [Except.map]
      rw [hstep, ih]
      constructor
      · rintro ⟨before, after, rfl, hc, hbefore⟩
        exact ⟨s.toChar :: before, after, rfl, hc,
          List.forall_mem_cons.mpr ⟨isLegal_toChar s, hbefore⟩⟩
      · rintro ⟨before, after, hsplit, hc, hbefore⟩
        cases before with
        | nil =>
          obtain rfl : s.toChar = c := (List.cons.inj hsplit).1
          exact absurd (isLegal_toChar s) hc
        | cons first before =>
          exact ⟨before, after, (List.cons.inj hsplit).2, hc,
            (List.forall_mem_cons.mp hbefore).2⟩

theorem spells_text (e : Equation) : Spells e.text.toList := by
  rw [text, String.toList_ofList]
  refine ⟨by rw [List.length_map, e.length_symbols, equationLength], fun c hc => ?_⟩
  obtain ⟨s, -, rfl⟩ := List.mem_map.mp hc
  exact isLegal_toChar s

/-- A text that is no equation has one fault. -/
theorem ofString_eq_error_iff {text : String} {fault : EquationError} :
    ofString text = .error fault ↔ Misspells text.toList fault := by
  rw [ofString]
  split
  case isTrue hlen =>
    rw [equationLength] at hlen
    cases fault with
    | wrongLength n =>
      have hright : ¬Misspells text.toList (.wrongLength n) := fun h => h.2 (h.1.trans hlen)
      refine iff_of_false ?_ hright
      split <;> simp
    | illegalCharacter c =>
      rw [Misspells, ← readSymbols_eq_error_iff, and_iff_right hlen]
      split
      · rename_i bad hbad
        rw [hbad, Except.error.injEq, Except.error.injEq, EquationError.illegalCharacter.injEq]
      · rename_i symbols hsymbols
        simp [hsymbols]
  case isFalse hlen =>
    rw [equationLength] at hlen
    cases fault with
    | wrongLength n =>
      rw [Except.error.injEq, EquationError.wrongLength.injEq, Misspells, eq_comm]
      exact ⟨fun h => ⟨h, h ▸ hlen⟩, And.left⟩
    | illegalCharacter c =>
      exact iff_of_false (by simp) fun h => hlen h.1

/-- Characters have a fault exactly if they spell no equation. -/
theorem exists_misspells_iff {cs : List Char} : (∃ fault, Misspells cs fault) ↔ ¬Spells cs := by
  constructor
  · rintro ⟨n | c, hfault⟩ ⟨hlength, hlegal⟩
    · exact hfault.2 (hfault.1.trans hlength)
    · obtain ⟨-, before, after, hsplit, hc, -⟩ := hfault
      exact hc (hlegal c (hsplit ▸ by simp))
  · intro hspells
    cases hread : ofString (String.ofList cs) with
    | ok e =>
      have htext := ofString_eq_ok_iff.mp hread
      have hcs := spells_text e
      rw [← htext, String.toList_ofList] at hcs
      exact absurd hcs hspells
    | error fault =>
      rw [ofString_eq_error_iff, String.toList_ofList] at hread
      exact ⟨fault, hread⟩

/-- The texts that are read as equations are those that spell one. -/
theorem exists_ofString_eq_ok_iff {text : String} :
    (∃ e, ofString text = .ok e) ↔ Spells text.toList := by
  rw [← not_iff_not, ← exists_misspells_iff]
  simp only [← ofString_eq_error_iff]
  cases ofString text <;> simp

theorem text_injective : Function.Injective text := by
  intro e other htext
  have hread := ofString_text e
  rw [htext, ofString_text, Except.ok.injEq] at hread
  exact hread.symm

end HiddenEquation.Equation
