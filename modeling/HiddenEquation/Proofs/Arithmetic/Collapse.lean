import HiddenEquation.Proofs.Arithmetic.Written
import Mathlib.Logic.Relation

/-!
# What the scan over products leaves

The scan over products goes through a row of tokens once, keeping what it has passed on a stack.
Read as one row, the stack and the tokens ahead change only where a product or a quotient is carried
out: its two numbers and its operator collapse into one number, and the rest of the row stays as it
is. So whatever a collapse preserves, the scan preserves. A readable row stays readable, since a
number stands where numbers stood and no result is negative, and the operators `+` and `-` stay as
they are. When the scan is through, no product is left, and a second scan has nothing to do.

## Main definitions

* `Collapse` : one product or quotient of a row is carried out.
* `AllLoose` : a row holds no product and no quotient.
* `Residue` : what can be said of the row that the scan leaves.

## Main results

* `Readable.collapse`, `Collapse.filter_isLoose` : what a collapse preserves.
* `resolveProducts_collapses` : the scan is a run of collapses.
* `residue_of_resolveProducts` : the row that the scan leaves of a readable one.
-/

namespace HiddenEquation

open Arithmetic

theorem Operator.apply_eq_ok_iff {o : Operator} {left right value : Int} :
    o.apply left right = .ok value ↔ InRange value ∧ o.exact left right = value := by
  rw [apply_eq]
  constructor
  · intro h
    cases hfit : fit? (o.exact left right) with
    | none => simp [hfit, orOverflow] at h
    | some v =>
      obtain rfl : v = value := by simpa [hfit, orOverflow] using h
      obtain ⟨hrange, hexact⟩ := fit?_eq_some_iff.mp hfit
      exact ⟨hexact ▸ hrange, hexact⟩
  · rintro ⟨hrange, rfl⟩
    rw [fit?, if_pos hrange, orOverflow]

/-- The value of a product or a quotient of numbers that are not negative is not negative. -/
theorem Operator.fits_of_apply {o : Operator} (ho : o.bindsTightly = true) {left right value : Int}
    (hl : 0 ≤ left) (hr : 0 ≤ right) (h : o.apply left right = .ok value) :
    0 ≤ value ∧ value ≤ largest := by
  obtain ⟨hrange, rfl⟩ := apply_eq_ok_iff.mp h
  exact ⟨Operator.exact_nonneg ho hl hr, hrange.2⟩

namespace Arithmetic

/-! ### One product -/

/-- One product or quotient of a row is carried out. The three tokens collapse into its value. -/
inductive Collapse : List Token → List Token → Prop
  | carryOut (before after : List Token) (o : OperatorOf true) {left right value : Int}
      (h : o.1.apply left right = .ok value) :
      Collapse (before ++ .number left :: .operator o.1 :: .number right :: after)
        (before ++ .number value :: after)

/-- Whether a token is a `+` or a `-`. -/
def Token.isLoose : Token → Bool
  | number _ => false
  | operator o => !o.bindsTightly

/-- Whether numbers stand side by side can be seen without their values. -/
theorem isChain_isNumber_iff {found : List Token} :
    (found.IsChain fun a b => ¬(a.isNumber = true ∧ b.isNumber = true)) ↔
      (found.map Token.isNumber).IsChain fun a b => ¬(a = true ∧ b = true) := by
  rw [List.isChain_map]

/-- A readable row stays readable. -/
theorem Readable.collapse {row next : List Token} (hr : Readable row) (h : Collapse row next) :
    Readable next := by
  obtain ⟨before, after, o, hvalue⟩ := h
  rename_i left right value
  refine ⟨by simp, ?_, ?_⟩
  · have hchain := isChain_isNumber_iff.mp hr.isChain
    rw [isChain_isNumber_iff]
    simp only [List.map_append, List.map_cons, Token.isNumber] at hchain ⊢
    obtain ⟨hbefore, hafter⟩ := List.isChain_split.mp hchain
    exact List.isChain_split.mpr ⟨hbefore, hafter.tail.tail⟩
  · have hleft := hr.numbersFit left (by simp)
    have hright := hr.numbersFit right (by simp)
    intro n hn
    rcases List.mem_append.mp hn with hn | hn
    · exact hr.numbersFit n (List.mem_append_left _ hn)
    · rcases List.mem_cons.mp hn with hn | hn
      · exact Token.number.inj hn ▸ Operator.fits_of_apply o.2 hleft.1 hright.1 hvalue
      · exact hr.numbersFit n (by simp [hn])

/-- The operators `+` and `-` stay, in their order. -/
theorem Collapse.filter_isLoose {row next : List Token} (h : Collapse row next) :
    next.filter Token.isLoose = row.filter Token.isLoose := by
  obtain ⟨before, after, o, -⟩ := h
  simp [Token.isLoose, o.2]

/-! ### Runs of collapses -/

variable {row found out : List Token}

theorem Readable.collapses (hr : Readable row) (h : Relation.ReflTransGen Collapse row out) :
    Readable out := by
  induction h with
  | refl => exact hr
  | tail _ hstep ih => exact ih.collapse hstep

theorem filter_isLoose_of_collapses (h : Relation.ReflTransGen Collapse row out) :
    out.filter Token.isLoose = row.filter Token.isLoose := by
  induction h with
  | refl => rfl
  | tail _ hstep ih => exact hstep.filter_isLoose.trans ih

/-! ### The whole scan -/

/-- A row holds no product and no quotient. -/
def AllLoose (row : List Token) : Prop := ∀ o, .operator o ∈ row → o.bindsTightly = false

theorem allLoose_number_cons {n : Int} : AllLoose (.number n :: row) ↔ AllLoose row := by
  simp [AllLoose]

theorem allLoose_operator_cons {o : Operator} :
    AllLoose (.operator o :: row) ↔ o.bindsTightly = false ∧ AllLoose row := by
  simp [AllLoose]

/-- The scan is a run of collapses on the row of what it has passed and what is ahead, and at the
end no product is left. -/
theorem resolveProducts_collapses (passed found : List Token) (hpassed : AllLoose passed)
    (h : resolveProducts passed found = .ok out) :
    Relation.ReflTransGen Collapse (passed.reverse ++ found) out ∧ AllLoose out := by
  -- what has been passed never holds a product, and the row as a whole changes by collapses only
  induction passed, found using resolveProducts.induct with
  | case1 passed =>
    obtain rfl : passed.reverse = out := Except.ok.inj h
    rw [List.append_nil]
    exact ⟨.refl, by simpa [AllLoose] using hpassed⟩
  | case2 passed n rest ih => simpa using ih (allLoose_number_cons.mpr hpassed) h
  | case3 o ho left earlier right rest ih =>
    rw [resolveProducts_tight left earlier ⟨o, ho⟩ right rest] at h
    cases hvalue : o.apply left right with
    | error fault => simp [hvalue, Except.bind] at h
    | ok value =>
      rw [hvalue] at h
      have hcollapse := Collapse.carryOut earlier.reverse rest ⟨o, ho⟩ hvalue
      obtain ⟨hruns, hloose⟩ :=
        ih value (allLoose_number_cons.mpr (allLoose_number_cons.mp hpassed)) h
      exact ⟨.head (by simpa using hcollapse) (by simpa using hruns), hloose⟩
  | case4 passed o rest ho hno =>
    rw [resolveProducts_missing passed ⟨o, ho⟩ rest hno] at h
    cases h
  | case5 passed o rest ho ih =>
    have ho' : o.bindsTightly = false := by simpa using ho
    simpa using ih (allLoose_operator_cons.mpr ⟨ho', hpassed⟩)
      ((resolveProducts_loose passed ⟨o, ho'⟩ rest).symm.trans h)

/-- The scan passes over a row that holds no product. -/
theorem resolveProducts_of_allLoose (passed : List Token) (h : AllLoose row) :
    resolveProducts passed row = .ok (passed.reverse ++ row) := by
  induction row generalizing passed with
  | nil => simp [resolveProducts]
  | cons t row ih =>
    cases t with
    | number n =>
      rw [resolveProducts]
      simpa using ih (.number n :: passed) (allLoose_number_cons.mp h)
    | operator o =>
      obtain ⟨ho, hrow⟩ := allLoose_operator_cons.mp h
      refine (resolveProducts_loose passed ⟨o, ho⟩ row).trans ?_
      simpa using ih (.operator o :: passed) hrow

/-! ### The row that the scan leaves -/

/-- A row that the scan over products leaves of another one. -/
structure Residue (found out : List Token) : Prop where
  readable : Readable out
  allLoose : AllLoose out
  /-- The operators `+` and `-` are those that were found, in their order. -/
  filter_isLoose : out.filter Token.isLoose = found.filter Token.isLoose
  /-- A second scan changes nothing. -/
  resolveProducts_self : resolveProducts [] out = .ok out

/-- The row that the scan leaves of a readable one. -/
theorem residue_of_resolveProducts (hr : Readable found)
    (h : resolveProducts [] found = .ok out) : Residue found out := by
  obtain ⟨hruns, hloose⟩ := resolveProducts_collapses [] found (by simp [AllLoose]) h
  exact ⟨hr.collapses hruns, hloose, filter_isLoose_of_collapses hruns,
    resolveProducts_of_allLoose [] hloose⟩

end Arithmetic

end HiddenEquation
