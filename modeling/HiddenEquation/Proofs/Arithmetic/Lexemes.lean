import HiddenEquation.Arithmetic.Token
import HiddenEquation.Proofs.Arithmetic.Grammar
import Mathlib.Data.List.Chain

/-!
# Lexemes of an expression

A lexeme is a numeral or an operator, with the characters that write it. A row of characters that
holds only digits and operators splits into lexemes in one way, if digits that stand side by side
always belong to the same numeral. This file proves that the tokens of an expression are what its
lexemes stand for: `scan` succeeds exactly if such a splitting exists and every numeral fits.

## Main definitions

* `Lexeme`, `Lexeme.word`, `Lexeme.token` : a lexeme, its characters, the token it stands for.
* `Separated`, `AllFit` : no two numerals stand side by side; every numeral is in range.
* `Reads` : characters are written by lexemes that stand for given tokens.

## Main results

* `scan_word`, `scan_word_overflow` : the tokens of a separated row of lexemes, if it has any.
* `reads_of_scan` : what `scan` accepts is written by a separated row of lexemes.
-/

namespace HiddenEquation.Arithmetic

/-- A numeral or an operator, as it is written. -/
inductive Lexeme where
  | numeral (n : Numeral)
  | operator (o : Operator)
  deriving DecidableEq, Repr

namespace Lexeme

/-- The characters of a lexeme. -/
def word : Lexeme → List Char
  | numeral n => n.digits
  | operator o => [o.toChar]

/-- The token that a lexeme stands for. -/
def token : Lexeme → Token
  | numeral n => .number n.value
  | operator o => .operator o

/-- Whether a lexeme is a numeral. -/
def isNumeral : Lexeme → Bool
  | numeral _ => true
  | operator _ => false

/-- A lexeme fits if it is an operator or its number is in range. -/
def Fits : Lexeme → Prop
  | numeral n => InRange n.value
  | operator _ => True

end Lexeme

/-- Every numeral of a row of lexemes is in range. -/
def AllFit (lexemes : List Lexeme) : Prop := ∀ l ∈ lexemes, l.Fits

theorem allFit_cons {l : Lexeme} {lexemes : List Lexeme} :
    AllFit (l :: lexemes) ↔ l.Fits ∧ AllFit lexemes := List.forall_mem_cons

theorem allFit_append {before after : List Lexeme} :
    AllFit (before ++ after) ↔ AllFit before ∧ AllFit after := List.forall_mem_append

/-- No two numerals stand side by side. -/
def Separated (lexemes : List Lexeme) : Prop :=
  lexemes.IsChain fun a b => ¬(a.isNumeral = true ∧ b.isNumeral = true)

theorem separated_operator_cons {o : Operator} {lexemes : List Lexeme} :
    Separated (.operator o :: lexemes) ↔ Separated lexemes := by
  cases lexemes <;> simp [Separated, Lexeme.isNumeral]

theorem separated_append_operator_cons {o : Operator} {before after : List Lexeme} :
    Separated (before ++ .operator o :: after) ↔ Separated before ∧ Separated after := by
  rw [Separated, List.isChain_split, ← Separated, ← Separated, separated_operator_cons]
  simp [Separated, List.isChain_append, Lexeme.isNumeral]

/-! ### Digits -/

theorem digitValue?_of_isDigit {c : Char} (hc : c.isDigit = true) :
    digitValue? c = some (c.toNat - '0'.toNat) := by
  simp [digitValue?, hc]

theorem digitValue?_toChar (o : Operator) : digitValue? o.toChar = none := by
  cases o <;> decide

/-- A numeral with one more digit behind it. -/
def Numeral.snoc (n : Numeral) (c : Char) (hc : c.isDigit = true) : Numeral where
  digits := n.digits ++ [c]
  digits_ne_nil := by simp
  isDigit_of_mem := by
    intro c' hc'
    rcases List.mem_append.mp hc' with hc' | hc'
    · exact n.isDigit_of_mem c' hc'
    · rw [List.mem_singleton.mp hc']
      exact hc

theorem Numeral.value_snoc (n : Numeral) (c : Char) (hc : c.isDigit = true) :
    (n.snoc c hc).value = n.value * 10 + (c.toNat - '0'.toNat) := by
  rw [Numeral.value, snoc, Nat.ofDigitChars_append, Nat.ofDigitChars_cons, Nat.ofDigitChars_nil,
    Nat.mul_comm, Numeral.value]

theorem Numeral.value_single (c : Char) (hc : c.isDigit = true) :
    (single c hc).value = c.toNat - '0'.toNat := by
  simp [Numeral.value, single, Nat.ofDigitChars_cons]

/-! ### One step of the scan -/

theorem scan_digit (pending : Option Nat) {c : Char} (hc : c.isDigit = true) (rest : List Char) :
    scan pending (c :: rest) =
      scan (some (pending.getD 0 * 10 + (c.toNat - '0'.toNat))) rest := by
  rw [scan, digitValue?_of_isDigit hc]

theorem scan_digits {digits : List Char} (hd : ∀ c ∈ digits, c.isDigit = true) (n : Nat)
    (rest : List Char) :
    scan (some n) (digits ++ rest) = scan (some (Nat.ofDigitChars 10 digits n)) rest := by
  induction digits generalizing n with
  | nil => simp
  | cons c digits ih =>
    rw [List.cons_append, scan_digit _ (hd c List.mem_cons_self), Option.getD_some,
      ih fun c' hc' => hd c' (List.mem_cons_of_mem _ hc'), Nat.ofDigitChars_cons, Nat.mul_comm]

theorem scan_numeral (n : Numeral) (rest : List Char) :
    scan none (n.digits ++ rest) = scan (some n.value) rest := by
  obtain ⟨digits, hne, hd⟩ := n
  cases digits with
  | nil => exact absurd rfl hne
  | cons c digits =>
    rw [List.cons_append, scan_digit _ (hd c List.mem_cons_self), Option.getD_none,
      scan_digits fun c' hc' => hd c' (List.mem_cons_of_mem _ hc'), Numeral.value,
      Nat.ofDigitChars_cons, Nat.zero_mul]

theorem scan_operator (pending : Option Nat) (o : Operator) (rest : List Char) :
    scan pending (o.toChar :: rest) = (do
      let closed ← closeNumber pending
      let found ← scan none rest
      return closed ++ .operator o :: found) := by
  rw [scan, digitValue?_toChar]
  simp only [Operator.ofChar?_toChar]

/-- What the scan accepts in front of an operator and behind it. -/
theorem scan_operator_eq_ok {pending : Option Nat} {o : Operator} {rest : List Char}
    {tokens : List Token} (h : scan pending (o.toChar :: rest) = .ok tokens) :
    ∃ closed found, closeNumber pending = .ok closed ∧ scan none rest = .ok found ∧
      tokens = closed ++ .operator o :: found := by
  rw [scan_operator] at h
  cases hclosed : closeNumber pending with
  | error fault => simp [hclosed, bind, Except.bind] at h
  | ok closed =>
    cases hfound : scan none rest with
    | error fault => simp [hclosed, hfound, bind, Except.bind] at h
    | ok found =>
      rw [hclosed, hfound] at h
      exact ⟨closed, found, rfl, rfl, (Except.ok.inj h).symm⟩

/-- The scan accepts no character that is neither a digit nor an operator. -/
theorem scan_ne_ok_of_other {pending : Option Nat} {c : Char} {rest : List Char}
    (hc : ¬c.isDigit = true) (ho : Operator.ofChar? c = none) (tokens : List Token) :
    scan pending (c :: rest) ≠ .ok tokens := by
  have hd : digitValue? c = none := by simp [digitValue?, hc]
  rw [scan, hd]
  simp only [ho]
  cases closeNumber pending <;> simp [bind, Except.bind]

theorem closeNumber_of_inRange {n : Nat} (hn : InRange n) :
    closeNumber (some n) = .ok [.number n] := by
  simp [closeNumber, checked, hn, Except.map]

theorem closeNumber_of_not_inRange {n : Nat} (hn : ¬InRange n) :
    closeNumber (some n) = .error .overflow := by
  simp [closeNumber, checked, hn, Except.map]

theorem closeNumber_eq_ok {n : Nat} {closed : List Token} (h : closeNumber (some n) = .ok closed) :
    InRange n ∧ closed = [.number n] := by
  by_cases hn : InRange n
  · rw [closeNumber_of_inRange hn] at h
    exact ⟨hn, (Except.ok.inj h).symm⟩
  · rw [closeNumber_of_not_inRange hn] at h
    cases h

/-! ### Tokens and lexemes -/

/-- The tokens of a separated row of lexemes, if every numeral fits. -/
theorem scan_word : ∀ {lexemes : List Lexeme}, Separated lexemes → AllFit lexemes →
    scan none (lexemes.flatMap Lexeme.word) = .ok (lexemes.map Lexeme.token)
  | [], _, _ => rfl
  | .operator o :: lexemes, hs, hf => by
    have ih := scan_word (separated_operator_cons.mp hs) (allFit_cons.mp hf).2
    change scan none (o.toChar :: lexemes.flatMap Lexeme.word) = _
    rw [scan_operator, ih]
    rfl
  | [.numeral n], _, hf => by
    have hn : InRange n.value := (allFit_cons.mp hf).1
    simp only [List.flatMap_cons, List.flatMap_nil, Lexeme.word]
    rw [scan_numeral, scan, closeNumber_of_inRange hn]
    rfl
  | .numeral n :: .operator o :: lexemes, hs, hf => by
    have hn : InRange n.value := (allFit_cons.mp hf).1
    have ih := scan_word (separated_operator_cons.mp hs.tail)
      (allFit_cons.mp (allFit_cons.mp hf).2).2
    change scan none (n.digits ++ (o.toChar :: lexemes.flatMap Lexeme.word)) = _
    rw [scan_numeral, scan_operator, closeNumber_of_inRange hn, ih]
    rfl
  | .numeral n :: .numeral m :: _, hs, _ => by
    simp [Separated, Lexeme.isNumeral] at hs

/-- A separated row of lexemes has no tokens if some numeral does not fit. -/
theorem scan_word_overflow : ∀ {lexemes : List Lexeme}, Separated lexemes → ¬AllFit lexemes →
    scan none (lexemes.flatMap Lexeme.word) = .error .overflow
  | [], _, hf => absurd (fun _ hl => by cases hl) hf
  | .operator o :: lexemes, hs, hf => by
    have hrest : ¬AllFit lexemes := fun h => hf (allFit_cons.mpr ⟨trivial, h⟩)
    have ih := scan_word_overflow (separated_operator_cons.mp hs) hrest
    change scan none (o.toChar :: lexemes.flatMap Lexeme.word) = _
    rw [scan_operator, ih]
    rfl
  | [.numeral n], _, hf => by
    have hn : ¬InRange n.value := fun h => hf (allFit_cons.mpr ⟨h, fun _ hl => by cases hl⟩)
    simp only [List.flatMap_cons, List.flatMap_nil, Lexeme.word]
    rw [scan_numeral, scan, closeNumber_of_not_inRange hn]
  | .numeral n :: .operator o :: lexemes, hs, hf => by
    change scan none (n.digits ++ (o.toChar :: lexemes.flatMap Lexeme.word)) = _
    rw [scan_numeral, scan_operator]
    by_cases hn : InRange n.value
    · have hrest : ¬AllFit lexemes := fun h =>
        hf (allFit_cons.mpr ⟨hn, allFit_cons.mpr ⟨trivial, h⟩⟩)
      rw [closeNumber_of_inRange hn,
        scan_word_overflow (separated_operator_cons.mp hs.tail) hrest]
      rfl
    · rw [closeNumber_of_not_inRange hn]
      rfl
  | .numeral n :: .numeral m :: _, hs, _ => by
    simp [Separated, Lexeme.isNumeral] at hs

/-- Characters are written by a separated row of lexemes that fit, and these stand for tokens. -/
def Reads (cs : List Char) (tokens : List Token) : Prop :=
  ∃ lexemes, Separated lexemes ∧ AllFit lexemes ∧ lexemes.flatMap Lexeme.word = cs ∧
    lexemes.map Lexeme.token = tokens

namespace Reads

theorem nil : Reads [] [] :=
  ⟨[], by simp [Separated], by simp [AllFit], rfl, rfl⟩

theorem numeral {n : Numeral} (hn : InRange n.value) : Reads n.digits [.number n.value] :=
  ⟨[.numeral n], by simp [Separated], by simpa [AllFit, Lexeme.Fits] using hn,
    by simp [Lexeme.word], rfl⟩

theorem operator {cs : List Char} {tokens : List Token} (h : Reads cs tokens) (o : Operator) :
    Reads (o.toChar :: cs) (.operator o :: tokens) := by
  obtain ⟨lexemes, hs, hf, rfl, rfl⟩ := h
  exact ⟨.operator o :: lexemes, separated_operator_cons.mpr hs, allFit_cons.mpr ⟨trivial, hf⟩,
    by simp [Lexeme.word], rfl⟩

theorem numeral_operator {cs : List Char} {tokens : List Token} (h : Reads cs tokens)
    {n : Numeral} (hn : InRange n.value) (o : Operator) :
    Reads (n.digits ++ o.toChar :: cs) (.number n.value :: .operator o :: tokens) := by
  obtain ⟨lexemes, hs, hf, rfl, rfl⟩ := h
  refine ⟨[.numeral n] ++ .operator o :: lexemes, separated_append_operator_cons.mpr ?_,
    allFit_append.mpr ?_, by simp [Lexeme.word], rfl⟩
  · exact ⟨by simp [Separated], hs⟩
  · exact ⟨by simpa [AllFit, Lexeme.Fits] using hn, allFit_cons.mpr ⟨trivial, hf⟩⟩

end Reads

/-- The second half is the case of a numeral that has been read in part. -/
private theorem reads_of_scan_pending (cs : List Char) :
    (∀ tokens, scan none cs = .ok tokens → Reads cs tokens) ∧
    ∀ (n : Numeral) tokens, scan (some n.value) cs = .ok tokens →
      Reads (n.digits ++ cs) tokens := by
  induction cs with
  | nil =>
    constructor
    · intro tokens h
      obtain rfl : [] = tokens := Except.ok.inj h
      exact Reads.nil
    · intro n tokens h
      obtain ⟨hn, rfl⟩ := closeNumber_eq_ok h
      simpa using Reads.numeral hn
  | cons c cs ih =>
    by_cases hc : c.isDigit = true
    · constructor
      · intro tokens h
        rw [scan_digit _ hc, Option.getD_none, Nat.zero_mul, Nat.zero_add,
          ← Numeral.value_single c hc] at h
        exact ih.2 _ tokens h
      · intro n tokens h
        rw [scan_digit _ hc, Option.getD_some, ← Numeral.value_snoc n c hc] at h
        simpa only [Numeral.snoc, List.append_assoc, List.singleton_append] using ih.2 _ tokens h
    · cases ho : Operator.ofChar? c with
      | none =>
        exact ⟨fun tokens h => absurd h (scan_ne_ok_of_other hc ho tokens),
          fun n tokens h => absurd h (scan_ne_ok_of_other hc ho tokens)⟩
      | some o =>
        obtain rfl := Operator.ofChar?_eq_some_iff.mp ho
        constructor
        · intro tokens h
          obtain ⟨closed, found, hclosed, hfound, rfl⟩ := scan_operator_eq_ok h
          obtain rfl : [] = closed := Except.ok.inj hclosed
          exact (ih.1 found hfound).operator o
        · intro n tokens h
          obtain ⟨closed, found, hclosed, hfound, rfl⟩ := scan_operator_eq_ok h
          obtain ⟨hn, rfl⟩ := closeNumber_eq_ok hclosed
          exact (ih.1 found hfound).numeral_operator hn o

/-- What `scan` accepts is written by a separated row of lexemes that fit. -/
theorem reads_of_scan {cs : List Char} {found : List Token} (h : scan none cs = .ok found) :
    Reads cs found :=
  (reads_of_scan_pending cs).1 found h

end HiddenEquation.Arithmetic
