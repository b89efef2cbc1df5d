import HiddenEquation.Proofs.Arithmetic.Diagnosis
import HiddenEquation.Proofs.Arithmetic.Steps
import Mathlib.Data.List.SplitBy

/-!
# Writing tokens back

Tokens can be written as they are read: an operator by its character, and a number in decimal. What
the tokens of a text write is the text again, but for the two things that reading overlooks, blanks
and the zeros that lead a run of digits. Conversely, which rows of tokens can be read at all is seen
from the tokens themselves: no two numbers stand side by side, since their digits would run
together, and every number is one that digits can write and that fits.

The scan knows nothing of runs of digits. Both directions go through lexemes: those of a text are
its runs, and a row of tokens has lexemes that write each number without leading zeros.

## Main definitions

* `written` : the text that tokens write.
* `Readable` : the rows of tokens that can be read.
* `withoutLeadingZeros` : characters without the zeros that lead a run of digits.

## Main results

* `Numeral.toDigits_value` : the value of a numeral is written without its leading zeros.
* `runs_flatMap_word` : the lexemes of a row of characters are its runs.
* `tokens_eq_ok_written` : what is read is written back, and what is written is read back.
-/

namespace HiddenEquation.Arithmetic

/-! ### Tokens and how they are written -/

namespace Token

/-- Whether a token is a number. -/
def isNumber : Token → Bool
  | number _ => true
  | operator _ => false

/-- The characters of a token: an operator is its own character, and a number is in decimal. -/
def word : Token → List Char
  | number n => (toString n).toList
  | operator o => [o.toChar]

theorem word_number (n : Nat) : (number n).word = Nat.toDigits 10 n := by
  simp [word, Int.toString_eq_repr, Int.repr_eq_if]

end Token

/-- The text that tokens write, one after another. -/
def written (found : List Token) : String := String.ofList (found.flatMap Token.word)

/-- No number of a row is negative or too large. -/
def NumbersFit (row : List Token) : Prop := ∀ n, .number n ∈ row → 0 ≤ n ∧ n ≤ largest

theorem numbersFit_number_cons {n : Int} {row : List Token} :
    NumbersFit (.number n :: row) ↔ (0 ≤ n ∧ n ≤ largest) ∧ NumbersFit row := by
  simp [NumbersFit]

theorem numbersFit_operator_cons {o : Operator} {row : List Token} :
    NumbersFit (.operator o :: row) ↔ NumbersFit row := by
  simp [NumbersFit]

/-- The rows of tokens that can be read. There is a token, no two numbers stand side by side, and no
number is negative or too large. -/
structure Readable (found : List Token) : Prop where
  ne_nil : found ≠ []
  isChain : found.IsChain fun a b => ¬(a.isNumber = true ∧ b.isNumber = true)
  numbersFit : NumbersFit found

/-! ### Leading zeros -/

/-- A row of characters without the zeros in front of it. Its last character stays. -/
def trimZeros : List Char → List Char
  | c :: d :: rest => if c = '0' then trimZeros (d :: rest) else c :: d :: rest
  | run => run

/-- The maximal runs of digits of a row of characters. Every other character is by itself. -/
def runs (cs : List Char) : List (List Char) := cs.splitBy fun a b => a.isDigit && b.isDigit

/-- A row of characters without the zeros that lead a run of digits. -/
def withoutLeadingZeros (cs : List Char) : List Char := (runs cs).flatMap trimZeros

theorem toDigits_digit {c : Char} (hc : c.isDigit = true) :
    Nat.toDigits 10 (c.toNat - '0'.toNat) = [c] := by
  have hlt : c.toNat - '0'.toNat < 10 := digit_sub_lt_ten hc
  have hle := (Char.isDigit_iff_toNat.mp hc).1
  rw [Nat.toDigits_of_lt_base hlt, List.singleton_inj, ← Char.toNat_inj,
    Nat.toNat_digitChar_of_lt_ten hlt]
  simp only [Char.reduceToNat] at hle ⊢
  omega

/-- Digits behind a number other than zero are digits of the whole number. -/
theorem toDigits_ofDigitChars {digits : List Char} (hd : ∀ c ∈ digits, c.isDigit = true) {n : Nat}
    (hn : 0 < n) :
    Nat.toDigits 10 (Nat.ofDigitChars 10 digits n) = Nat.toDigits 10 n ++ digits := by
  induction digits generalizing n with
  | nil => simp
  | cons c digits ih =>
    obtain ⟨hc, hd⟩ := List.forall_mem_cons.mp hd
    rw [Nat.ofDigitChars_cons, ih hd (by omega),
      ← Nat.toDigits_append_toDigits (by decide) hn (digit_sub_lt_ten hc), toDigits_digit hc,
      List.append_assoc, List.singleton_append]

theorem toDigits_ofDigitChars_zero {digits : List Char} (hd : ∀ c ∈ digits, c.isDigit = true)
    (hne : digits ≠ []) :
    Nat.toDigits 10 (Nat.ofDigitChars 10 digits 0) = trimZeros digits := by
  induction digits using trimZeros.induct with
  | case1 d rest ih =>
    rw [trimZeros, if_pos rfl, ← ih (List.forall_mem_cons.mp hd).2 (List.cons_ne_nil d rest)]
    simp [Nat.ofDigitChars_cons]
  | case2 c d rest hc =>
    obtain ⟨hdigit, hrest⟩ := List.forall_mem_cons.mp hd
    have hpos : 0 < c.toNat - '0'.toNat :=
      Nat.pos_of_ne_zero fun hzero => hc (eq_zero_of_digit_sub hdigit hzero)
    rw [trimZeros, if_neg hc, Nat.ofDigitChars_cons, Nat.mul_zero, Nat.zero_add,
      toDigits_ofDigitChars hrest hpos, toDigits_digit hdigit, List.singleton_append]
  | case3 run hrun =>
    match run, hne with
    | [c], _ =>
      rw [Nat.ofDigitChars_cons, Nat.ofDigitChars_nil, Nat.mul_zero, Nat.zero_add,
        toDigits_digit (hd c List.mem_cons_self), trimZeros]
      simp
    | c :: d :: rest, _ => exact absurd rfl (hrun c d rest)

/-- The value of a numeral is written without its leading zeros. -/
theorem Numeral.toDigits_value (n : Numeral) : Nat.toDigits 10 n.value = trimZeros n.digits :=
  toDigits_ofDigitChars_zero n.isDigit_of_mem n.digits_ne_nil

/-! ### The runs of lexemes -/

theorem Lexeme.word_ne_nil (l : Lexeme) : l.word ≠ [] := by
  cases l with
  | numeral n => exact n.digits_ne_nil
  | operator o => exact List.cons_ne_nil _ _

theorem Lexeme.isBlank_of_mem_word {l : Lexeme} {c : Char} (hc : c ∈ l.word) :
    Text.isBlank c = false := by
  cases l with
  | numeral n =>
    have hrange := Char.isDigit_iff_toNat.mp (n.isDigit_of_mem c hc)
    simp only [Char.reduceToNat] at hrange
    simp only [Text.isBlank, Text.inRanges, Text.blankRanges, List.any_cons, List.any_nil,
      Bool.or_false, Bool.or_eq_false_iff, Bool.and_eq_false_imp, decide_eq_true_eq,
      decide_eq_false_iff_not, not_le]
    omega
  | operator o =>
    obtain rfl := List.mem_singleton.mp hc
    cases o <;> decide

theorem Lexeme.isChain_word (l : Lexeme) :
    l.word.IsChain fun a b => (a.isDigit && b.isDigit) = true := by
  cases l with
  | operator o => exact List.isChain_singleton _
  | numeral n =>
    refine List.isChain_iff_forall_rel_of_append_cons_cons.mpr fun a b l₁ l₂ heq => ?_
    replace heq : n.digits = l₁ ++ a :: b :: l₂ := heq
    rw [Bool.and_eq_true]
    exact ⟨n.isDigit_of_mem a (by simp [heq]), n.isDigit_of_mem b (by simp [heq])⟩

/-- Where two lexemes meet that are not both numerals, no run goes on. -/
theorem Lexeme.run_ends {a b : Lexeme} (h : ¬(a.isNumeral = true ∧ b.isNumeral = true)) :
    ((a.word.getLast a.word_ne_nil).isDigit && (b.word.head b.word_ne_nil).isDigit) = false := by
  cases a with
  | operator o => simp [word, o.isDigit_toChar]
  | numeral n =>
    cases b with
    | operator o => simp [word, o.isDigit_toChar]
    | numeral m => exact absurd ⟨rfl, rfl⟩ h

/-- The lexemes of a row of characters are its runs. -/
theorem runs_flatMap_word {row : List Lexeme} (hs : Separated row) :
    runs (row.flatMap Lexeme.word) = row.map Lexeme.word := by
  rw [runs, List.flatMap_def]
  refine List.splitBy_flatten ?_ ?_ ?_
  · simpa using fun l _ => l.word_ne_nil
  · exact List.forall_mem_map.mpr fun l _ => l.isChain_word
  · rw [List.isChain_map]
    exact hs.imp fun a b h => ⟨a.word_ne_nil, b.word_ne_nil, Lexeme.run_ends h⟩

/-- The token of a lexeme is written as the lexeme, without leading zeros. -/
theorem Lexeme.word_token (l : Lexeme) : l.token.word = trimZeros l.word := by
  cases l with
  | numeral n => exact (Token.word_number n.value).trans n.toDigits_value
  | operator o => rfl

theorem flatMap_word_token {row : List Lexeme} (hs : Separated row) :
    (row.map Lexeme.token).flatMap Token.word =
      withoutLeadingZeros (row.flatMap Lexeme.word) := by
  rw [withoutLeadingZeros, runs_flatMap_word hs, List.flatMap_map, List.flatMap_map]
  exact congrArg (row.flatMap ·) (funext Lexeme.word_token)

/-! ### Rows that can be read -/

theorem Lexeme.isNumber_token (l : Lexeme) : l.token.isNumber = l.isNumeral := by
  cases l <;> rfl

/-- What separated lexemes that fit stand for can be read. -/
theorem Readable.of_lexemes {row : List Lexeme} (hs : Separated row) (hf : AllFit row)
    (hne : row ≠ []) : Readable (row.map Lexeme.token) where
  ne_nil := fun h => hne (List.map_eq_nil_iff.mp h)
  isChain := by
    rw [List.isChain_map]
    simpa only [Lexeme.isNumber_token, Separated] using hs
  numbersFit := by
    intro v hv
    obtain ⟨l, hl, hlv⟩ := List.mem_map.mp hv
    cases l with
    | operator o => cases hlv
    | numeral n =>
      obtain rfl : (n.value : Int) = v := Token.number.inj hlv
      exact ⟨Int.natCast_nonneg _, (hf _ hl).2⟩

/-- The numeral without leading zeros. -/
def Numeral.ofNat (n : Nat) : Numeral where
  digits := Nat.toDigits 10 n
  digits_ne_nil := Nat.toDigits_ne_nil
  isDigit_of_mem := fun _ hc => Nat.isDigit_of_mem_toDigits (by decide) (by decide) hc

theorem Numeral.value_ofNat (n : Nat) : (ofNat n).value = n := Nat.ofDigitChars_ten_toDigits

/-- The lexeme that writes a token without leading zeros. -/
def Token.lexeme : Token → Lexeme
  | number n => .numeral (.ofNat n.toNat)
  | operator o => .operator o

theorem Token.isNumeral_lexeme (t : Token) : t.lexeme.isNumeral = t.isNumber := by
  cases t <;> rfl

namespace Readable

variable {found : List Token}

theorem token_lexeme (h : Readable found) {t : Token} (ht : t ∈ found) : t.lexeme.token = t := by
  cases t with
  | operator o => rfl
  | number n =>
    rw [Token.lexeme, Lexeme.token, Numeral.value_ofNat, Int.toNat_of_nonneg (h.numbersFit n ht).1]

theorem fits_lexeme (h : Readable found) {t : Token} (ht : t ∈ found) : t.lexeme.Fits := by
  cases t with
  | operator o => trivial
  | number n =>
    have hn := h.numbersFit n ht
    simp only [Token.lexeme, Lexeme.Fits, Numeral.value_ofNat, InRange, smallest, largest] at hn ⊢
    omega

theorem word_lexeme (h : Readable found) {t : Token} (ht : t ∈ found) :
    t.lexeme.word = t.word := by
  cases t with
  | operator o => rfl
  | number n =>
    have hword := Token.word_number n.toNat
    rw [Int.toNat_of_nonneg (h.numbersFit n ht).1] at hword
    exact hword.symm

/-- The lexemes without leading zeros read a row of tokens. -/
theorem reads (h : Readable found) : Reads (found.flatMap Token.word) found := by
  refine ⟨found.map Token.lexeme, ?_, ?_, ?_, ?_⟩
  · rw [Separated, List.isChain_map]
    simpa only [Token.isNumeral_lexeme] using h.isChain
  · exact List.forall_mem_map.mpr fun t ht => h.fits_lexeme ht
  · rw [List.flatMap_map]
    exact List.flatMap_congr fun t ht => h.word_lexeme ht
  · rw [List.map_map]
    exact (List.map_congr_left fun t ht => h.token_lexeme ht).trans (List.map_id found)

/-- What readable tokens write holds no blanks. -/
theorem visible_written (h : Readable found) :
    visible (written found) = found.flatMap Token.word := by
  rw [visible, written, String.toList_ofList, List.filter_eq_self]
  intro c hc
  obtain ⟨t, ht, hc⟩ := List.mem_flatMap.mp hc
  rw [← h.word_lexeme ht] at hc
  simp [Lexeme.isBlank_of_mem_word hc]

end Readable

/-! ### What is read and what is written -/

theorem readable_of_tokens {text : String} {found : List Token} (h : tokens text = .ok found) :
    Readable found := by
  obtain ⟨row, hs, hf, hne, -, rfl⟩ := exists_lexemes_of_tokens h
  exact .of_lexemes hs hf hne

/-- **What is read is written back, and what is written is read back.** The tokens of a text are a
readable row, and what they write is the text without its blanks and without the zeros that lead its
runs of digits. Every readable row is the row of the text that it writes. -/
theorem tokens_eq_ok_written (text : String) (found : List Token) :
    (tokens text = .ok found →
      Readable found ∧ (written found).toList = withoutLeadingZeros (visible text)) ∧
    (Readable found → tokens (written found) = .ok found) := by
  constructor
  · intro h
    refine ⟨readable_of_tokens h, ?_⟩
    obtain ⟨row, hs, -, -, hword, rfl⟩ := exists_lexemes_of_tokens h
    rw [written, String.toList_ofList, flatMap_word_token hs, hword]
  · intro h
    obtain ⟨row, hs, hf, hword, hfound⟩ := h.reads
    have hne : row ≠ [] := by
      rintro rfl
      exact h.ne_nil hfound.symm
    rw [tokens_of_lexemes hs hf hne (hword.trans h.visible_written.symm), hfound]

/-- Blanks and leading zeros are all that is lost. -/
theorem tokens_eq_ok_written_zeros :
    tokens " 007 * 0\t0-10" =
      .ok [.number 7, .operator .mul, .number 0, .operator .sub, .number 10] ∧
      Readable [.number 7, .operator .mul, .number 0, .operator .sub, .number 10] ∧
      withoutLeadingZeros (visible " 007 * 0\t0-10") = "7*0-10".toList ∧
      tokens "7*0-10" = .ok [.number 7, .operator .mul, .number 0, .operator .sub, .number 10] := by
  have hread : tokens " 007 * 0\t0-10" =
      .ok [.number 7, .operator .mul, .number 0, .operator .sub, .number 10] := by decide
  have htext : written [.number 7, .operator .mul, .number 0, .operator .sub, .number 10] =
      "7*0-10" := by decide
  obtain ⟨hreadable, hwritten⟩ := (tokens_eq_ok_written _ _).1 hread
  have hback := (tokens_eq_ok_written "" _).2 hreadable
  rw [htext] at hwritten hback
  exact ⟨hread, hreadable, hwritten.symm, hback⟩

end HiddenEquation.Arithmetic
