import HiddenEquation.Proofs.Equation.Frequencies
import HiddenEquation.Proofs.Equation.Spelling
import HiddenEquation.Proofs.Text.Bytes
import Mathlib.Data.List.Count

/-!
# Equations as bytes

An equation can be stored in seven bytes, because every symbol is an ASCII character. A text cannot,
as a rule: a character may take up to four bytes, so that a text of seven characters need not have
seven bytes. This file reads an equation by copying the bytes of a text into seven places, where a
wrong number of bytes makes the reading break off. The copy comes last. Before it the characters are
counted and compared with the alphabet, and what passes both has exactly seven bytes. So the reading
never breaks off, and it gives the bytes of the equation that is read symbol by symbol.

## Main definitions

* `Symbol.byte`, `Equation.bytes` : the bytes of symbols and equations.
* `Equation.isAlphabetic` : whether the byte of a character is in the alphabet.
* `Equation.readBytes?` : reading an equation by copying the bytes of a text.
* `Equation.Tallied` : a table of frequencies belongs to an equation.

## Main results

* `Equation.isAlphabetic_iff` : the comparison of bytes finds the characters of the alphabet.
* `Equation.toList_toUTF8_text` : the bytes of the text of an equation are those of its symbols.
* `Equation.readBytes?_eq` : copying never breaks off, and it reads the same equations.
* `Equation.reads_seven_symbols` : how texts are read as equations, and what an equation holds.
-/

namespace HiddenEquation

/-- The byte that stores a symbol. -/
def Symbol.byte (s : Symbol) : UInt8 := s.toChar.toUInt8

namespace Equation

open Guess (IsLegal)

/-- The bytes of an equation, in their places. -/
def bytes (e : Equation) : List UInt8 := e.symbols.map Symbol.byte

/-- Whether the byte of a character is in the alphabet. A character beyond ASCII is ruled out first:
cut down to one byte, it could look like a symbol. -/
def isAlphabetic (c : Char) : Bool :=
  c.toNat < 128 && (Symbol.all.map Symbol.byte).contains c.toUInt8

/-- Copy bytes into the seven places of an equation. This breaks off if they are not seven. -/
def copyBytes? (bytes : List UInt8) : Option (List UInt8) :=
  if bytes.length = equationLength then some bytes else none

/-- Read an equation by copying the bytes of a text, after its characters were counted and compared
with the alphabet. There is no answer at all if the copying breaks off. -/
def readBytes? (text : String) : Option (Except EquationError (List UInt8)) :=
  let cs := text.toList
  if cs.length = equationLength then
    match cs.find? fun c => !isAlphabetic c with
    | some c => some (.error (.illegalCharacter c))
    | none => (copyBytes? text.toUTF8.toList).map .ok
  else some (.error (.wrongLength cs.length))

/-! ### Symbols and bytes -/

theorem toNat_toChar_lt (s : Symbol) : s.toChar.toNat < 128 := by
  match s with
  | .digit d => revert d; decide
  | .operator o => cases o <;> decide
  | .equals => decide

theorem toNat_toUInt8 {c : Char} (h : c.toNat < 128) : c.toUInt8.toNat = c.toNat := by
  have hmod : c.toUInt8.toNat = c.toNat % 256 := UInt32.toNat_toUInt8 c.val
  omega

theorem toNat_byte (s : Symbol) : s.byte.toNat = s.toChar.toNat :=
  toNat_toUInt8 (toNat_toChar_lt s)

theorem byte_injective : Function.Injective Symbol.byte := by
  intro s other h
  have hnat := congrArg UInt8.toNat h
  rw [toNat_byte, toNat_byte, Char.toNat_inj] at hnat
  exact Symbol.toChar_inj.mp hnat

/-- The comparison of bytes finds the characters of the alphabet and no others. -/
theorem isAlphabetic_iff {c : Char} : isAlphabetic c = true ↔ IsLegal c := by
  rw [isAlphabetic, Bool.and_eq_true, decide_eq_true_iff, List.contains_iff_mem, List.mem_map,
    Guess.isLegal_iff]
  constructor
  · rintro ⟨hascii, s, -, hs⟩
    have hnat := congrArg UInt8.toNat hs
    rw [toNat_byte, toNat_toUInt8 hascii, Char.toNat_inj] at hnat
    exact ⟨s, hnat⟩
  · rintro ⟨s, rfl⟩
    exact ⟨toNat_toChar_lt s, s, s.mem_all, rfl⟩

/-! ### Copying -/

theorem utf8EncodeChar_toChar (s : Symbol) : String.utf8EncodeChar s.toChar = [s.byte] := by
  have hsize : s.toChar.utf8Size = 1 := by
    rw [Char.utf8Size_eq_one_iff, UInt32.le_iff_toNat_le]
    exact Nat.le_of_lt_succ (toNat_toChar_lt s)
  exact String.utf8EncodeChar_eq_singleton hsize

/-- The bytes of the text of an equation are those of its symbols. -/
theorem toList_toUTF8_text (e : Equation) : e.text.toUTF8.toList = e.bytes := by
  rw [Text.toList_toUTF8, text, String.toList_ofList, List.flatMap_map, bytes]
  simp only [utf8EncodeChar_toChar]
  exact List.map_eq_flatMap.symm

theorem length_bytes (e : Equation) : e.bytes.length = equationLength := by
  rw [bytes, List.length_map, e.length_symbols]

/-- The first character that is not in the alphabet. -/
theorem find?_not_isAlphabetic_eq_some_iff {cs : List Char} {c : Char} :
    (cs.find? fun c => !isAlphabetic c) = some c ↔ readSymbols cs = .error c := by
  rw [readSymbols_eq_error_iff, List.find?_eq_some_iff_append]
  simp only [Bool.not_not, Bool.not_eq_true', ← Bool.not_eq_true, isAlphabetic_iff]
  constructor
  · rintro ⟨hc, before, after, hsplit, hbefore⟩
    exact ⟨before, after, hsplit, hc, hbefore⟩
  · rintro ⟨before, after, hsplit, hc, hbefore⟩
    exact ⟨hc, before, after, hsplit, hbefore⟩

/-- **Copying never breaks off.** Reading the bytes of a text always has an answer, and it is the
one that reading the symbols has. -/
theorem readBytes?_eq (text : String) : readBytes? text = some ((ofString text).map bytes) := by
  rw [readBytes?, equationLength]
  cases hread : ofString text with
  | ok e =>
    obtain rfl := ofString_eq_ok_iff.mp hread
    have hsymbols : readSymbols e.text.toList = .ok e.symbols := by
      rw [readSymbols_eq_ok_iff, Equation.text, String.toList_ofList]
    have hnone : (e.text.toList.find? fun c => !isAlphabetic c) = none := by
      refine Option.eq_none_iff_forall_ne_some.mpr fun c hc => ?_
      rw [find?_not_isAlphabetic_eq_some_iff, hsymbols] at hc
      cases hc
    rw [if_pos (spells_text e).1, hnone, toList_toUTF8_text, copyBytes?, if_pos e.length_bytes]
    rfl
  | error fault =>
    have hmisspells := ofString_eq_error_iff.mp hread
    cases fault with
    | wrongLength n =>
      obtain ⟨rfl, hlength⟩ := hmisspells
      rw [if_neg hlength]
      rfl
    | illegalCharacter c =>
      obtain ⟨hlength, hsplit⟩ := hmisspells
      have hfound := find?_not_isAlphabetic_eq_some_iff.mpr (readSymbols_eq_error_iff.mpr hsplit)
      rw [if_pos hlength, hfound]
      rfl

/-! ### Frequencies -/

/-- A table of bytes belongs to an equation: it has one line for each byte of a symbol that the
equation contains, the line counts the places of that byte, and the lines count seven places. -/
structure Tallied (e : Equation) (table : Tally UInt8) : Prop where
  nodup : table.keys.Nodup
  contains_iff : ∀ b, (∃ n, table.copies? b = some n) ↔ ∃ s : Symbol, s.byte = b ∧ e.contains s
  frequency : ∀ b n, table.copies? b = some n →
    n = (List.range 7).countP fun i => e.bytes[i]? = some b
  count_eq : ∀ s : Symbol, (table.copies? s.byte).getD 0 = e.count s
  sum : (table.map Prod.snd).sum = 7

theorem contains_iff_mem {e : Equation} {s : Symbol} : e.contains s = true ↔ s ∈ e.symbols :=
  List.contains_iff_mem

theorem mem_bytes_iff {e : Equation} {b : UInt8} :
    b ∈ e.bytes ↔ ∃ s : Symbol, s.byte = b ∧ e.contains s = true := by
  simp only [bytes, List.mem_map, contains_iff_mem, and_comm]

theorem count_byte (e : Equation) (s : Symbol) : e.bytes.count s.byte = e.count s :=
  List.count_map_of_injective e.symbols Symbol.byte byte_injective s

/-- The copies of a byte are the places that hold it. -/
theorem count_eq_countP_places (e : Equation) (b : UInt8) :
    e.bytes.count b = (List.range 7).countP fun i => e.bytes[i]? = some b := by
  have hplaces : e.bytes.map some = (List.range 7).map (e.bytes[·]?) := by
    refine List.ext_getElem? fun i => ?_
    by_cases hi : i < 7
    · have hlt : i < e.bytes.length := by
        rw [length_bytes]
        exact hi
      simp [hi, List.getElem?_eq_getElem hlt]
    · have hle : e.bytes.length ≤ i := by
        rw [length_bytes]
        exact Nat.le_of_not_lt hi
      simp [hi, List.getElem?_eq_none hle]
  rw [← List.count_map_of_injective e.bytes some (Option.some_injective _), hplaces, List.count,
    List.countP_map]
  exact List.countP_congr fun i _ => by simp

/-- The table that counts the bytes of an equation one after another belongs to it. -/
theorem tallied_ofList_bytes (e : Equation) : e.Tallied (Tally.ofList e.bytes) where
  nodup := Tally.nodup_keys_ofList e.bytes
  contains_iff b := by
    rw [Tally.copies?_ofList, ← mem_bytes_iff]
    by_cases hb : b ∈ e.bytes <;> simp [hb]
  frequency b n h := by
    rw [Tally.copies?_ofList] at h
    split at h
    case isTrue => rw [← count_eq_countP_places, Option.some.inj h]
    case isFalse => cases h
  count_eq s := by rw [Tally.getD_copies?_ofList, count_byte]
  sum := (Tally.sum_ofList e.bytes).trans e.length_bytes

/-- **Reading and storing equations.** Every text is read, also by copying its bytes, and the texts
that give an equation are those of seven characters of the alphabet. The equation has that text, its
bytes are the characters, and its table of frequencies counts them. Every other text gives its
fault: a wrong length whatever the characters are, or else the leftmost character outside the
alphabet. Equations with the same text are the same. -/
theorem reads_seven_symbols :
    (∀ text, readBytes? text = some ((ofString text).map bytes)) ∧
    (∀ text, (∃ e, ofString text = .ok e) ↔ Spells text.toList) ∧
    (∀ text e, ofString text = .ok e ↔ e.text = text) ∧
    (∀ e : Equation, e.bytes.map UInt8.toNat = e.text.toList.map Char.toNat ∧
      e.Tallied (Tally.ofList e.bytes)) ∧
    (∀ text fault, ofString text = .error fault ↔ Misspells text.toList fault) ∧
    ∀ e other : Equation, e = other ↔ e.text = other.text := by
  refine ⟨readBytes?_eq, fun _ => exists_ofString_eq_ok_iff,
    fun _ _ => ofString_eq_ok_iff.trans eq_comm, fun e => ⟨?_, tallied_ofList_bytes e⟩,
    fun _ _ => ofString_eq_error_iff, fun _ _ => text_injective.eq_iff.symm⟩
  rw [bytes, text, String.toList_ofList, List.map_map, List.map_map]
  exact List.map_congr_left fun s _ => toNat_byte s

/-- A character beyond ASCII that would look like a digit if it were cut down to one byte. -/
example : isAlphabetic 'İ' = false ∧ 'İ'.toUInt8 = (Symbol.digit 0).byte := by decide

end Equation

end HiddenEquation
