import HiddenEquation.Proofs.Text.Lines
import Mathlib.Tactic.SplitIfs

/-!
# Texts as bytes

A text is written in bytes by encoding its characters in UTF-8. The byte of a line feed occurs in
the encoding of the line feed and in no other. So cutting the bytes of a text after each such byte
is the same as cutting the text after each line feed, and each piece of the bytes is a text again.

## Main definitions

* `attach` : elements put in front of the first of some pieces.

## Main results

* `fromUTF8?_eq_some_iff` : the bytes that are a text, and which one.
* `lineFeed_mem_utf8EncodeChar_iff` : the byte of a line feed stands for nothing else.
* `splitAfter_toUTF8` : the lines of the bytes are the bytes of the lines.
-/

namespace HiddenEquation.Text

variable {α : Type}

/-! ### Encoding -/

/-- Bytes are read as a text exactly if they are its encoding. -/
theorem fromUTF8?_eq_some_iff {bytes : ByteArray} {text : String} :
    String.fromUTF8? bytes = some text ↔ text.toUTF8 = bytes := by
  rw [String.fromUTF8?, String.toUTF8_eq_toByteArray]
  split
  case isTrue hvalid =>
    rw [Option.some.injEq, ← String.toByteArray_inj]
    exact eq_comm
  case isFalse hinvalid =>
    refine iff_of_false (by simp) ?_
    rintro rfl
    exact hinvalid text.isValidUTF8

theorem byteArray_toList_loop (bytes : ByteArray) (i : Nat) (read : List UInt8) :
    ByteArray.toList.loop bytes i read = read.reverse ++ bytes.data.toList.drop i := by
  fun_induction ByteArray.toList.loop bytes i read with
  | case1 i read h ih =>
    have hi : i < bytes.data.toList.length := h
    have hget : bytes.get! i = bytes.data.toList[i] := getElem!_pos bytes.data i h
    rw [ih, List.drop_eq_getElem_cons hi, hget]
    simp
  | case2 i read h =>
    have hi : bytes.data.toList.length ≤ i := Nat.le_of_not_lt h
    rw [List.drop_eq_nil_of_le hi, List.append_nil]

theorem toList_toUTF8 (text : String) :
    text.toUTF8.toList = text.toList.flatMap String.utf8EncodeChar := by
  rw [ByteArray.toList, byteArray_toList_loop, String.toUTF8_eq_toByteArray,
    ← String.utf8Encode_toList, List.utf8Encode, List.data_toByteArray]
  rfl

/-- The encoding of some characters, as bytes, is read as their text. -/
theorem fromUTF8?_flatMap (cs : List Char) :
    String.fromUTF8? ⟨(cs.flatMap String.utf8EncodeChar).toArray⟩ = some (String.ofList cs) := by
  rw [fromUTF8?_eq_some_iff, String.toUTF8_eq_toByteArray, String.toByteArray_ofList,
    List.utf8Encode]
  exact ByteArray.ext List.data_toByteArray

/-- The byte of a line feed stands for a line feed and for nothing else: the bytes of characters
beyond ASCII are all greater. -/
theorem lineFeed_mem_utf8EncodeChar_iff {c : Char} : 10 ∈ String.utf8EncodeChar c ↔ c = '\n' := by
  have hc : c = '\n' ↔ c.val.toNat = 10 := by
    rw [← Char.toNat_inj]
    rfl
  have hbyte (n : Nat) : (10 : UInt8) = UInt8.ofNat n ↔ n % 256 = 10 := by
    rw [← UInt8.toNat_inj, UInt8.toNat_ofNat', eq_comm]
    rfl
  rw [hc, String.utf8EncodeChar]
  split_ifs <;> simp only [List.mem_cons, List.not_mem_nil, or_false, hbyte] <;> omega

/-! ### Lines of bytes -/

/-- Elements put in front of the first piece, or a piece of their own if there is none. -/
def attach (front : List α) : List (List α) → List (List α)
  | [] => [front]
  | piece :: rest => (front ++ piece) :: rest

theorem attach_attach (front next : List α) (rest : List (List α)) :
    attach front (attach next rest) = attach (front ++ next) rest := by
  cases rest <;> simp [attach]

theorem map_flatMap_attach {β : Type} (f : α → List β) (front : List α) (rest : List (List α)) :
    (attach front rest).map (·.flatMap f) =
      attach (front.flatMap f) (rest.map (·.flatMap f)) := by
  cases rest <;> simp [attach]

theorem splitAfter_cons_of_ends {ends : α → Bool} {x : α} (hx : ends x = true) (rest : List α) :
    splitAfter ends (x :: rest) = [x] :: splitAfter ends rest := if_pos hx

theorem splitAfter_cons_of_not_ends {ends : α → Bool} {x : α} (hx : ends x = false)
    (rest : List α) : splitAfter ends (x :: rest) = attach [x] (splitAfter ends rest) := by
  rw [splitAfter, if_neg (Bool.eq_false_iff.mp hx)]
  cases splitAfter ends rest <;> rfl

/-- Elements that end no piece go to the piece behind them. -/
theorem splitAfter_append {ends : α → Bool} {front : List α} (hne : front ≠ [])
    (hfront : ∀ x ∈ front, ends x = false) (rest : List α) :
    splitAfter ends (front ++ rest) = attach front (splitAfter ends rest) := by
  induction front with
  | nil => exact absurd rfl hne
  | cons x front ih =>
    obtain ⟨hx, hfront⟩ := List.forall_mem_cons.mp hfront
    rw [List.cons_append, splitAfter_cons_of_not_ends hx]
    by_cases hnil : front = []
    · rw [hnil, List.nil_append]
    · rw [ih hnil hfront, attach_attach, List.singleton_append]

theorem splitAfter_flatMap_utf8EncodeChar (cs : List Char) :
    splitAfter (· == 10) (cs.flatMap String.utf8EncodeChar) =
      (splitAfter (· == '\n') cs).map (·.flatMap String.utf8EncodeChar) := by
  induction cs with
  | nil => rfl
  | cons c rest ih =>
    rw [List.flatMap_cons]
    by_cases hc : c = '\n'
    · subst hc
      have hfeed : splitAfter (· == '\n') ('\n' :: rest) = ['\n'] :: splitAfter (· == '\n') rest :=
        splitAfter_cons_of_ends (by simp) rest
      rw [hfeed, List.map_cons, ← ih]
      exact splitAfter_cons_of_ends (by simp) _
    · have hbytes : ∀ byte ∈ String.utf8EncodeChar c, (byte == 10) = false := by
        intro byte hbyte
        rw [beq_eq_false_iff_ne]
        rintro rfl
        exact hc (lineFeed_mem_utf8EncodeChar_iff.mp hbyte)
      rw [splitAfter_append String.utf8EncodeChar_ne_nil hbytes,
        splitAfter_cons_of_not_ends (by simpa using hc), map_flatMap_attach, ih]
      simp

/-- Cutting the bytes of a text after each line feed gives the bytes of its pieces. -/
theorem splitAfter_toUTF8 (text : String) :
    splitAfter (· == 10) text.toUTF8.toList =
      (splitAfter (· == '\n') text.toList).map (·.flatMap String.utf8EncodeChar) := by
  rw [toList_toUTF8, splitAfter_flatMap_utf8EncodeChar]

end HiddenEquation.Text
