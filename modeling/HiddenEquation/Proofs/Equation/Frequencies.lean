import Mathlib.Algebra.BigOperators.Group.List.Basic
import Mathlib.Algebra.Order.Ring.Nat
import Mathlib.Data.List.Induction
import Mathlib.Data.List.Nodup

/-!
# Tables of frequencies

A table of frequencies is made by going through a list once. An element that is met for the first
time enters the table with one copy, and one that is met again gets one copy more. Such a table has
one line for each element of the list, the line tells the number of its places in the list, and all
lines together tell the length of the list.

## Main definitions

* `Tally` : a table of elements with their copies.
* `Tally.copies?` : the copies of an element, if the table has it.
* `Tally.add`, `Tally.ofList` : one more copy of an element, and the table of a list.
* `Tally.take?` : one copy less of an element, where a missing copy is a failure.

## Main results

* `Tally.copies?_ofList` : the table of a list has the elements of the list and counts them.
* `Tally.sum_ofList` : the copies in the table of a list are as many as its places.
* `Tally.exists_take?_iff` : a copy can be taken exactly if there is one.
-/

namespace HiddenEquation

/-- A table of elements, each with the number of its copies. -/
abbrev Tally (α : Type) := List (α × Nat)

namespace Tally

variable {α : Type} [DecidableEq α]

/-- The number of copies of an element, if the table has it. -/
def copies? (t : Tally α) (a : α) : Option Nat := t.lookup a

/-- The elements that a table has. -/
def keys (t : Tally α) : List α := t.map Prod.fst

/-- One more copy of an element. An element that the table does not have yet gets a new line. -/
def add (a : α) : Tally α → Tally α
  | [] => [(a, 1)]
  | (b, n) :: rest => if a = b then (b, n + 1) :: rest else (b, n) :: add a rest

/-- The table of a list: its elements are added one after another. -/
def ofList (l : List α) : Tally α := l.foldl (fun t a => t.add a) []

/-- One copy less of an element. There is no such table if the element is missing, or if no copy of
it is left. -/
def take? (a : α) : Tally α → Option (Tally α)
  | [] => none
  | (b, n) :: rest =>
    if a = b then if n = 0 then none else some ((b, n - 1) :: rest)
    else (take? a rest).map ((b, n) :: ·)

theorem copies?_cons (a b : α) (n : Nat) (t : Tally α) :
    copies? ((b, n) :: t) a = if a = b then some n else copies? t a := by
  rw [copies?, List.lookup_cons]
  by_cases h : a = b
  · rw [if_pos h, beq_iff_eq.mpr h]
  · rw [if_neg h, beq_eq_false_iff_ne.mpr h]
    rfl

/-! ### Adding copies -/

theorem copies?_add (t : Tally α) (a c : α) :
    (t.add a).copies? c = if c = a then some ((t.copies? a).getD 0 + 1) else t.copies? c := by
  induction t with
  | nil => exact copies?_cons c a 1 []
  | cons line rest ih =>
    obtain ⟨b, n⟩ := line
    by_cases hab : a = b
    · subst hab
      by_cases hca : c = a <;> simp [add, copies?_cons, hca]
    · rw [add, if_neg hab, copies?_cons, ih, copies?_cons, copies?_cons, if_neg hab]
      by_cases hca : c = a
      · subst hca
        rw [if_neg hab, if_pos rfl, if_pos rfl]
      · rw [if_neg hca, if_neg hca]

/-- Adding a copy makes a new line exactly if the table does not have the element. -/
theorem keys_add (t : Tally α) (a : α) :
    (t.add a).keys = if a ∈ t.keys then t.keys else t.keys ++ [a] := by
  induction t with
  | nil => rfl
  | cons line rest ih =>
    obtain ⟨b, n⟩ := line
    by_cases hab : a = b
    · simp [add, keys, hab]
    · have hcons : (add a ((b, n) :: rest)).keys = b :: (add a rest).keys := by
        rw [add, if_neg hab]
        rfl
      have hkeys : keys ((b, n) :: rest) = b :: keys rest := rfl
      rw [hcons, ih, hkeys]
      by_cases hmem : a ∈ keys rest <;> simp [hab, hmem]

theorem nodup_keys_add {t : Tally α} (h : t.keys.Nodup) (a : α) : (t.add a).keys.Nodup := by
  rw [keys_add]
  split
  case isTrue => exact h
  case isFalse hmem => exact List.concat_eq_append ▸ h.concat hmem

theorem sum_add (t : Tally α) (a : α) :
    ((t.add a).map Prod.snd).sum = (t.map Prod.snd).sum + 1 := by
  induction t with
  | nil => rfl
  | cons line rest ih =>
    obtain ⟨b, n⟩ := line
    rw [add]
    split
    · simp only [List.map_cons, List.sum_cons]
      omega
    · simp only [List.map_cons, List.sum_cons, ih]
      omega

/-! ### The table of a list -/

theorem ofList_concat (l : List α) (a : α) : ofList (l ++ [a]) = (ofList l).add a := by
  rw [ofList, List.foldl_append]
  rfl

theorem getD_count (l : List α) (a : α) :
    (if a ∈ l then some (l.count a) else none).getD 0 = l.count a := by
  split
  case isTrue => rfl
  case isFalse hmem => exact (List.count_eq_zero.mpr hmem).symm

/-- The table of a list has the elements of the list, each with the number of its places. -/
theorem copies?_ofList (l : List α) (a : α) :
    (ofList l).copies? a = if a ∈ l then some (l.count a) else none := by
  induction l using List.reverseRecOn with
  | nil => rfl
  | append_singleton l b ih =>
    rw [ofList_concat, copies?_add]
    by_cases hab : a = b
    · subst hab
      rw [ih, getD_count]
      simp
    · rw [if_neg hab, ih]
      simp [hab, Ne.symm hab]

/-- An element without a line has no copies, and no places in the list. -/
theorem getD_copies?_ofList (l : List α) (a : α) : ((ofList l).copies? a).getD 0 = l.count a := by
  rw [copies?_ofList, getD_count]

theorem nodup_keys_ofList (l : List α) : (ofList l).keys.Nodup := by
  induction l using List.reverseRecOn with
  | nil => exact List.nodup_nil
  | append_singleton l a ih =>
    rw [ofList_concat]
    exact nodup_keys_add ih a

/-- The lines of the table of a list add up to the length of the list. -/
theorem sum_ofList (l : List α) : ((ofList l).map Prod.snd).sum = l.length := by
  induction l using List.reverseRecOn with
  | nil => rfl
  | append_singleton l a ih =>
    rw [ofList_concat, sum_add, ih, List.length_append]
    rfl

/-! ### Taking copies -/

theorem take?_cons_of_ne {a b : α} (h : a ≠ b) (n : Nat) (t : Tally α) :
    take? a ((b, n) :: t) = (take? a t).map ((b, n) :: ·) := by
  rw [take?, if_neg h]

/-- A copy of an element can be taken exactly if the table has one. -/
theorem exists_take?_iff {t : Tally α} {a : α} :
    (∃ left, t.take? a = some left) ↔ ∃ n, t.copies? a = some (n + 1) := by
  induction t with
  | nil => simp [take?, copies?]
  | cons line rest ih =>
    obtain ⟨b, n⟩ := line
    by_cases hab : a = b
    · subst hab
      cases n <;> simp [take?, copies?_cons]
    · simp only [take?_cons_of_ne hab, copies?_cons, if_neg hab, ← ih, Option.map_eq_some_iff]
      constructor
      · rintro ⟨-, left, hleft, -⟩
        exact ⟨left, hleft⟩
      · rintro ⟨left, hleft⟩
        exact ⟨_, left, hleft, rfl⟩

/-- Taking a copy of an element leaves one copy less of it, and all copies of the others. -/
theorem copies?_of_take? {t left : Tally α} {a : α} (h : t.take? a = some left) (c : α) :
    left.copies? c = if c = a then (t.copies? a).map (· - 1) else t.copies? c := by
  induction t generalizing left with
  | nil => cases h
  | cons line rest ih =>
    obtain ⟨b, n⟩ := line
    by_cases hab : a = b
    · subst hab
      cases n with
      | zero => simp [take?] at h
      | succ n =>
        obtain rfl : (a, n) :: rest = left := by simpa [take?] using h
        by_cases hca : c = a <;> simp [copies?_cons, hca]
    · rw [take?_cons_of_ne hab, Option.map_eq_some_iff] at h
      obtain ⟨left, hleft, rfl⟩ := h
      rw [copies?_cons, ih hleft, copies?_cons, copies?_cons, if_neg hab]
      by_cases hca : c = a
      · subst hca
        rw [if_neg hab, if_pos rfl, if_pos rfl]
      · rw [if_neg hca, if_neg hca]

end Tally

end HiddenEquation
