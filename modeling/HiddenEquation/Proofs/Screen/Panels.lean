import HiddenEquation.Screen.Frame

/-!
# Panels that lose nothing

Strips and panels are brought to a size by cutting off what is too long and filling up what is too
short, so in general a screen does not show all that was drawn on it. This file is about the case in
which there is room. Then a strip in the middle stands between two margins, a panel in a frame is
there as a whole, and a panel that was put beside another one and between others can be cut out
again.

What is drawn in blocks of one size can be taken apart again too.

## Main definitions

* `Strip.between` : a strip between two margins.
* `Panel.window` : a rectangle of a panel.

## Main results

* `eq_of_flatMap_eq` : blocks of one length can be told apart.
* `Strip.center_of_le`, `Panel.fit_of_le` : where there is room nothing is cut off.
* `length_framed`, `length_of_mem_framed` : a framed panel has the size that it was framed for.
* `Panel.window_beside` : a panel beside another one is found again.
-/

namespace HiddenEquation

/-- A row of blocks of one length determines the blocks, if it has the same number of them. -/
theorem eq_of_flatMap_eq {α β : Type} {f : α → List β} {n : Nat} {xs ys : List α}
    (hblock : ∀ x, (f x).length = n) (hinj : ∀ x ∈ xs, ∀ y ∈ ys, f x = f y → x = y)
    (hlength : xs.length = ys.length) (h : xs.flatMap f = ys.flatMap f) : xs = ys := by
  induction xs generalizing ys with
  | nil => exact (List.length_eq_zero_iff.mp hlength.symm).symm
  | cons x xs ih =>
    cases ys with
    | nil => cases hlength
    | cons y ys =>
      rw [List.flatMap_cons, List.flatMap_cons] at h
      obtain ⟨hhead, htail⟩ := List.append_inj h ((hblock x).trans (hblock y).symm)
      obtain rfl := hinj x List.mem_cons_self y List.mem_cons_self hhead
      have hrest : ∀ x ∈ xs, ∀ y ∈ ys, f x = f y → x = y := fun x hx y hy =>
        hinj x (List.mem_cons_of_mem _ hx) y (List.mem_cons_of_mem _ hy)
      rw [ih hrest (Nat.succ.inj hlength) htail]

/-! ### Strips -/

namespace Strip

variable {fill : Style} {width : Nat} {strip : Strip}

@[simp] theorem length_blank (fill : Style) (width : Nat) : (blank fill width).length = width :=
  List.length_replicate

/-- A strip for which there is room is not cut off. -/
theorem fit_of_le (h : strip.length ≤ width) :
    fit fill width strip = strip ++ blank fill (width - strip.length) := by
  rw [fit, List.take_of_length_le h]

/-- A strip between two margins. If they cannot have the same width, the right one is wider. -/
def between (fill : Style) (width : Nat) (strip : Strip) : Strip :=
  blank fill ((width - strip.length) / 2) ++ strip ++
    blank fill (width - strip.length - (width - strip.length) / 2)

theorem length_between (h : strip.length ≤ width) : (between fill width strip).length = width := by
  simp only [between, List.length_append, length_blank]
  omega

theorem between_nil : between fill width [] = blank fill width := by
  rw [between, List.append_nil, blank, blank, List.replicate_append_replicate, blank,
    List.length_nil]
  congr 1
  omega

/-- A strip for which there is room stands between two margins. -/
theorem center_of_le (h : strip.length ≤ width) :
    center fill width strip = between fill width strip := by
  have hroom : (blank fill ((width - strip.length) / 2) ++ strip).length ≤ width := by
    rw [List.length_append, length_blank]
    omega
  rw [center, fit_of_le hroom, between, List.length_append, length_blank]
  congr 2
  omega

/-- Strips of one width are told apart between their margins. -/
theorem eq_of_between_eq {other : Strip} (hlength : strip.length = other.length)
    (h : between fill width strip = between fill width other) : strip = other := by
  rw [between, between, hlength, List.append_assoc, List.append_assoc] at h
  exact List.append_cancel_right (List.append_cancel_left h)

end Strip

/-! ### Panels -/

namespace Panel

variable {fill : Style} {width height : Nat} {panel : Panel}

/-- A panel for which there is room is not cut off. -/
theorem fit_of_le (hwidth : ∀ strip ∈ panel, strip.length = width)
    (hheight : panel.length ≤ height) :
    fit fill width height panel =
      panel ++ List.replicate (height - panel.length) (Strip.blank fill width) := by
  have hfit : ∀ strip ∈ panel, Strip.fit fill width strip = strip := by
    intro strip hstrip
    rw [Strip.fit_of_le (Nat.le_of_eq (hwidth strip hstrip)), hwidth strip hstrip, Nat.sub_self]
    exact List.append_nil strip
  rw [fit, List.take_of_length_le hheight, List.map_congr_left hfit, List.map_id']

theorem length_of_mem_fit {strip : Strip} (h : strip ∈ fit fill width height panel) :
    strip.length = width := by
  rw [fit, List.mem_append, List.mem_map] at h
  rcases h with ⟨row, -, rfl⟩ | h
  · exact Strip.length_fit fill width row
  · rw [List.eq_of_mem_replicate h, Strip.length_blank]

/-- The rectangle of a panel that has its upper left corner in this column and row. -/
def window (panel : Panel) (left top width height : Nat) : Panel :=
  ((panel.drop top).take height).map fun strip => (strip.drop left).take width

/-- A panel that was put beside another one, and both between others, is found again. -/
theorem window_beside (above below : Panel) {left right : Panel}
    (hwidth : ∀ strip ∈ left, strip.length = width) (hheight : left.length = right.length) :
    (above ++ beside left right ++ below).window 0 above.length width left.length = left := by
  have hlength : (beside left right).length = left.length := by
    rw [beside, List.length_zipWith, ← hheight, Nat.min_self]
  rw [window, List.append_assoc, List.drop_left, ← hlength, List.take_left]
  refine List.ext_getElem (by rw [List.length_map, hlength]) fun k hk hk' => ?_
  rw [List.getElem_map, List.drop_zero]
  simp only [beside, List.getElem_zipWith]
  exact List.take_left' (hwidth _ (List.getElem_mem hk'))

end Panel

/-! ### Frames -/

section Frame

variable {b : Border} {style : Style} {title : String} {width height : Nat} {content : Panel}

theorem Border.length_top : (b.top style title width).length = width + 2 := by
  have htitle := Strip.length_ofString_le style style width title
  simp only [Border.top, List.length_cons, List.length_append, List.length_replicate,
    List.length_nil]
  omega

theorem Border.length_bottom : (b.bottom style width).length = width + 2 := by
  simp [Border.bottom]

/-- A framed panel has the height that it was framed for. -/
theorem length_framed (hheight : 2 ≤ height) :
    (framed b style title width height content).length = height := by
  simp only [framed, List.length_cons, List.length_append, List.length_map, Panel.length_fit,
    List.length_nil]
  omega

/-- Every row of a framed panel has the width that it was framed for. -/
theorem length_of_mem_framed (hwidth : 2 ≤ width) {strip : Strip}
    (h : strip ∈ framed b style title width height content) : strip.length = width := by
  rw [framed, List.mem_cons, List.mem_append, List.mem_map, List.mem_singleton] at h
  rcases h with rfl | ⟨row, hrow, rfl⟩ | rfl
  · rw [Border.length_top, Nat.sub_add_cancel hwidth]
  · rw [List.length_cons, List.length_append, Panel.length_of_mem_fit hrow, List.length_singleton]
    exact Nat.sub_add_cancel hwidth
  · rw [Border.length_bottom, Nat.sub_add_cancel hwidth]

end Frame

end HiddenEquation
