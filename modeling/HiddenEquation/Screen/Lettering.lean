import HiddenEquation.Screen.Cell
import HiddenEquation.Text.Cluster
import HiddenEquation.Text.Width

/-!
# Texts in cells

A text is written into cells cluster by cluster. A cluster of one column takes one cell; a wider one
is written into its first cell, and the cells after it stay empty. A cluster without columns is
written into the cell before it, or into the first cell if there is none before it, where it can
make the text after it narrower. Where a cluster no longer fits, the text ends.

## Main definitions

* `Strip.fitting` : the clusters at the start of a text that fit into a width.
* `Strip.ofClusters` : the cells of clusters.
* `Strip.ofString` : as much of a text as fits into a width.

## Main results

* `Strip.length_ofString_le` : a text keeps within the width it was written for.
-/

namespace HiddenEquation.Strip

/-- The columns of clusters together. -/
def totalWidth : List String → Nat
  | [] => 0
  | cluster :: rest => Text.width cluster + totalWidth rest

/-- The clusters at the start of a list that fit into a width. -/
def fitting (room : Nat) : List String → List String
  | [] => []
  | cluster :: rest =>
    if Text.width cluster ≤ room then cluster :: fitting (room - Text.width cluster) rest else []

/-- The cells of a cluster with so many columns, the last of which also holds the marks after the
cluster. The style of the cells after the first one is given apart. -/
def ofCluster (style covered : Style) (cluster marks : String) : Nat → Strip
  | 0 => []
  | 1 => [{ text := cluster ++ marks, style }]
  | n + 2 =>
    { text := cluster, style, wide := true } ::
      (blank covered n ++ [{ text := " " ++ marks, style := covered }])

theorem length_ofCluster (style covered : Style) (cluster marks : String) (columns : Nat) :
    (ofCluster style covered cluster marks columns).length = columns := by
  unfold ofCluster
  split <;> simp [blank]

/-- The cells of clusters, and before them the clusters without columns that no cell precedes. -/
def ofClusters (style covered : Style) : List String → String × Strip
  | [] => ("", [])
  | cluster :: rest =>
    let (marks, cells) := ofClusters style covered rest
    if Text.width cluster = 0 then (cluster ++ marks, cells)
    else ("", ofCluster style covered cluster marks (Text.width cluster) ++ cells)

/-- As much of a text as fits into a width. A text that takes no column is not written. -/
def ofString (style covered : Style) (room : Nat) (text : String) : Strip :=
  if room = 0 ∨ Text.width text = 0 then []
  else
    match ofClusters style covered (fitting room (Text.clusters text)) with
    | (marks, cell :: rest) =>
      let written := marks ++ cell.text
      { cell with text := written, wide := 1 < Text.width written } :: rest
    | ("", []) => []
    | (marks, []) => [{ text := marks, style }]

/-- Clusters take as many cells as they have columns. -/
theorem length_ofClusters (style covered : Style) (clusters : List String) :
    (ofClusters style covered clusters).2.length = totalWidth clusters := by
  induction clusters with
  | nil => rfl
  | cons cluster rest ih =>
    rw [totalWidth, ← ih, ofClusters]
    by_cases h : Text.width cluster = 0 <;> simp [h, length_ofCluster]

/-- The clusters that fit into a width have no more columns than it. -/
theorem totalWidth_fitting_le (room : Nat) (clusters : List String) :
    totalWidth (fitting room clusters) ≤ room := by
  induction clusters generalizing room with
  | nil => exact Nat.zero_le room
  | cons cluster rest ih =>
    rw [fitting]
    split
    · have := ih (room - Text.width cluster)
      rw [totalWidth]
      omega
    · exact Nat.zero_le room

/-- A text keeps within the width it was written for. -/
theorem length_ofString_le (style covered : Style) (room : Nat) (text : String) :
    (ofString style covered room text).length ≤ room := by
  have total := length_ofClusters style covered (fitting room (Text.clusters text))
  have bound := totalWidth_fitting_le room (Text.clusters text)
  rw [ofString]
  split
  · exact Nat.zero_le room
  · split <;> simp_all
    omega

end HiddenEquation.Strip
