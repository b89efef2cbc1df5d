import HiddenEquation.Equation

/-!
# Feedback on a guess

Each symbol of a guess receives one of three colours: green if the target has the same symbol in
the same place, orange if the target has another copy of it elsewhere, grey otherwise. A copy in the
target answers for at most one symbol of the guess, green before orange and left before right.

## Main definitions

* `Color` : the three colours, ordered grey, orange, green.
* `Row` : one colour for each place of an equation.
* `Pool` : the copies of each symbol in the target that no place of the guess has used yet.
* `markExact`, `markMisplaced` : the two passes over the guess.
* `Row.ofPasses` : the row that the two passes give.
* `feedback` : the row for a guess and a target.
-/

namespace HiddenEquation

/-- What a guessed symbol has earned. -/
inductive Color where
  | grey
  | orange
  | green
  deriving DecidableEq, Repr

namespace Color

/-- The place of a colour in the order grey, orange, green. -/
def rank : Color → Nat
  | grey => 0
  | orange => 1
  | green => 2

instance : LT Color := ⟨fun a b => a.rank < b.rank⟩

instance : LE Color := ⟨fun a b => a.rank ≤ b.rank⟩

instance (a b : Color) : Decidable (a < b) := inferInstanceAs (Decidable (a.rank < b.rank))

instance (a b : Color) : Decidable (a ≤ b) := inferInstanceAs (Decidable (a.rank ≤ b.rank))

instance : Ord Color := ⟨fun a b => compare a.rank b.rank⟩

instance : Max Color := ⟨fun a b => if a ≤ b then b else a⟩

end Color

/-- One colour for each of the seven places. -/
structure Row where
  colors : List Color
  length_colors : colors.length = equationLength
  deriving DecidableEq, Repr

namespace Row

/-- Green in every place. -/
def perfect : Row := ⟨List.replicate equationLength .green, List.length_replicate⟩

/-- Whether every place is green. -/
def isPerfect (row : Row) : Bool := row == perfect

/-- The number of places that have a colour. -/
def count (row : Row) (c : Color) : Nat := row.colors.count c

/-- A row has one colour for each symbol of an equation. -/
theorem map_fst_zip_colors (row : Row) (e : Equation) :
    (e.symbols.zip row.colors).map Prod.fst = e.symbols :=
  List.map_fst_zip (by simp [e.length_symbols, row.length_colors])

theorem map_snd_zip_colors (row : Row) (e : Equation) :
    (e.symbols.zip row.colors).map Prod.snd = row.colors :=
  List.map_snd_zip (by simp [e.length_symbols, row.length_colors])

end Row

/-- The copies of each symbol that are still free. -/
abbrev Pool := Symbol → Nat

namespace Pool

/-- Every copy in an equation is free. -/
def ofEquation (e : Equation) : Pool := e.count

/-- Use one copy of a symbol. A pool without a free copy stays as it is. -/
def take (pool : Pool) (s : Symbol) : Pool :=
  fun other => if other = s then pool other - 1 else pool other

end Pool

/-- The first pass: places where guess and target agree are green, and each uses a copy. -/
def markExact (pool : Pool) : List Symbol → List Symbol → List (Option Color) × Pool
  | g :: guess, t :: target =>
    if g = t then
      let (marks, rest) := markExact (pool.take g) guess target
      (some .green :: marks, rest)
    else
      let (marks, rest) := markExact pool guess target
      (none :: marks, rest)
  | _, _ => ([], pool)

/-- The second pass: a place without a colour is orange while a copy of its symbol is free, and
uses that copy; otherwise it is grey. -/
def markMisplaced (pool : Pool) : List Symbol → List (Option Color) → List (Option Color) × Pool
  | g :: guess, mark :: marks =>
    match mark with
    | some c =>
      let (colors, rest) := markMisplaced pool guess marks
      (some c :: colors, rest)
    | none =>
      if 0 < pool g then
        let (colors, rest) := markMisplaced (pool.take g) guess marks
        (some .orange :: colors, rest)
      else
        let (colors, rest) := markMisplaced pool guess marks
        (some .grey :: colors, rest)
  | _, _ => ([], pool)

theorem length_markExact (pool : Pool) (guess target : List Symbol) :
    (markExact pool guess target).1.length = min guess.length target.length := by
  induction guess generalizing pool target with
  | nil => simp [markExact]
  | cons g guess ih =>
    cases target with
    | nil => simp [markExact]
    | cons t target =>
      rw [markExact]
      split <;> simp [ih, Nat.add_min_add_right]

theorem length_markMisplaced (pool : Pool) (guess : List Symbol) (marks : List (Option Color)) :
    (markMisplaced pool guess marks).1.length = min guess.length marks.length := by
  induction guess generalizing pool marks with
  | nil => simp [markMisplaced]
  | cons g guess ih =>
    cases marks with
    | nil => simp [markMisplaced]
    | cons mark marks =>
      cases mark with
      | some c => simp [markMisplaced, ih, Nat.add_min_add_right]
      | none =>
        rw [markMisplaced]
        split <;> simp [ih, Nat.add_min_add_right]

/-- The row of the two passes. A place that neither pass coloured would be grey. -/
def Row.ofPasses (guess target : Equation) : Row :=
  let exact := markExact (Pool.ofEquation target) guess.symbols target.symbols
  let marks := markMisplaced exact.2 guess.symbols exact.1
  { colors := marks.1.map fun mark => mark.getD .grey
    length_colors := by
      simp [marks, exact, length_markMisplaced, length_markExact, guess.length_symbols,
        target.length_symbols] }

/-- The feedback on a guess. The target itself earns a perfect row at once. -/
def feedback (guess target : Equation) : Row :=
  if guess = target then Row.perfect else Row.ofPasses guess target

end HiddenEquation
