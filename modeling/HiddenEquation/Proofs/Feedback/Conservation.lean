import HiddenEquation.Proofs.Equation.Frequencies
import HiddenEquation.Proofs.Feedback.Laws

/-!
# The copies that feedback uses

The two passes use up copies of the target. Each green place and each orange place costs one copy of
its symbol, and the rest stays free. The passes would hide it if this account went wrong: a pool
without a free copy stays as it is when one is used, and a place that neither pass coloured would
be grey. This file shows that nothing is hidden. After every place of either pass, the free copies
of a symbol and the places that it has earned make up all its copies in the target. So two passes
that break off where a copy is missing never do, and no place is left without a colour.

The first pass needs an invariant for this: the pool covers the places ahead, that is, it has a copy
for each place ahead in which guess and target agree. The second pass needs none, since it looks
before it uses a copy.

## Main definitions

* `Pool.Covers` : the pool has a copy for each agreeing place.
* `Tally.Holds` : a table of frequencies holds the copies of a pool.
* `markExact?`, `markMisplaced?` : the two passes on a table, which break off where a copy is
  missing.
* `freeAfterExact`, `freeAfterMisplaced` : the free copies in the course of the two passes.

## Main results

* `markExact_conserves`, `markMisplaced_conserves` : what a pass uses and what it leaves free.
* `exists_markExact?`, `exists_markMisplaced?` : the passes on a table do not break off.
* `feedback_conserves_copies` : the account of both passes, after every place.
-/

namespace HiddenEquation

variable {pool : Pool} {table : Tally Symbol} {guess target : List Symbol}
  {marks : List (Option Color)} {g t : Symbol}

/-! ### Pools -/

namespace Pool

/-- Using a free copy of a symbol leaves one copy less of it, and all copies of the others. -/
theorem take_add (hfree : 0 < pool g) (s : Symbol) :
    pool.take g s + (if g = s then 1 else 0) = pool s := by
  by_cases hs : g = s
  · subst hs
    simp only [take, if_true]
    omega
  · simp [take, hs, Ne.symm hs]

/-- A pool has a copy for each place in which guess and target agree. -/
def Covers (pool : Pool) (guess target : List Symbol) : Prop :=
  ∀ s, (guess.zip target).count (s, s) ≤ pool s

/-- An agreeing place finds a free copy, and when it has used that copy, the places behind it are
still covered. -/
theorem Covers.of_agree (h : pool.Covers (g :: guess) (g :: target)) :
    0 < pool g ∧ (pool.take g).Covers guess target := by
  have hcount (s : Symbol) :
      (guess.zip target).count (s, s) + (if g = s then 1 else 0) ≤ pool s := by
    simpa [List.count_cons] using h s
  have hfree : 0 < pool g := by
    have := hcount g
    rw [if_pos rfl] at this
    omega
  refine ⟨hfree, fun s => ?_⟩
  have := hcount s
  have := take_add hfree s
  omega

theorem Covers.of_disagree (hgt : g ≠ t) (h : pool.Covers (g :: guess) (t :: target)) :
    pool.Covers guess target := by
  intro s
  have hne : (g, t) ≠ (s, s) := fun heq => hgt (by simp_all)
  simpa [List.count_cons_of_ne hne] using h s

theorem Covers.take (h : pool.Covers guess target) (k : Nat) :
    pool.Covers (guess.take k) (target.take k) := by
  intro s
  rw [List.zip, ← List.take_zipWith]
  exact Nat.le_trans ((List.take_sublist k _).count_le _) (h s)

/-- The copies of the target cover every guess. -/
theorem covers_ofEquation (guess target : Equation) :
    (ofEquation target).Covers guess.symbols target.symbols := by
  intro s
  have hsnd : (guess.symbols.zip target.symbols).map Prod.snd = target.symbols :=
    List.map_snd_zip (by simp [guess.length_symbols, target.length_symbols])
  calc (guess.symbols.zip target.symbols).count (s, s)
      ≤ ((guess.symbols.zip target.symbols).map Prod.snd).count s :=
        List.count_le_count_map (f := Prod.snd) (x := (s, s))
    _ = ofEquation target s := congrArg (List.count s) hsnd

end Pool

/-! ### What is used and what stays free -/

/-- The first pass uses one copy for each green place. -/
theorem markExact_conserves (h : pool.Covers guess target) (s : Symbol) :
    (markExact pool guess target).2 s +
      (guess.zip (markExact pool guess target).1).count (s, some .green) = pool s := by
  induction guess generalizing pool target with
  | nil => rfl
  | cons g guess ih =>
    cases target with
    | nil => rfl
    | cons t target =>
      rw [markExact]
      by_cases hgt : g = t
      · subst hgt
        obtain ⟨hfree, hrest⟩ := h.of_agree
        rw [if_pos rfl, ← Pool.take_add hfree s, ← ih hrest]
        simp [List.count_cons, Nat.add_assoc]
      · rw [if_neg hgt, ← ih (h.of_disagree hgt)]
        simp

/-- The first pass marks no place orange. -/
theorem orange_notMem_markExact : some .orange ∉ (markExact pool guess target).1 := by
  induction guess generalizing pool target with
  | nil => simp [markExact]
  | cons g guess ih =>
    cases target with
    | nil => simp [markExact]
    | cons t target =>
      rw [markExact]
      split <;> simp [ih]

/-- The second pass uses one copy for each place that it makes orange. -/
theorem markMisplaced_conserves (pool : Pool) (h : some .orange ∉ marks) (s : Symbol) :
    (markMisplaced pool guess marks).2 s +
      (guess.zip (markMisplaced pool guess marks).1).count (s, some .orange) = pool s := by
  induction guess generalizing pool marks with
  | nil => rfl
  | cons g guess ih =>
    cases marks with
    | nil => rfl
    | cons mark marks =>
      obtain ⟨hmark, hmarks⟩ := not_or.mp (mt List.mem_cons.mpr h)
      cases mark with
      | some c =>
        have hc : c ≠ .orange := fun hc => hmark (congrArg some hc.symm)
        rw [markMisplaced, ← ih pool hmarks]
        simp [hc]
      | none =>
        rw [markMisplaced]
        by_cases hfree : 0 < pool g
        · rw [if_pos hfree, ← Pool.take_add hfree s, ← ih (pool.take g) hmarks]
          simp [List.count_cons, Nat.add_assoc]
        · rw [if_neg hfree, ← ih pool hmarks]
          simp

/-- The second pass makes no place green. -/
theorem count_green_markMisplaced (s : Symbol) :
    (guess.zip (markMisplaced pool guess marks).1).count (s, some .green) =
      (guess.zip marks).count (s, some .green) := by
  induction guess generalizing pool marks with
  | nil => rfl
  | cons g guess ih =>
    cases marks with
    | nil => rfl
    | cons mark marks =>
      cases mark with
      | some c => simp [markMisplaced, List.count_cons, ih]
      | none =>
        rw [markMisplaced]
        split <;> simp [ih]

/-- The second pass leaves no place without a colour. -/
theorem none_notMem_markMisplaced : none ∉ (markMisplaced pool guess marks).1 := by
  induction guess generalizing pool marks with
  | nil => simp [markMisplaced]
  | cons g guess ih =>
    cases marks with
    | nil => simp [markMisplaced]
    | cons mark marks =>
      cases mark with
      | some c => simp [markMisplaced, ih]
      | none =>
        rw [markMisplaced]
        split <;> simp [ih]

/-! ### The course of a pass -/

theorem markExact_take (k : Nat) : (markExact pool (guess.take k) (target.take k)).1 =
    (markExact pool guess target).1.take k := by
  rw [markExact_eq, markExact_eq, List.take_zipWith]

theorem markMisplaced_take (k : Nat) : (markMisplaced pool (guess.take k) (marks.take k)).1 =
    (markMisplaced pool guess marks).1.take k := by
  induction guess generalizing pool marks k with
  | nil => simp [markMisplaced]
  | cons g guess ih =>
    cases k with
    | zero => simp [markMisplaced]
    | succ k =>
      cases marks with
      | nil => simp [markMisplaced]
      | cons mark marks =>
        cases mark with
        | some c => simp [markMisplaced, ih]
        | none =>
          rw [List.take_succ_cons, List.take_succ_cons, markMisplaced, markMisplaced]
          split <;> simp [ih]

/-! ### Passes that break off -/

namespace Tally

/-- A table holds the copies of a pool. A symbol that the table does not have has no copies. -/
def Holds (table : Tally Symbol) (pool : Pool) : Prop := ∀ s, (table.copies? s).getD 0 = pool s

theorem holds_ofList (e : Equation) : (ofList e.symbols).Holds (Pool.ofEquation e) :=
  getD_copies?_ofList e.symbols

/-- A free copy can be taken from the table. -/
theorem Holds.exists_take? (h : table.Holds pool) (hfree : 0 < pool g) :
    ∃ left, table.take? g = some left ∧ left.Holds (pool.take g) := by
  have hg := h g
  obtain ⟨n, hn⟩ : ∃ n, table.copies? g = some (n + 1) := by
    cases hcopies : table.copies? g with
    | none =>
      rw [hcopies] at hg
      exact absurd hg.symm (Nat.ne_of_gt hfree)
    | some n =>
      rw [hcopies] at hg
      exact ⟨n - 1, congrArg some (by simp only [Option.getD_some] at hg; omega)⟩
  obtain ⟨left, hleft⟩ := exists_take?_iff.mpr ⟨n, hn⟩
  refine ⟨left, hleft, fun s => ?_⟩
  rw [copies?_of_take? hleft, Pool.take]
  by_cases hs : s = g
  · subst hs
    rw [if_pos rfl, if_pos rfl, ← hg, hn]
    rfl
  · rw [if_neg hs, if_neg hs, h s]

end Tally

/-- The first pass on a table. It breaks off if an agreeing place finds no copy of its symbol. -/
def markExact? (table : Tally Symbol) :
    List Symbol → List Symbol → Option (List (Option Color) × Tally Symbol)
  | g :: guess, t :: target =>
    if g = t then do
      let left ← table.take? g
      let (marks, rest) ← markExact? left guess target
      return (some .green :: marks, rest)
    else do
      let (marks, rest) ← markExact? table guess target
      return (none :: marks, rest)
  | _, _ => some ([], table)

/-- The second pass on a table. It breaks off if it finds no copy where it has just seen one. -/
def markMisplaced? (table : Tally Symbol) :
    List Symbol → List (Option Color) → Option (List (Option Color) × Tally Symbol)
  | g :: guess, mark :: marks =>
    match mark with
    | some c => do
      let (colors, rest) ← markMisplaced? table guess marks
      return (some c :: colors, rest)
    | none =>
      if 0 < (table.copies? g).getD 0 then do
        let left ← table.take? g
        let (colors, rest) ← markMisplaced? left guess marks
        return (some .orange :: colors, rest)
      else do
        let (colors, rest) ← markMisplaced? table guess marks
        return (some .grey :: colors, rest)
  | _, _ => some ([], table)

/-- On a table that holds a covering pool, the first pass does not break off, and does what it does
on the pool. -/
theorem exists_markExact? (hholds : table.Holds pool) (h : pool.Covers guess target) :
    ∃ free, markExact? table guess target = some ((markExact pool guess target).1, free) ∧
      free.Holds (markExact pool guess target).2 := by
  induction guess generalizing pool table target with
  | nil => exact ⟨table, rfl, hholds⟩
  | cons g guess ih =>
    cases target with
    | nil => exact ⟨table, rfl, hholds⟩
    | cons t target =>
      rw [markExact, markExact?]
      by_cases hgt : g = t
      · subst hgt
        obtain ⟨hfree, hrest⟩ := h.of_agree
        obtain ⟨left, hleft, hholds⟩ := hholds.exists_take? hfree
        obtain ⟨free, hmarks, hholds⟩ := ih hholds hrest
        rw [if_pos rfl, if_pos rfl, hleft]
        exact ⟨free, by simp [hmarks], hholds⟩
      · obtain ⟨free, hmarks, hholds⟩ := ih hholds (h.of_disagree hgt)
        rw [if_neg hgt, if_neg hgt]
        exact ⟨free, by simp [hmarks], hholds⟩

/-- On a table that holds a pool, the second pass does not break off, and does what it does on the
pool. -/
theorem exists_markMisplaced? (hholds : table.Holds pool) :
    ∃ rest, markMisplaced? table guess marks = some ((markMisplaced pool guess marks).1, rest) ∧
      rest.Holds (markMisplaced pool guess marks).2 := by
  induction guess generalizing pool table marks with
  | nil => exact ⟨table, rfl, hholds⟩
  | cons g guess ih =>
    cases marks with
    | nil => exact ⟨table, rfl, hholds⟩
    | cons mark marks =>
      cases mark with
      | some c =>
        obtain ⟨rest, hmarks, hholds⟩ := ih hholds
        exact ⟨rest, by simp [markMisplaced?, markMisplaced, hmarks], hholds⟩
      | none =>
        rw [markMisplaced, markMisplaced?, hholds g]
        by_cases hfree : 0 < pool g
        · obtain ⟨left, hleft, hholds⟩ := hholds.exists_take? hfree
          obtain ⟨rest, hmarks, hholds⟩ := ih hholds
          rw [if_pos hfree, if_pos hfree, hleft]
          exact ⟨rest, by simp [hmarks], hholds⟩
        · obtain ⟨rest, hmarks, hholds⟩ := ih hholds
          rw [if_neg hfree, if_neg hfree]
          exact ⟨rest, by simp [hmarks], hholds⟩

/-! ### The account of feedback -/

/-- The marks of a row that fills every place count as its colours do. -/
theorem Row.count_zip_take_map_some (row : Row) (guess : Equation) (k : Nat) (s : Symbol)
    (c : Color) :
    ((guess.symbols.take k).zip ((row.colors.map some).take k)).count (s, some c) =
      ((guess.symbols.zip row.colors).take k).count (s, c) := by
  rw [List.zip, ← List.take_zipWith, ← List.zip, List.zip_map_right, ← List.map_take, List.count,
    List.countP_map]
  exact List.countP_congr fun p _ => by simp [Prod.ext_iff]

section Feedback

variable (guess target : Equation)

/-- The marks of the first pass. -/
def exactMarks : List (Option Color) :=
  (markExact (Pool.ofEquation target) guess.symbols target.symbols).1

/-- The free copies after `k` places of the first pass. The pass goes from left to right, so these
are the copies that a pass over the first `k` places leaves. -/
def freeAfterExact (k : Nat) : Pool :=
  (markExact (Pool.ofEquation target) (guess.symbols.take k) (target.symbols.take k)).2

/-- The free copies after `k` places of the second pass, which starts with those that the first pass
has left. -/
def freeAfterMisplaced (k : Nat) : Pool :=
  (markMisplaced (freeCopies guess target) (guess.symbols.take k)
    ((exactMarks guess target).take k)).2

/-- The second pass fills every place, and feedback shows what it has filled in. -/
theorem markMisplaced_eq_map_feedback :
    (markMisplaced (freeCopies guess target) guess.symbols (exactMarks guess target)).1 =
      (feedback guess target).colors.map some := by
  rw [feedback_eq_ofPasses]
  refine (List.map_id _).symm.trans ?_
  rw [Row.ofPasses, List.map_map]
  refine List.map_congr_left fun mark hmark => ?_
  cases mark with
  | none => exact absurd hmark none_notMem_markMisplaced
  | some c => rfl

/-- After each place of the second pass, the marks are those of feedback. -/
theorem markMisplaced_take_eq_map_feedback (k : Nat) :
    (markMisplaced (freeCopies guess target) (guess.symbols.take k)
      ((exactMarks guess target).take k)).1 = ((feedback guess target).colors.map some).take k := by
  rw [markMisplaced_take, markMisplaced_eq_map_feedback]

theorem freeAfterExact_add_count_green (k : Nat) (s : Symbol) :
    freeAfterExact guess target k s +
      ((guess.symbols.zip (feedback guess target).colors).take k).count (s, .green) =
        target.count s := by
  have hconserves := markExact_conserves ((Pool.covers_ofEquation guess target).take k) s
  rw [markExact_take] at hconserves
  rw [← Row.count_zip_take_map_some, ← markMisplaced_take_eq_map_feedback,
    count_green_markMisplaced]
  exact hconserves

theorem freeAfterExact_equationLength :
    freeAfterExact guess target equationLength = freeCopies guess target := by
  rw [freeAfterExact, List.take_of_length_le (Nat.le_of_eq guess.length_symbols),
    List.take_of_length_le (Nat.le_of_eq target.length_symbols), freeCopies]

theorem freeAfterMisplaced_equationLength : freeAfterMisplaced guess target equationLength =
    (markMisplaced (freeCopies guess target) guess.symbols (exactMarks guess target)).2 := by
  have hmarks : (exactMarks guess target).length ≤ equationLength := by
    simp [exactMarks, length_markExact, guess.length_symbols, target.length_symbols]
  rw [freeAfterMisplaced, List.take_of_length_le (Nat.le_of_eq guess.length_symbols),
    List.take_of_length_le hmarks]

theorem freeAfterMisplaced_add_count_orange (k : Nat) (s : Symbol) :
    freeAfterMisplaced guess target k s +
      ((guess.symbols.zip (feedback guess target).colors).take k).count (s, .orange) =
        freeCopies guess target s := by
  have horange : some .orange ∉ (exactMarks guess target).take k :=
    fun hmem => orange_notMem_markExact (List.mem_of_mem_take hmem)
  rw [← Row.count_zip_take_map_some, ← markMisplaced_take_eq_map_feedback]
  exact markMisplaced_conserves _ horange s

end Feedback

/-- **Feedback keeps account of all copies.** In the first pass over any guess, the free copies of a
symbol and its green places so far make up all copies in the target, after every place. In the
second pass, they do so together with the orange places so far. The second pass fills every place.
And on the table of frequencies of the target, where a pass breaks off if it needs a copy that is
missing, both passes come to their end with the same marks and the same free copies. -/
theorem feedback_conserves_copies (guess target : Equation) :
    let colors := (feedback guess target).colors
    let places := guess.symbols.zip colors
    (∀ k s, freeAfterExact guess target k s + (places.take k).count (s, .green) =
      target.count s) ∧
    (∀ k s, freeAfterMisplaced guess target k s + places.count (s, .green) +
      (places.take k).count (s, .orange) = target.count s) ∧
    (markMisplaced (freeCopies guess target) guess.symbols (exactMarks guess target)).1 =
      colors.map some ∧
    ∃ free rest : Tally Symbol,
      markExact? (Tally.ofList target.symbols) guess.symbols target.symbols =
        some (exactMarks guess target, free) ∧
      markMisplaced? free guess.symbols (exactMarks guess target) = some (colors.map some, rest) ∧
      free.Holds (freeAfterExact guess target equationLength) ∧
      rest.Holds (freeAfterMisplaced guess target equationLength) := by
  intro colors places
  have hexact := freeAfterExact_add_count_green guess target
  have hall (s : Symbol) : freeCopies guess target s + places.count (s, .green) =
      target.count s := by
    have hlength : places.length ≤ equationLength := by
      simp [places, colors, guess.length_symbols, (feedback guess target).length_colors]
    have h := hexact equationLength s
    rwa [freeAfterExact_equationLength, List.take_of_length_le hlength] at h
  have hfilled := markMisplaced_eq_map_feedback guess target
  refine ⟨hexact, fun k s => ?_, hfilled, ?_⟩
  · rw [Nat.add_right_comm, ← hall s]
    exact congrArg (· + _) (freeAfterMisplaced_add_count_orange guess target k s)
  · obtain ⟨free, hmarks, hfree⟩ := exists_markExact? (Tally.holds_ofList target)
      (Pool.covers_ofEquation guess target)
    obtain ⟨rest, hcolors, hrest⟩ := exists_markMisplaced? hfree
    rw [freeAfterExact_equationLength, freeAfterMisplaced_equationLength, ← hfilled]
    exact ⟨free, rest, hmarks, hcolors, hfree, hrest⟩

end HiddenEquation
