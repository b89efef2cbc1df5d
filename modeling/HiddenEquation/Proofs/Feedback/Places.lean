import HiddenEquation.Feedback
import Mathlib.Data.List.Basic

/-!
# The places of a coloured guess

A coloured guess is read here as a row of places. A place holds the guessed symbol, the symbol that
is hidden behind it, and a colour. The first pass over a guess settles the places that agree and
leaves a pool of free copies. This file describes what the second pass does with any pool: it is
the only fair way to colour the places.

## Main definitions

* `Place` : a guessed symbol, the hidden symbol behind it, and a colour.
* `Fair` : what a pool of free copies says about the colours of a row of places.

## Main results

* `markExact_eq` : what the first pass marks, and which copies it leaves free.
* `fair_iff` : a row of places is fair exactly if the second pass gives its colours.
-/

namespace HiddenEquation

/-- A guessed symbol, the hidden symbol behind it, and a colour. -/
structure Place where
  guessed : Symbol
  hidden : Symbol
  color : Color
  deriving DecidableEq

namespace Place

/-- Guess and target agree at a place. -/
def Agrees (p : Place) : Prop := p.guessed = p.hidden

instance (p : Place) : Decidable p.Agrees := inferInstanceAs (Decidable (_ = _))

/-- The mark that the first pass gives to a place. -/
def exactMark (guessed hidden : Symbol) : Option Color :=
  if guessed = hidden then some .green else none

end Place

/-- The number of agreeing places that hold a symbol. -/
def agreements (s : Symbol) (places : List Place) : Nat :=
  places.countP fun p => p.guessed = s ∧ p.Agrees

/-- The number of places that hold a guessed symbol without agreeing. -/
def openPlaces (s : Symbol) (places : List Place) : Nat :=
  places.countP fun p => p.guessed = s ∧ ¬p.Agrees

/-- The number of orange places that hold a guessed symbol. -/
def oranges (s : Symbol) (places : List Place) : Nat :=
  places.countP fun p => p.guessed = s ∧ p.color = .orange

/-- The colours of a row of places are fair to a pool of free copies. The agreeing places are green,
each symbol has as many orange places as there are free copies and open places for it, and no
orange place stands behind a grey one of the same symbol. -/
structure Fair (pool : Pool) (places : List Place) : Prop where
  green_iff : ∀ p ∈ places, p.color = .green ↔ p.Agrees
  oranges : ∀ s, oranges s places = min (pool s) (openPlaces s places)
  ordered : places.Pairwise fun p q =>
    p.guessed = q.guessed → p.color = .grey → q.color ≠ .orange

/-! ### The first pass -/

theorem markExact_eq (pool : Pool) (guess target : List Symbol) :
    markExact pool guess target = (List.zipWith Place.exactMark guess target,
      fun s => pool s - (guess.zip target).count (s, s)) := by
  induction guess generalizing pool target with
  | nil => simp [markExact]
  | cons g guess ih =>
    cases target with
    | nil => simp [markExact]
    | cons t target =>
      rw [markExact]
      by_cases hgt : g = t
      · subst hgt
        rw [if_pos rfl, ih]
        simp only [List.zipWith_cons_cons, Place.exactMark, if_true, List.zip_cons_cons,
          Prod.mk.injEq, true_and]
        funext s
        by_cases hs : s = g
        · subst hs
          simp [Pool.take]
          omega
        · simp [Pool.take, hs, Ne.symm hs]
      · rw [if_neg hgt, ih]
        simp only [List.zipWith_cons_cons, Place.exactMark, if_neg hgt, List.zip_cons_cons,
          Prod.mk.injEq, true_and]
        funext s
        have hne : (g, t) ≠ (s, s) := fun h => hgt (by simp_all)
        rw [List.count_cons_of_ne hne]

/-! ### The second pass -/

theorem markMisplaced_some (pool : Pool) (g : Symbol) (c : Color) (guess : List Symbol)
    (marks : List (Option Color)) :
    (markMisplaced pool (g :: guess) (some c :: marks)).1 =
      some c :: (markMisplaced pool guess marks).1 := rfl

theorem markMisplaced_free {pool : Pool} {g : Symbol} (hg : 0 < pool g) (guess : List Symbol)
    (marks : List (Option Color)) :
    (markMisplaced pool (g :: guess) (none :: marks)).1 =
      some .orange :: (markMisplaced (pool.take g) guess marks).1 := by
  simp [markMisplaced, hg]

theorem markMisplaced_spent {pool : Pool} {g : Symbol} (hg : pool g = 0) (guess : List Symbol)
    (marks : List (Option Color)) :
    (markMisplaced pool (g :: guess) (none :: marks)).1 =
      some .grey :: (markMisplaced pool guess marks).1 := by
  simp [markMisplaced, hg]

/-- The colours that the second pass gives to a row of places, whatever colours they have. -/
def settled (pool : Pool) (places : List Place) : List Color :=
  (markMisplaced pool (places.map Place.guessed)
    (places.map fun p => Place.exactMark p.guessed p.hidden)).1.map fun mark => mark.getD .grey

theorem settled_cons_of_agrees {p : Place} (hp : p.Agrees) (pool : Pool) (places : List Place) :
    settled pool (p :: places) = .green :: settled pool places := by
  simp only [settled, List.map_cons, Place.exactMark, if_pos (show p.guessed = p.hidden from hp),
    markMisplaced_some]
  rfl

theorem settled_of_agrees {places : List Place} (h : ∀ p ∈ places, p.Agrees) (pool : Pool) :
    settled pool places = List.replicate places.length .green := by
  induction places with
  | nil => rfl
  | cons p places ih =>
    obtain ⟨hp, h⟩ := List.forall_mem_cons.mp h
    rw [settled_cons_of_agrees hp, ih h, List.length_cons, List.replicate_succ]

theorem settled_cons_of_free {p : Place} (hp : ¬p.Agrees) {pool : Pool} (hfree : 0 < pool p.guessed)
    (places : List Place) :
    settled pool (p :: places) = .orange :: settled (pool.take p.guessed) places := by
  simp only [settled, List.map_cons, Place.exactMark, if_neg (show ¬p.guessed = p.hidden from hp),
    markMisplaced_free hfree]
  rfl

theorem settled_cons_of_spent {p : Place} (hp : ¬p.Agrees) {pool : Pool}
    (hspent : pool p.guessed = 0) (places : List Place) :
    settled pool (p :: places) = .grey :: settled pool places := by
  simp only [settled, List.map_cons, Place.exactMark, if_neg (show ¬p.guessed = p.hidden from hp),
    markMisplaced_spent hspent]
  rfl

/-! ### Fair colours -/

theorem agreements_cons (s : Symbol) (p : Place) (places : List Place) :
    agreements s (p :: places) =
      agreements s places + if p.guessed = s ∧ p.Agrees then 1 else 0 := by
  simp [agreements, List.countP_cons]

theorem oranges_cons (s : Symbol) (p : Place) (places : List Place) :
    oranges s (p :: places) =
      oranges s places + if p.guessed = s ∧ p.color = .orange then 1 else 0 := by
  simp [oranges, List.countP_cons]

theorem openPlaces_cons (s : Symbol) (p : Place) (places : List Place) :
    openPlaces s (p :: places) =
      openPlaces s places + if p.guessed = s ∧ ¬p.Agrees then 1 else 0 := by
  simp [openPlaces, List.countP_cons]

/-- No orange place of its symbol stands behind a grey place. -/
theorem oranges_eq_zero_iff {s : Symbol} {places : List Place} :
    oranges s places = 0 ↔ ∀ q ∈ places, s = q.guessed → q.color ≠ .orange := by
  simp only [oranges, List.countP_eq_zero, decide_eq_true_eq, not_and]
  exact forall₂_congr fun q _ => ⟨fun h hs => h hs.symm, fun h hs => h hs.symm⟩

theorem fair_nil (pool : Pool) : Fair pool [] :=
  ⟨by simp, by simp [oranges, openPlaces], List.Pairwise.nil⟩

/-- What fairness says about the first place. -/
theorem fair_cons {pool : Pool} {p : Place} {places : List Place} :
    Fair pool (p :: places) ↔ (p.color = .green ↔ p.Agrees) ∧
      (p.color = .grey → oranges p.guessed places = 0) ∧
      (∀ s, oranges s (p :: places) = min (pool s) (openPlaces s (p :: places))) ∧
      (∀ q ∈ places, q.color = .green ↔ q.Agrees) ∧
      places.Pairwise fun p q => p.guessed = q.guessed → p.color = .grey → q.color ≠ .orange := by
  constructor
  · rintro ⟨hgreen, horanges, hordered⟩
    obtain ⟨hp, hgreen⟩ := List.forall_mem_cons.mp hgreen
    obtain ⟨hfirst, hordered⟩ := List.pairwise_cons.mp hordered
    refine ⟨hp, fun hgrey => ?_, horanges, hgreen, hordered⟩
    exact oranges_eq_zero_iff.mpr fun q hq hs => hfirst q hq hs hgrey
  · rintro ⟨hp, hgrey, horanges, hgreen, hordered⟩
    refine ⟨List.forall_mem_cons.mpr ⟨hp, hgreen⟩, horanges, List.pairwise_cons.mpr ⟨?_, hordered⟩⟩
    exact fun q hq hs hc => oranges_eq_zero_iff.mp (hgrey hc) q hq hs

theorem fair_cons_of_agrees {p : Place} (hp : p.Agrees) {pool : Pool} {places : List Place} :
    Fair pool (p :: places) ↔ p.color = .green ∧ Fair pool places := by
  simp only [fair_cons, oranges_cons, openPlaces_cons, hp, iff_true, not_true, and_false, if_false,
    Nat.add_zero]
  constructor
  · rintro ⟨hgreen, -, horanges, hrest, hordered⟩
    exact ⟨hgreen, hrest, fun s => by simpa [hgreen] using horanges s, hordered⟩
  · rintro ⟨hgreen, hfair⟩
    refine ⟨hgreen, by simp [hgreen], fun s => ?_, hfair.green_iff, hfair.ordered⟩
    simpa [hgreen] using hfair.oranges s

theorem fair_cons_of_free {p : Place} (hp : ¬p.Agrees) {pool : Pool} (hfree : 0 < pool p.guessed)
    {places : List Place} :
    Fair pool (p :: places) ↔ p.color = .orange ∧ Fair (pool.take p.guessed) places := by
  simp only [fair_cons, oranges_cons, openPlaces_cons, hp, iff_false, not_false_eq_true, and_true]
  constructor
  · rintro ⟨hgreen, hgrey, horanges, hrest, hordered⟩
    have hown := horanges p.guessed
    have hcolor : p.color = .orange := by
      -- a grey place would leave a free copy for an open place unused
      cases hc : p.color with
      | orange => rfl
      | green => exact absurd hc hgreen
      | grey =>
        have := hgrey hc
        simp only [hc, true_and, reduceCtorEq, if_false, if_true] at hown
        omega
    refine ⟨hcolor, hrest, fun s => ?_, hordered⟩
    have hs := horanges s
    by_cases hps : p.guessed = s
    · subst hps
      simp only [hcolor, and_self, if_true] at hs
      simp only [Pool.take, if_true]
      omega
    · simpa [Pool.take, hps, Ne.symm hps] using hs
  · rintro ⟨hcolor, hfair⟩
    refine ⟨by simp [hcolor], by simp [hcolor], fun s => ?_, hfair.green_iff, hfair.ordered⟩
    have hs := hfair.oranges s
    by_cases hps : p.guessed = s
    · subst hps
      simp only [Pool.take, if_true] at hs
      simp only [hcolor, and_self, if_true]
      omega
    · simpa [Pool.take, hps, Ne.symm hps] using hs

theorem fair_cons_of_spent {p : Place} (hp : ¬p.Agrees) {pool : Pool} (hspent : pool p.guessed = 0)
    {places : List Place} :
    Fair pool (p :: places) ↔ p.color = .grey ∧ Fair pool places := by
  simp only [fair_cons, oranges_cons, openPlaces_cons, hp, iff_false, not_false_eq_true, and_true]
  constructor
  · rintro ⟨hgreen, -, horanges, hrest, hordered⟩
    have hown := horanges p.guessed
    have hcolor : p.color = .grey := by
      cases hc : p.color with
      | grey => rfl
      | green => exact absurd hc hgreen
      | orange => simp [hc, hspent] at hown
    refine ⟨hcolor, hrest, fun s => ?_, hordered⟩
    have hs := horanges s
    by_cases hps : p.guessed = s
    · subst hps
      simpa [hcolor, hspent] using hs
    · simpa [hps] using hs
  · rintro ⟨hcolor, hfair⟩
    have hown : oranges p.guessed places = 0 := by simp [hfair.oranges, hspent]
    refine ⟨by simp [hcolor], fun _ => hown, fun s => ?_, hfair.green_iff, hfair.ordered⟩
    by_cases hps : p.guessed = s
    · subst hps
      simpa [hcolor, hspent] using hown
    · simpa [hps] using hfair.oranges s

/-- **The second pass gives the only fair colours.** Whatever copies are free, the colours of a row
of places are fair exactly if they are those that the second pass gives. -/
theorem fair_iff {pool : Pool} {places : List Place} :
    Fair pool places ↔ places.map Place.color = settled pool places := by
  induction places generalizing pool with
  | nil => exact iff_of_true (fair_nil pool) rfl
  | cons p places ih =>
    by_cases hp : p.Agrees
    · rw [fair_cons_of_agrees hp, settled_cons_of_agrees hp, List.map_cons, List.cons.injEq, ih]
    · rcases Nat.eq_zero_or_pos (pool p.guessed) with hspent | hfree
      · rw [fair_cons_of_spent hp hspent, settled_cons_of_spent hp hspent, List.map_cons,
          List.cons.injEq, ih]
      · rw [fair_cons_of_free hp hfree, settled_cons_of_free hp hfree, List.map_cons,
          List.cons.injEq, ih]

end HiddenEquation
