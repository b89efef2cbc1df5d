import HiddenEquation.Proofs.Feedback.Places

/-!
# The laws of feedback

Three laws determine the feedback on a guess. Green places are those that agree with the target. A
symbol earns as many colours other than grey as it has copies in both equations. And of the places
of one symbol that are not green, the orange ones stand to the left of the grey ones.

## Main definitions

* `Row.Lawful` : a row keeps the three laws for a guess and a target.
* `Row.places` : the places of a guess with the colours of a row.

## Main results

* `Row.lawful_iff_fair` : the laws say that the places are fair to the free copies of the target.
* `Row.lawful_iff_eq_feedback` : the feedback is the only row that keeps the laws.
* `feedback_eq_perfect_iff` : only the target itself earns a perfect row.
-/

namespace HiddenEquation

/-- The laws of feedback, for a row of colours on a guess. -/
structure Row.Lawful (guess target : Equation) (row : Row) : Prop where
  /-- A place is green exactly if guess and target agree there. -/
  green_iff : ∀ i, i < equationLength →
    (row.colors[i]? = some .green ↔ guess.symbolAt? i = target.symbolAt? i)
  /-- The green and orange places of a symbol are as many as its copies in both equations. -/
  matched : ∀ s : Symbol,
    ((guess.symbols.zip row.colors).countP fun p => p.1 = s ∧ (p.2 = .green ∨ p.2 = .orange)) =
      min (guess.count s) (target.count s)
  /-- An orange place stands to the left of every grey place of the same symbol. -/
  orange_first : ∀ i j s, guess.symbolAt? i = some s → guess.symbolAt? j = some s →
    row.colors[i]? = some .orange → row.colors[j]? = some .grey → i < j

/-- The places of a guess, with the hidden symbols of a target and the colours of a row. -/
def Row.places (row : Row) (guess target : Equation) : List Place :=
  (guess.symbols.zip (target.symbols.zip row.colors)).map fun x => ⟨x.1, x.2.1, x.2.2⟩

/-- The copies in a target that the agreeing places of a guess leave free. -/
def freeCopies (guess target : Equation) : Pool :=
  (markExact (Pool.ofEquation target) guess.symbols target.symbols).2

namespace Row

variable (row : Row) (guess target : Equation)

/-! ### The places of a row -/

theorem map_guessed_places : (row.places guess target).map Place.guessed = guess.symbols := by
  rw [places, List.map_map]
  refine List.map_fst_zip ?_
  simp [guess.length_symbols, target.length_symbols, row.length_colors]

theorem map_hidden_color_places :
    (row.places guess target).map (fun p => (p.hidden, p.color)) =
      target.symbols.zip row.colors := by
  rw [places, List.map_map]
  refine List.map_snd_zip ?_
  simp [guess.length_symbols, target.length_symbols, row.length_colors]

theorem map_hidden_places : (row.places guess target).map Place.hidden = target.symbols := by
  have h := congrArg (List.map Prod.fst) (row.map_hidden_color_places guess target)
  rw [List.map_map, row.map_fst_zip_colors] at h
  exact h

theorem map_color_places : (row.places guess target).map Place.color = row.colors := by
  have h := congrArg (List.map Prod.snd) (row.map_hidden_color_places guess target)
  rw [List.map_map, row.map_snd_zip_colors] at h
  exact h

theorem map_guessed_hidden_places :
    (row.places guess target).map (fun p => (p.guessed, p.hidden)) =
      guess.symbols.zip target.symbols := by
  rw [← List.zip_map', map_guessed_places, map_hidden_places]

theorem length_places : (row.places guess target).length = equationLength := by
  rw [← row.length_colors, ← row.map_color_places guess target, List.length_map]

theorem getElem?_places {i : Nat} {p : Place} (h : (row.places guess target)[i]? = some p) :
    guess.symbolAt? i = some p.guessed ∧ target.symbolAt? i = some p.hidden ∧
      row.colors[i]? = some p.color := by
  refine ⟨?_, ?_, ?_⟩
  · rw [Equation.symbolAt?, ← row.map_guessed_places guess target, List.getElem?_map, h]
    rfl
  · rw [Equation.symbolAt?, ← row.map_hidden_places guess target, List.getElem?_map, h]
    rfl
  · rw [← row.map_color_places guess target, List.getElem?_map, h]
    rfl

end Row

/-! ### Counting places -/

section Counting

variable (s : Symbol) (places : List Place)

theorem count_guessed : (places.map Place.guessed).count s =
    agreements s places + openPlaces s places := by
  induction places with
  | nil => rfl
  | cons p places ih =>
    rw [List.map_cons, List.count_cons, ih, openPlaces_cons, agreements_cons]
    by_cases hs : p.guessed = s <;> by_cases hp : p.Agrees <;> simp [hs, hp] <;> omega

theorem agreements_le_count_hidden : agreements s places ≤ (places.map Place.hidden).count s := by
  rw [agreements, List.count, List.countP_map]
  refine List.countP_mono_left fun p _ hp => ?_
  obtain ⟨hs, hagrees⟩ : p.guessed = s ∧ p.Agrees := by simpa using hp
  simpa [← hs] using (show p.guessed = p.hidden from hagrees).symm

theorem agreements_eq_count : agreements s places =
    (places.map fun p => (p.guessed, p.hidden)).count (s, s) := by
  rw [agreements, List.count, List.countP_map]
  refine List.countP_congr fun p _ => ?_
  rw [decide_eq_true_iff, Function.comp_apply, beq_iff_eq, Prod.mk.injEq]
  constructor
  · rintro ⟨rfl, h⟩
    exact ⟨rfl, Eq.symm h⟩
  · rintro ⟨rfl, h⟩
    exact ⟨rfl, Eq.symm h⟩

variable {places}

/-- If the green places are those that agree, the places that are not grey are the agreeing and the
orange ones. -/
theorem countP_matched (h : ∀ p ∈ places, p.color = .green ↔ p.Agrees) :
    (places.countP fun p => p.guessed = s ∧ (p.color = .green ∨ p.color = .orange)) =
      agreements s places + oranges s places := by
  induction places with
  | nil => rfl
  | cons p places ih =>
    obtain ⟨hp, h⟩ := List.forall_mem_cons.mp h
    rw [List.countP_cons, ih h, oranges_cons, agreements_cons]
    cases hc : p.color <;> by_cases hs : p.guessed = s <;> simp [hs, ← hp, hc] <;> omega

end Counting

namespace Row

variable {row : Row} {guess target : Equation}

theorem freeCopies_eq (row : Row) (s : Symbol) : freeCopies guess target s =
    target.count s - agreements s (row.places guess target) := by
  rw [freeCopies, markExact_eq, agreements_eq_count, map_guessed_hidden_places]
  rfl

/-! ### The laws as fairness -/

theorem forall_places_green_iff :
    (∀ p ∈ row.places guess target, p.color = .green ↔ p.Agrees) ↔
      ∀ i, i < equationLength →
        (row.colors[i]? = some .green ↔ guess.symbolAt? i = target.symbolAt? i) := by
  have hplace {i : Nat} {p : Place} (h : (row.places guess target)[i]? = some p) :
      (row.colors[i]? = some .green ↔ guess.symbolAt? i = target.symbolAt? i) ↔
        (p.color = .green ↔ p.Agrees) := by
    obtain ⟨hg, ht, hc⟩ := row.getElem?_places guess target h
    rw [hg, ht, hc, Option.some.injEq, Option.some.injEq, Place.Agrees]
  constructor
  · intro h i hi
    rw [← row.length_places guess target] at hi
    have hp := List.getElem?_eq_getElem hi
    exact (hplace hp).mpr (h _ (List.getElem_mem hi))
  · intro h p hp
    obtain ⟨i, hi⟩ := List.mem_iff_getElem?.mp hp
    have hlt := (List.getElem?_eq_some_iff.mp hi).1
    rw [row.length_places guess target] at hlt
    exact (hplace hi).mp (h i hlt)

theorem pairwise_places_iff :
    ((row.places guess target).Pairwise fun p q =>
        p.guessed = q.guessed → p.color = .grey → q.color ≠ .orange) ↔
      ∀ i j s, guess.symbolAt? i = some s → guess.symbolAt? j = some s →
        row.colors[i]? = some .orange → row.colors[j]? = some .grey → i < j := by
  rw [List.pairwise_iff_getElem]
  have hplaces {i : Nat} (hi : i < (row.places guess target).length) :=
    row.getElem?_places guess target (List.getElem?_eq_getElem hi)
  constructor
  · intro h i j s hgi hgj horange hgrey
    have hlt {k : Nat} {c : Color} (hk : row.colors[k]? = some c) :
        k < (row.places guess target).length := by
      rw [row.length_places guess target, ← row.length_colors]
      exact (List.getElem?_eq_some_iff.mp hk).1
    obtain ⟨hgi', -, hci⟩ := hplaces (hlt horange)
    obtain ⟨hgj', -, hcj⟩ := hplaces (hlt hgrey)
    rw [hgi, Option.some.injEq] at hgi'
    rw [hgj, Option.some.injEq] at hgj'
    rw [horange, Option.some.injEq] at hci
    rw [hgrey, Option.some.injEq] at hcj
    rcases Nat.lt_trichotomy i j with hij | rfl | hji
    · exact hij
    · rw [horange] at hgrey
      cases hgrey
    · exact absurd hci.symm (h j i _ _ hji (hgj'.symm.trans hgi') hcj.symm)
  · intro h i j hi hj hlt hs hgrey horange
    obtain ⟨hgi, -, hci⟩ := hplaces hi
    obtain ⟨hgj, -, hcj⟩ := hplaces hj
    have := h j i _ (hgj.trans (congrArg some hs.symm)) hgi (hcj.trans (congrArg some horange))
      (hci.trans (congrArg some hgrey))
    omega

/-- The oranges are fair to the free copies exactly if each symbol has as many places that are not
grey as it has copies in both equations. -/
theorem oranges_eq_iff (h : ∀ p ∈ row.places guess target, p.color = .green ↔ p.Agrees)
    (s : Symbol) :
    oranges s (row.places guess target) =
        min (freeCopies guess target s) (openPlaces s (row.places guess target)) ↔
      ((guess.symbols.zip row.colors).countP fun p => p.1 = s ∧ (p.2 = .green ∨ p.2 = .orange)) =
        min (guess.count s) (target.count s) := by
  have hcolors : ((guess.symbols.zip row.colors).countP
      fun p => p.1 = s ∧ (p.2 = .green ∨ p.2 = .orange)) =
        agreements s (row.places guess target) + oranges s (row.places guess target) := by
    have hzip : guess.symbols.zip row.colors =
        (row.places guess target).map fun p => (p.guessed, p.color) := by
      rw [← List.zip_map', map_guessed_places, map_color_places]
    rw [hzip, List.countP_map, ← countP_matched s h]
    rfl
  have hguess := count_guessed s (row.places guess target)
  have htarget := agreements_le_count_hidden s (row.places guess target)
  rw [map_guessed_places] at hguess
  rw [map_hidden_places] at htarget
  rw [hcolors, row.freeCopies_eq, Equation.count, Equation.count, hguess]
  omega

/-- A row keeps the laws exactly if it colours the places fairly to the free copies. -/
theorem lawful_iff_fair :
    row.Lawful guess target ↔ Fair (freeCopies guess target) (row.places guess target) := by
  constructor
  · rintro ⟨hgreen, hmatched, hfirst⟩
    have hagree := forall_places_green_iff.mpr hgreen
    exact ⟨hagree, fun s => (oranges_eq_iff hagree s).mpr (hmatched s),
      pairwise_places_iff.mpr hfirst⟩
  · rintro ⟨hagree, horanges, hordered⟩
    exact ⟨forall_places_green_iff.mp hagree, fun s => (oranges_eq_iff hagree s).mp (horanges s),
      pairwise_places_iff.mp hordered⟩

/-! ### Feedback is lawful -/

theorem eq_iff_colors_eq {row row' : Row} : row = row' ↔ row.colors = row'.colors := by
  cases row
  cases row'
  rw [Row.mk.injEq]

/-- The two passes give the colours that are fair to the places of any row. -/
theorem colors_ofPasses (row : Row) (guess target : Equation) :
    (Row.ofPasses guess target).colors =
      settled (freeCopies guess target) (row.places guess target) := by
  have hmarks : (markExact (Pool.ofEquation target) guess.symbols target.symbols).1 =
      (row.places guess target).map fun p => Place.exactMark p.guessed p.hidden := by
    rw [markExact_eq, ← row.map_guessed_places guess target, ← row.map_hidden_places guess target,
      List.zipWith_map, List.zipWith_self]
  rw [settled, map_guessed_places, ← hmarks]
  rfl

/-- The row of the two passes is the only lawful one. -/
theorem lawful_iff_eq_ofPasses : row.Lawful guess target ↔ row = Row.ofPasses guess target := by
  rw [lawful_iff_fair, fair_iff, map_color_places, eq_iff_colors_eq, ← row.colors_ofPasses]

theorem agrees_of_mem_places_self {p : Place} (hp : p ∈ row.places target target) : p.Agrees := by
  obtain ⟨i, hi⟩ := List.mem_iff_getElem?.mp hp
  obtain ⟨hg, ht, -⟩ := row.getElem?_places target target hi
  exact Option.some.inj (hg.symm.trans ht)

/-- The two passes give a perfect row to the target itself. -/
theorem ofPasses_self (target : Equation) : Row.ofPasses target target = Row.perfect := by
  rw [eq_iff_colors_eq, Row.perfect.colors_ofPasses,
    settled_of_agrees fun p => agrees_of_mem_places_self, length_places]
  rfl

end Row

theorem feedback_eq_ofPasses (guess target : Equation) :
    feedback guess target = Row.ofPasses guess target := by
  rw [feedback]
  split
  · next h => rw [h, Row.ofPasses_self]
  · rfl

theorem lawful_feedback (guess target : Equation) : (feedback guess target).Lawful guess target :=
  Row.lawful_iff_eq_ofPasses.mpr (feedback_eq_ofPasses guess target)

/-- Only the target itself earns a perfect row. -/
theorem feedback_eq_perfect_iff {guess target : Equation} :
    feedback guess target = Row.perfect ↔ guess = target := by
  constructor
  · intro h
    have hlawful : Row.perfect.Lawful guess target := h ▸ lawful_feedback guess target
    have hsymbols : guess.symbols = target.symbols := by
      refine List.ext_getElem? fun i => ?_
      by_cases hi : i < equationLength
      · exact (hlawful.green_iff i hi).mp (by simp [Row.perfect, hi])
      · rw [List.getElem?_eq_none (by rw [guess.length_symbols]; omega),
          List.getElem?_eq_none (by rw [target.length_symbols]; omega)]
    cases guess
    cases target
    cases hsymbols
    rfl
  · rintro rfl
    rw [feedback, if_pos rfl]

/-- **Three laws determine the feedback.** A row on a guess keeps the three laws exactly if it is
the feedback: the feedback keeps them, and no other row does. -/
theorem Row.lawful_iff_eq_feedback (guess target : Equation) (row : Row) :
    row.Lawful guess target ↔ row = feedback guess target := by
  rw [feedback_eq_ofPasses, Row.lawful_iff_eq_ofPasses]

/-- The second `1` of `1+1-2=0` has no copy left in `1+2+3=6`, and the `2` has one elsewhere. -/
example :
    let guess : Equation :=
      ⟨[.digit 1, .operator .add, .digit 1, .operator .sub, .digit 2, .equals, .digit 0], rfl⟩
    let target : Equation :=
      ⟨[.digit 1, .operator .add, .digit 2, .operator .add, .digit 3, .equals, .digit 6], rfl⟩
    (feedback guess target).colors =
      [.green, .green, .grey, .grey, .orange, .green, .grey] := by decide

end HiddenEquation
