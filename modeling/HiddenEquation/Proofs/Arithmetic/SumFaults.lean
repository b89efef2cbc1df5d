import HiddenEquation.Proofs.Arithmetic.ProductFaults

/-!
# Faults of sums

Where no product is at fault, the second scan sums what is left. It stops at the first `+` or `-`
that cannot be carried out: no numeral stands behind it, or the result leaves the range. The left
side of a `+` or a `-` is the total of everything in front of it, which is zero where nothing stands
in front, so that a sign is the first step of the sum. Its right side is the value of the whole term
behind it. A sign never overflows, since a term is not negative.

## Main definitions

* `Total` : the sum that a row of lexemes stands for.
* `SumFault` : a sum or a difference is at fault, given the lexemes around its operator.

## Main results

* `Total.unique` : a row of lexemes has at most one total.
* `resolveSums_eq_error_iff` : the second scan reports the leftmost fault of a sum.
* `exists_skeleton_of_no_productFault` : a row without faults of products is a skeleton with values.
-/

namespace HiddenEquation.Arithmetic

/-! ### The total of a row -/

/-- The sum that a row of lexemes stands for. Every term of the row has a value, and so has every
sum that starts at the left end. -/
inductive Total : List Lexeme → Int → Prop
  | nothing : Total [] 0
  | term {t : Term} {v : Int} (ht : t.value? = some v) : Total t.lexemes v
  | step {row : List Lexeme} {total v : Int} {t : Term} (hrow : Total row total)
      (o : OperatorOf false) (ht : t.value? = some v) (hfit : InRange (o.1.exact total v)) :
      Total (row ++ .operator o.1 :: t.lexemes) (o.1.exact total v)

namespace Total

/-- A row with one total has no other. -/
theorem unique {row : List Lexeme} {total total' : Int} (h : Total row total)
    (h' : Total row total') : total = total' := by
  induction h generalizing total' with
  | nothing =>
    generalize hrow : ([] : List Lexeme) = row at h'
    cases h' with
    | nothing => rfl
    | term => simp [Term.lexemes, Chain.spell] at hrow
    | step => simp at hrow
  | @term t v ht =>
    generalize hrow : t.lexemes = row at h'
    cases h' with
    | nothing => simp [Term.lexemes, Chain.spell] at hrow
    | term ht' =>
      obtain rfl := Term.lexemes_injective hrow
      exact Option.some.inj (ht.symm.trans ht')
    | @step _ _ _ t' _ o =>
      have hloose := Term.isLoose_eq_false (t := t) (.operator o.1) (by simp [hrow])
      simp [Lexeme.isLoose, o.2] at hloose
  | @step row total v t hrow o ht hfit ih =>
    generalize hwhole : row ++ .operator o.1 :: t.lexemes = whole at h'
    cases h' with
    | nothing => simp at hwhole
    | @term t' =>
      have hloose := Term.isLoose_eq_false (t := t') (.operator o.1) (by simp [← hwhole])
      simp [Lexeme.isLoose, o.2] at hloose
    | @step row' total' v' t' hrow' o' ht' =>
      rw [← List.singleton_append, ← List.append_assoc, ← List.singleton_append (l := t'.lexemes),
        ← List.append_assoc] at hwhole
      obtain ⟨hfront, rfl⟩ :=
        Term.append_lexemes_inj (atTermStart_snoc row o) (atTermStart_snoc row' o') hwhole
      obtain ⟨rfl, ho⟩ := List.append_inj' hfront rfl
      obtain rfl : o = o' := Subtype.ext (by simpa using ho)
      rw [ih hrow', Option.some.inj (ht.symm.trans ht')]

end Total

/-! ### The faults of sums -/

/-- A sum or a difference is at fault, where no product is: the lexemes in front of its operator,
the operator, the lexemes behind it, and the fault. -/
inductive SumFault : List Lexeme → Lexeme → List Lexeme → Fault → Prop
  /-- No numeral stands behind the operator. -/
  | missing {before after : List Lexeme} (o : OperatorOf false) (h : ¬StartsWithNumeral after) :
      SumFault before (.operator o.1) after .missingOperand
  /-- The total in front and the value of the term behind have a result that does not fit. -/
  | overflow {before after : List Lexeme} (o : OperatorOf false) {total v : Int} {t : Term}
      (hbefore : Total before total) (ht : t.value? = some v) (hend : AtTermEnd after)
      (hlarge : ¬InRange (o.1.exact total v)) :
      SumFault before (.operator o.1) (t.lexemes ++ after) .overflow

theorem Term.startsWithNumeral (t : Term) (after : List Lexeme) :
    StartsWithNumeral (t.lexemes ++ after) := ⟨t.first, _, rfl⟩

namespace SumFault

variable {before after : List Lexeme} {fault : Fault}

theorem not_of_not_loose {l : Lexeme} (hl : l.isLoose = false) :
    ¬SumFault before l after fault := by
  rintro (⟨o, -⟩ | ⟨o, -, -, -, -⟩) <;> simp [Lexeme.isLoose, o.2] at hl

/-- Without a numeral behind the operator, the right operand is missing. -/
theorem missing_iff {o : OperatorOf false} (ha : ¬StartsWithNumeral after) :
    SumFault before (.operator o.1) after fault ↔ fault = .missingOperand := by
  constructor
  · generalize Lexeme.operator o.1 = l
    rintro (⟨-, -⟩ | @⟨later, -, _, _, t, -, -, -, -⟩)
    · rfl
    · exact absurd (t.startsWithNumeral later) ha
  · rintro rfl
    exact missing o ha

/-- Between a total and a term with a value, only the result can be at fault. -/
theorem between_iff {o : OperatorOf false} {total v : Int} {t : Term} (hbefore : Total before total)
    (ht : t.value? = some v) (hend : AtTermEnd after) :
    SumFault before (.operator o.1) (t.lexemes ++ after) fault ↔
      fault = .overflow ∧ ¬InRange (o.1.exact total v) := by
  constructor
  · generalize hl : Lexeme.operator o.1 = l
    generalize hrow : t.lexemes ++ after = row
    rintro (⟨-, h⟩ | @⟨after', o', total', v', t', hbefore', ht', hend', hlarge⟩)
    · exact absurd (hrow ▸ t.startsWithNumeral after) h
    · obtain ⟨rfl, -⟩ := Term.lexemes_append_inj hend hend' hrow
      obtain rfl := hbefore.unique hbefore'
      obtain rfl : v = v' := Option.some.inj (ht.symm.trans ht')
      rw [Lexeme.operator.inj hl]
      exact ⟨rfl, hlarge⟩
  · rintro ⟨rfl, hlarge⟩
    exact overflow o hbefore ht hend hlarge

end SumFault

/-! ### The scan over sums -/

/-- The lexemes of places behind operators. -/
abbrev restLexemes (rest : List (OperatorOf false × Option Term)) : List Lexeme :=
  Chain.spellRest .operator Skeleton.placeLexemes rest

theorem atTermEnd_restLexemes (rest : List (OperatorOf false × Option Term)) :
    AtTermEnd (restLexemes rest) := by
  cases rest with
  | nil => simp [AtTermEnd]
  | cons link rest => simp [AtTermEnd, Lexeme.isLoose, link.1.2]

theorem not_startsWithNumeral_restLexemes (rest : List (OperatorOf false × Option Term)) :
    ¬StartsWithNumeral (restLexemes rest) := by
  rintro ⟨n, later, h⟩
  cases rest with
  | nil => cases h
  | cons link rest => cases h

/-- An operator with no value behind it. -/
theorem addTerms_missing (total : Int) (o : OperatorOf false)
    (values : List (OperatorOf false × Option Int)) :
    addTerms total (.operator o.1 :: Chain.spellRest .operator placeTokens values) =
      .error .missingOperand := by
  cases values <;> rfl

/-- The scan of the places behind a total. -/
theorem addTerms_eq_error_iff {done : List Lexeme} {total : Int} (htotal : Total done total)
    {rest : List (OperatorOf false × Option Term)} {values : List (OperatorOf false × Option Int)}
    (hvalues : Skeleton.resolveRest? rest = some values) {fault : Fault} :
    addTerms total (Chain.spellRest .operator placeTokens values) = .error fault ↔
      Leftmost SumFault done (restLexemes rest) fault := by
  induction rest generalizing done total values with
  | nil =>
    obtain rfl : [] = values := Option.some.inj hvalues
    simp [addTerms, Leftmost.not_nil]
  | cons link rest ih =>
    obtain ⟨o, place⟩ := link
    obtain ⟨value, hplace, hvalues⟩ := Option.bind_eq_some_iff.mp hvalues
    obtain ⟨values, hrest, hvalues⟩ := Option.bind_eq_some_iff.mp hvalues
    obtain rfl := Option.some.inj hvalues
    cases place with
    | none =>
      obtain rfl : none = value := Option.some.inj hplace
      refine (Eq.congr_left (addTerms_missing total o values)).trans ?_
      refine Iff.trans ?_ (Leftmost.cons_of_fault fun f =>
        SumFault.missing_iff (not_startsWithNumeral_restLexemes rest)).symm
      simp [eq_comm]
    | some t =>
      obtain ⟨v, ht, rfl⟩ := Option.map_eq_some_iff.mp hplace
      have hbetween (f : Fault) :
          SumFault done (.operator o.1) (t.lexemes ++ restLexemes rest) f ↔
            f = .overflow ∧ ¬InRange (o.1.exact total v) :=
        SumFault.between_iff htotal ht (atTermEnd_restLexemes rest)
      change (o.1.apply total v).bind (fun t => addTerms t _) = .error fault ↔
        Leftmost SumFault done (.operator o.1 :: (t.lexemes ++ restLexemes rest)) fault
      rw [Operator.apply_eq]
      by_cases hfit : InRange (o.1.exact total v)
      · rw [fit?, if_pos hfit, Leftmost.cons_of_clean fun f h => ((hbetween f).mp h).2 hfit,
          Leftmost.append_of_clean fun l hl _ _ _ =>
            SumFault.not_of_not_loose (Term.isLoose_eq_false l hl), List.append_assoc]
        exact ih (htotal.step o ht hfit) hrest
      · rw [fit?, if_neg hfit,
          Leftmost.cons_of_fault fun f => (hbetween f).trans (and_iff_left hfit)]
        simp [orOverflow, Except.bind, eq_comm]

/-- A sign in front is the first step of a sum that starts from zero. -/
theorem resolveSums_sign (o : OperatorOf false) {place : Option Int}
    (hplace : ∀ n ∈ place, InRange n) (values : List (OperatorOf false × Option Int)) :
    resolveSums (Chain.spellRest .operator placeTokens ((o, place) :: values)) =
      addTerms 0 (Chain.spellRest .operator placeTokens ((o, place) :: values)) := by
  obtain ⟨o, ho⟩ := o
  cases place with
  | none =>
    refine Eq.trans ?_ (addTerms_missing 0 ⟨o, ho⟩ values).symm
    cases o with
    | add => cases values <;> rfl
    | sub => cases values <;> rfl
    | mul => cases ho
    | div => cases ho
  | some n =>
    cases o with
    | add =>
      have hn := hplace n rfl
      change addTerms n _ = (checked (0 + n)).bind fun t => addTerms t _
      rw [Int.zero_add, checked, if_pos hn]
      rfl
    | sub =>
      change (checked (-n)).bind _ = (checked (0 - n)).bind fun t => addTerms t _
      rw [Int.zero_sub]
    | mul => cases ho
    | div => cases ho

theorem Skeleton.inRange_of_resolvePlace? {place : Option Term} {value : Option Int}
    (h : resolvePlace? place = some value) : ∀ n ∈ value, InRange n := by
  rintro n rfl
  cases place with
  | none => cases h
  | some t =>
    obtain ⟨v, ht, hv⟩ := Option.map_eq_some_iff.mp h
    exact Option.some.inj hv ▸ (Term.value?_nonneg ht).2

/-- The second scan reports the leftmost fault of a sum. -/
theorem resolveSums_eq_error_iff {c : Skeleton} {values : Chain false (Option Int)}
    (hvalues : c.resolve? = some values) (hne : c.lexemes ≠ []) {fault : Fault} :
    resolveSums (values.spell .operator placeTokens) = .error fault ↔
      Leftmost SumFault [] c.lexemes fault := by
  obtain ⟨first, rest⟩ := c
  obtain ⟨value, hfirst, hvalues⟩ := Option.bind_eq_some_iff.mp hvalues
  obtain ⟨places, hrest, hvalues⟩ := Option.bind_eq_some_iff.mp hvalues
  obtain rfl := Option.some.inj hvalues
  cases first with
  | some t =>
    obtain ⟨v, ht, rfl⟩ := Option.map_eq_some_iff.mp hfirst
    refine (addTerms_eq_error_iff (Total.term ht) hrest).trans ?_
    change _ ↔ Leftmost SumFault [] (t.lexemes ++ restLexemes rest) fault
    rw [Leftmost.append_of_clean fun l hl _ _ _ =>
      SumFault.not_of_not_loose (Term.isLoose_eq_false l hl), List.nil_append]
  | none =>
    obtain rfl : none = value := Option.some.inj hfirst
    cases rest with
    | nil => exact absurd rfl hne
    | cons link rest =>
      refine Iff.trans ?_ (addTerms_eq_error_iff Total.nothing hrest)
      obtain ⟨value, hplace, htail⟩ := Option.bind_eq_some_iff.mp hrest
      obtain ⟨tail, -, htail⟩ := Option.bind_eq_some_iff.mp htail
      obtain rfl := Option.some.inj htail
      exact Eq.congr_left
        (resolveSums_sign link.1 (Skeleton.inRange_of_resolvePlace? hplace) tail)

/-- A row without faults of products is that of a skeleton whose terms have values. -/
theorem exists_skeleton_of_no_productFault {row : List Lexeme} (hs : Separated row)
    (hf : AllFit row) (hclean : ∀ fault, ¬Leftmost ProductFault [] row fault) :
    ∃ (c : Skeleton) (values : Chain false (Option Int)), row = c.lexemes ∧
      c.resolve? = some values ∧
      resolveProducts [] (row.map Lexeme.token) = .ok (values.spell .operator placeTokens) := by
  cases hout : resolveProducts [] (row.map Lexeme.token) with
  | error fault => exact absurd ((resolveProducts_eq_error_iff hs hf).mp hout) (hclean fault)
  | ok out =>
    obtain ⟨c, rfl⟩ := exists_skeleton_of_resolveProducts hs hout
    rw [resolveProducts_skeleton hf] at hout
    cases hvalues : c.resolve? with
    | none => simp [hvalues, orOverflow, Except.map] at hout
    | some values =>
      rw [hvalues] at hout
      exact ⟨c, values, rfl, hvalues, hout.symm ▸ rfl⟩

end HiddenEquation.Arithmetic
