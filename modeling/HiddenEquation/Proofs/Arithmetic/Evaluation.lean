import HiddenEquation.Proofs.Arithmetic.Products

/-!
# Evaluation agrees with the grammar

The second scan of an evaluation sums what the first one leaves. It finds out whether every operator
has a term on both sides, except that one sign may lead. Together the two scans accept exactly the
words of the grammar whose values fit, and they compute these values.

## Main definitions

* `Expression.skeleton`, `Expression.lexemes` : a derivation as a skeleton, and as lexemes.
* `visible` : the characters of a text that are not blank.

## Main results

* `scans_skeleton_eq_ok_iff` : the skeletons that both scans accept are those of derivations.
* `evaluate_eq_ok_iff_value?` : the value of a text that the grammar derives.
* `evaluate_eq_ok_iff_derived` : evaluation accepts the words of the grammar, and no others.
-/

namespace HiddenEquation.Arithmetic

/-! ### The scan over sums -/

/-- A value with a sign in front of it, if it fits. -/
def signed? : OperatorOf false → Int → Option Int
  | ⟨.sub, _⟩, n => fit? (-n)
  | _, n => some n

/-- The sum over places that hold values or are empty. Only the first place may be empty, and only
if an operator with a value behind it follows. -/
def sumPlaces? : Chain false (Option Int) → Option Int
  | ⟨some n, rest⟩ => Chain.carryOn id n rest
  | ⟨none, (o, some n) :: rest⟩ => do
    let start ← signed? o n
    Chain.carryOn id start rest
  | ⟨none, _⟩ => none

theorem addTerms_empty_place (total v : Int) (o : OperatorOf false)
    (rest : List (OperatorOf false × Option Int)) :
    addTerms total (.operator o.1 :: Chain.spellRest .operator placeTokens rest) ≠ .ok v := by
  cases rest <;> simp [addTerms]

theorem addTerms_eq_ok_iff (total v : Int) (rest : List (OperatorOf false × Option Int)) :
    addTerms total (Chain.spellRest .operator placeTokens rest) = .ok v ↔
      Chain.carryOn id total rest = some v := by
  induction rest generalizing total with
  | nil => simp [addTerms, Chain.carryOn]
  | cons link rest ih =>
    obtain ⟨o, place⟩ := link
    cases place with
    | none =>
      refine iff_of_false (addTerms_empty_place total v o rest) ?_
      simp [Chain.carryOn]
    | some n =>
      change (o.1.apply total n).bind (fun t => addTerms t _) = .ok v ↔ _
      rw [Operator.apply_eq]
      simp only [Chain.carryOn, id, Option.bind_eq_bind, Option.bind_some]
      cases fit? (o.1.exact total n) with
      | none => simp [orOverflow, Except.bind]
      | some t => exact ih t

theorem resolveSums_eq_ok_iff (places : Chain false (Option Int)) (v : Int) :
    resolveSums (places.spell .operator placeTokens) = .ok v ↔ sumPlaces? places = some v := by
  obtain ⟨first, rest⟩ := places
  cases first with
  | some n => exact addTerms_eq_ok_iff n v rest
  | none =>
    cases rest with
    | nil => simp [resolveSums, sumPlaces?, Chain.spell, placeTokens]
    | cons link rest =>
      obtain ⟨⟨o, ho⟩, place⟩ := link
      cases place with
      | none =>
        cases o <;> cases rest <;> simp [resolveSums, sumPlaces?, Chain.spell, placeTokens]
      | some n =>
        cases o with
        | add => exact addTerms_eq_ok_iff n v rest
        | sub =>
          change (checked (-n)).bind (fun t => addTerms t _) = .ok v ↔ _
          rw [checked_eq]
          simp only [sumPlaces?, signed?, Option.bind_eq_bind]
          cases fit? (-n) with
          | none => simp [orOverflow, Except.bind]
          | some start => exact addTerms_eq_ok_iff start v rest
        | mul => cases ho
        | div => cases ho

/-! ### Derivations as skeletons -/

/-- A derivation as a skeleton. A sign stands behind an empty place. -/
def Expression.skeleton (e : Expression) : Skeleton :=
  let behind := e.terms.rest.map fun link => (link.1, some link.2)
  match e.sign with
  | none => ⟨some e.terms.first, behind⟩
  | some o => ⟨none, (o, some e.terms.first) :: behind⟩

/-- The lexemes of a derivation. -/
def Expression.lexemes (e : Expression) : List Lexeme := e.skeleton.lexemes

theorem Chain.flatMap_spell {α β γ : Type} {tight : Bool} (sign : Operator → β)
    (piece : α → List β) (f : β → List γ) (sign' : Operator → γ) (piece' : α → List γ)
    (hsign : ∀ o, f (sign o) = [sign' o]) (hpiece : ∀ a, (piece a).flatMap f = piece' a)
    (c : Chain tight α) : (c.spell sign piece).flatMap f = c.spell sign' piece' := by
  obtain ⟨first, rest⟩ := c
  simp only [spell, List.flatMap_append, hpiece]
  congr 1
  induction rest with
  | nil => rfl
  | cons link rest ih =>
    rw [spellRest_cons, spellRest_cons, List.flatMap_cons, List.flatMap_append, hsign, hpiece, ih]
    rfl

theorem Term.flatMap_word_lexemes (t : Term) : t.lexemes.flatMap Lexeme.word = t.word :=
  Chain.flatMap_spell Lexeme.operator (fun n => [.numeral n]) Lexeme.word Operator.toChar
    Numeral.digits (fun _ => rfl) (fun n => by simp [Lexeme.word]) t

theorem Expression.lexemes_eq (e : Expression) :
    e.lexemes = (e.sign.toList.map fun o => .operator o.1) ++
      e.terms.spell .operator Term.lexemes := by
  obtain ⟨sign, first, rest⟩ := e
  cases sign <;>
    simp [lexemes, skeleton, Skeleton.lexemes, Chain.spell, Chain.spellRest,
      Skeleton.placeLexemes, List.flatMap_map]

/-- The lexemes of a derivation write its word. -/
theorem Expression.flatMap_word_lexemes (e : Expression) :
    e.lexemes.flatMap Lexeme.word = e.word := by
  have hterms : (e.terms.spell Lexeme.operator Term.lexemes).flatMap Lexeme.word =
      e.terms.spell Operator.toChar Term.word :=
    Chain.flatMap_spell Lexeme.operator Term.lexemes Lexeme.word Operator.toChar Term.word
      (fun _ => rfl) Term.flatMap_word_lexemes e.terms
  rw [lexemes_eq, List.flatMap_append, hterms, word]
  cases e.sign <;> rfl

theorem separated_spellRest {α : Type} {tight : Bool} {piece : α → List Lexeme}
    (hpiece : ∀ a, Separated (piece a)) :
    ∀ (before : List Lexeme) (rest : List (OperatorOf tight × α)), Separated before →
      Separated (before ++ Chain.spellRest .operator piece rest)
  | before, [], hb => by simpa using hb
  | before, link :: rest, hb => by
    rw [Chain.spellRest_cons, separated_append_operator_cons]
    exact ⟨hb, separated_spellRest hpiece _ rest (hpiece link.2)⟩

theorem Term.separated_lexemes (t : Term) : Separated t.lexemes :=
  separated_spellRest (fun _ => by simp [Separated]) _ _ (by simp [Separated])

theorem Skeleton.separated_lexemes (c : Skeleton) : Separated c.lexemes := by
  have hplace : ∀ place : Option Term, Separated (placeLexemes place) := by
    rintro (_ | t)
    · simp [placeLexemes, Separated]
    · exact t.separated_lexemes
  exact separated_spellRest hplace _ _ (hplace _)

/-! ### Both scans on a skeleton -/

/-- The places behind the operators can be summed exactly if each of them holds a term. -/
theorem carryOn_resolveRest?_eq_some_iff (total v : Int)
    (rest : List (OperatorOf false × Option Term)) :
    (Skeleton.resolveRest? rest).bind (Chain.carryOn id total) = some v ↔
      ∃ terms : List (OperatorOf false × Term),
        (terms.map fun link => (link.1, some link.2)) = rest ∧
          Chain.carryOn Term.value? total terms = some v := by
  induction rest generalizing total with
  | nil => simp [Skeleton.resolveRest?, Chain.carryOn]
  | cons link rest ih =>
    obtain ⟨o, place⟩ := link
    cases place with
    | none =>
      refine iff_of_false ?_ ?_
      · rw [Skeleton.resolveRest?, Skeleton.resolvePlace?]
        cases Skeleton.resolveRest? rest <;> simp [Chain.carryOn]
      · rintro ⟨_ | ⟨link, terms⟩, hterms, -⟩ <;> simp at hterms
    | some t =>
      have hstep : (Skeleton.resolveRest? ((o, some t) :: rest)).bind (Chain.carryOn id total) =
          t.value?.bind fun right => (fit? (o.1.exact total right)).bind fun left =>
            (Skeleton.resolveRest? rest).bind (Chain.carryOn id left) := by
        rw [Skeleton.resolveRest?, Skeleton.resolvePlace?]
        cases t.value? <;> cases Skeleton.resolveRest? rest <;> simp [Chain.carryOn]
      simp only [hstep, Option.bind_eq_some_iff, ih]
      constructor
      · rintro ⟨right, hright, left, hleft, terms, rfl, hv⟩
        exact ⟨(o, t) :: terms, rfl, by simp [Chain.carryOn, hright, hleft, hv]⟩
      · rintro ⟨_ | ⟨⟨o', t'⟩, terms⟩, hterms, hv⟩
        · cases hterms
        · obtain ⟨⟨rfl, rfl⟩, rfl⟩ : (o' = o ∧ t' = t) ∧ _ = rest := by simpa using hterms
          simp only [Chain.carryOn, Option.bind_eq_bind, Option.bind_eq_some_iff] at hv
          obtain ⟨right, hright, left, hleft, hv⟩ := hv
          exact ⟨right, hright, left, hleft, terms, rfl, hv⟩

theorem signed?_eq (o : OperatorOf false) {n : Int} (hn : 0 ≤ n ∧ InRange n) :
    signed? o n = some (signed (some o) n) := by
  obtain ⟨o, ho⟩ := o
  have hfit : InRange (-n) := by
    simp only [InRange, smallest, largest] at hn ⊢
    omega
  cases o with
  | add => rfl
  | sub => simp [signed?, signed, fit?, hfit]
  | mul => cases ho
  | div => cases ho

theorem sum_of_term_first (t : Term) (rest : List (OperatorOf false × Option Term)) (v : Int) :
    (Skeleton.resolve? ⟨some t, rest⟩).bind sumPlaces? = some v ↔
      ∃ terms : List (OperatorOf false × Term),
        (terms.map fun link => (link.1, some link.2)) = rest ∧
          Expression.value? ⟨none, t, terms⟩ = some v := by
  have hsum : (Skeleton.resolve? ⟨some t, rest⟩).bind sumPlaces? =
      t.value?.bind fun n => (Skeleton.resolveRest? rest).bind (Chain.carryOn id n) := by
    simp only [Skeleton.resolve?, Skeleton.resolvePlace?]
    cases t.value? <;> cases Skeleton.resolveRest? rest <;> simp [sumPlaces?]
  rw [hsum]
  cases ht : t.value? with
  | none => simp [Expression.value?, ht]
  | some n =>
    simp only [Option.bind_some, carryOn_resolveRest?_eq_some_iff, Expression.value?, ht, signed,
      Option.bind_eq_bind]

theorem sum_of_sign_first (o : OperatorOf false) (t : Term)
    (rest : List (OperatorOf false × Option Term)) (v : Int) :
    (Skeleton.resolve? ⟨none, (o, some t) :: rest⟩).bind sumPlaces? = some v ↔
      ∃ terms : List (OperatorOf false × Term),
        (terms.map fun link => (link.1, some link.2)) = rest ∧
          Expression.value? ⟨some o, t, terms⟩ = some v := by
  have hsum : (Skeleton.resolve? ⟨none, (o, some t) :: rest⟩).bind sumPlaces? =
      t.value?.bind fun n => (signed? o n).bind fun start =>
        (Skeleton.resolveRest? rest).bind (Chain.carryOn id start) := by
    simp only [Skeleton.resolve?, Skeleton.resolvePlace?, Skeleton.resolveRest?]
    cases t.value? <;> cases Skeleton.resolveRest? rest <;> simp [sumPlaces?]
  rw [hsum]
  cases ht : t.value? with
  | none => simp [Expression.value?, ht]
  | some n =>
    simp only [Option.bind_some, signed?_eq o (Term.value?_nonneg ht),
      carryOn_resolveRest?_eq_some_iff, Expression.value?, ht, Option.bind_eq_bind]

theorem sum_of_empty_first {rest : List (OperatorOf false × Option Term)}
    (hrest : ∀ o t tail, rest ≠ (o, some t) :: tail) (v : Int) :
    (Skeleton.resolve? ⟨none, rest⟩).bind sumPlaces? ≠ some v := by
  simp only [Skeleton.resolve?, Skeleton.resolvePlace?]
  obtain _ | ⟨⟨o, _ | t⟩, tail⟩ := rest
  · simp [Skeleton.resolveRest?, sumPlaces?]
  · simp only [Skeleton.resolveRest?, Skeleton.resolvePlace?]
    cases Skeleton.resolveRest? tail <;> simp [sumPlaces?]
  · exact absurd rfl (hrest o t tail)

/-- Both scans accept a skeleton exactly if it is that of a derivation whose value fits, and then
they find this value. -/
theorem scans_skeleton_eq_ok_iff {c : Skeleton} (hf : AllFit c.lexemes) (v : Int) :
    (resolveProducts [] (c.lexemes.map Lexeme.token)).bind resolveSums = .ok v ↔
      ∃ e : Expression, e.skeleton = c ∧ e.value? = some v := by
  have hscans : (resolveProducts [] (c.lexemes.map Lexeme.token)).bind resolveSums = .ok v ↔
      c.resolve?.bind sumPlaces? = some v := by
    rw [resolveProducts_skeleton hf]
    cases c.resolve? with
    | none => simp [orOverflow, Except.map, Except.bind]
    | some places => exact resolveSums_eq_ok_iff places v
  rw [hscans]
  obtain ⟨_ | t, rest⟩ := c
  · by_cases hrest : ∃ o t tail, rest = (o, some t) :: tail
    · obtain ⟨o, t, tail, rfl⟩ := hrest
      rw [sum_of_sign_first]
      constructor
      · rintro ⟨terms, rfl, hv⟩
        exact ⟨⟨some o, t, terms⟩, rfl, hv⟩
      · rintro ⟨⟨_ | o', t', terms⟩, he, hv⟩ <;> cases he
        exact ⟨terms, rfl, hv⟩
    · refine iff_of_false (sum_of_empty_first (fun o t tail h => hrest ⟨o, t, tail, h⟩) v) ?_
      rintro ⟨⟨_ | o, t, terms⟩, he, -⟩ <;> cases he
      exact hrest ⟨o, t, _, rfl⟩
  · rw [sum_of_term_first]
    constructor
    · rintro ⟨terms, rfl, hv⟩
      exact ⟨⟨none, t, terms⟩, rfl, hv⟩
    · rintro ⟨⟨_ | o, t', terms⟩, he, hv⟩ <;> cases he
      exact ⟨terms, rfl, hv⟩

/-! ### Derivations with a value fit -/

theorem Chain.isSome_of_carryOn {α : Type} {tight : Bool} {value? : α → Option Int} {start v : Int}
    {rest : List (OperatorOf tight × α)} (h : carryOn value? start rest = some v) :
    ∀ link ∈ rest, ∃ n, value? link.2 = some n := by
  induction rest generalizing start with
  | nil => simp
  | cons link rest ih =>
    simp only [carryOn, Option.bind_eq_bind, Option.bind_eq_some_iff] at h
    obtain ⟨right, hright, left, -, h⟩ := h
    exact List.forall_mem_cons.mpr ⟨⟨right, hright⟩, ih h⟩

theorem Term.allFit_of_value? {t : Term} {v : Int} (h : t.value? = some v) : AllFit t.lexemes := by
  obtain ⟨start, hstart, h⟩ := Option.bind_eq_some_iff.mp h
  refine allFit_cons.mpr ⟨(Numeral.value?_eq_some_iff.mp hstart).1, allFit_factors.mpr ?_⟩
  intro f hf
  obtain ⟨n, hn⟩ := Chain.isSome_of_carryOn h f hf
  exact (Numeral.value?_eq_some_iff.mp hn).1

theorem allFit_spellRest {α : Type} {tight : Bool} {piece : α → List Lexeme}
    {rest : List (OperatorOf tight × α)} (h : ∀ link ∈ rest, AllFit (piece link.2)) :
    AllFit (Chain.spellRest .operator piece rest) := by
  induction rest with
  | nil => simp [AllFit]
  | cons link rest ih =>
    obtain ⟨hlink, hrest⟩ := List.forall_mem_cons.mp h
    exact allFit_cons.mpr ⟨trivial, allFit_append.mpr ⟨hlink, ih hrest⟩⟩

/-- Every numeral of a derivation that has a value fits. -/
theorem Expression.allFit_of_value? {e : Expression} {v : Int} (h : e.value? = some v) :
    AllFit e.lexemes := by
  obtain ⟨start, hstart, h⟩ := Option.bind_eq_some_iff.mp h
  rw [lexemes_eq]
  refine allFit_append.mpr ⟨?_, allFit_append.mpr ⟨Term.allFit_of_value? hstart, ?_⟩⟩
  · cases e.sign <;> simp [AllFit, Lexeme.Fits]
  · refine allFit_spellRest fun link hlink => ?_
    obtain ⟨n, hn⟩ := Chain.isSome_of_carryOn h link hlink
    exact Term.allFit_of_value? hn

/-! ### Evaluation of a text -/

/-- The characters of a text that are not blank. -/
def visible (text : String) : List Char := text.toList.filter fun c => !Text.isBlank c

theorem evaluate_eq_ok_iff_scans {expression : String} {v : Int} :
    evaluate expression = .ok v ↔ ∃ found, scan none (visible expression) = .ok found ∧
      found ≠ [] ∧ (resolveProducts [] found).bind resolveSums = .ok v := by
  have hevaluate : evaluate expression = (scan none (visible expression)).bind fun found =>
      (if found.isEmpty then .error .empty else .ok found : Except Fault (List Token)).bind
        fun found => (resolveProducts [] found).bind resolveSums := by
    rw [evaluate, tokens, ← visible]
    cases scan none (visible expression) <;> rfl
  rw [hevaluate]
  cases scan none (visible expression) with
  | error fault => simp [Except.bind]
  | ok found => cases found <;> simp [Except.bind]

theorem Expression.skeleton_injective : Function.Injective Expression.skeleton := by
  have hplaces : Function.Injective
      fun link : OperatorOf false × Term => (link.1, some link.2) := by
    rintro ⟨o, t⟩ ⟨o', t'⟩ h
    simpa using h
  rintro ⟨_ | o, first, rest⟩ ⟨_ | o', first', rest'⟩ h
  · obtain ⟨rfl, hrest⟩ : first = first' ∧ _ := by simpa [skeleton] using h
    rw [List.map_injective_iff.mpr hplaces hrest]
  · cases h
  · cases h
  · obtain ⟨⟨rfl, rfl⟩, hrest⟩ : (o = o' ∧ first = first') ∧ _ := by simpa [skeleton] using h
    rw [List.map_injective_iff.mpr hplaces hrest]

theorem Expression.lexemes_ne_nil (e : Expression) : e.lexemes ≠ [] := by
  rw [lexemes_eq]
  exact List.append_ne_nil_of_right_ne_nil _ (by simp [Chain.spell, Term.lexemes])

/-- A text that the grammar derives has the value of its derivation, if it fits. -/
theorem evaluate_eq_ok_iff_value? {expression : String} {e : Expression}
    (he : e.word = visible expression) (v : Int) :
    evaluate expression = .ok v ↔ e.value? = some v := by
  have hs : Separated e.lexemes := e.skeleton.separated_lexemes
  rw [evaluate_eq_ok_iff_scans, ← he, ← e.flatMap_word_lexemes]
  constructor
  · rintro ⟨found, hfound, -, hv⟩
    have hf : AllFit e.lexemes := by
      by_contra hf
      rw [scan_word_overflow hs hf] at hfound
      cases hfound
    obtain rfl := Except.ok.inj ((scan_word hs hf).symm.trans hfound)
    obtain ⟨e', he', hv'⟩ := (scans_skeleton_eq_ok_iff hf v).mp hv
    rwa [Expression.skeleton_injective he'] at hv'
  · intro hv
    have hf := Expression.allFit_of_value? hv
    refine ⟨_, scan_word hs hf, ?_, (scans_skeleton_eq_ok_iff hf v).mpr ⟨e, rfl, hv⟩⟩
    simpa using e.lexemes_ne_nil

/-- The grammar derives every text that has a value. -/
theorem exists_expression_of_evaluate {expression : String} {v : Int}
    (h : evaluate expression = .ok v) : ∃ e : Expression, e.word = visible expression := by
  obtain ⟨found, hfound, -, hv⟩ := evaluate_eq_ok_iff_scans.mp h
  obtain ⟨lexemes, hs, hf, hword, rfl⟩ := reads_of_scan hfound
  cases hout : resolveProducts [] (lexemes.map Lexeme.token) with
  | error fault => simp [hout, Except.bind] at hv
  | ok out =>
    obtain ⟨c, rfl⟩ := exists_skeleton_of_resolveProducts hs hout
    obtain ⟨e, rfl, -⟩ := (scans_skeleton_eq_ok_iff hf v).mp hv
    exact ⟨e, e.flatMap_word_lexemes.symm.trans hword⟩

/-- **Evaluation accepts the words of the grammar, and computes their values.** A text has the value
`v` exactly if the grammar derives its visible characters and the derivation has the value `v`;
whichever derivation is taken, its value is the answer. Every other text has a fault. -/
theorem evaluate_eq_ok_iff_derived (expression : String) :
    (∀ v, evaluate expression = .ok v ↔
      ∃ e : Expression, e.word = visible expression ∧ e.value? = some v) ∧
    (∀ e : Expression, e.word = visible expression →
      ∀ v, evaluate expression = .ok v ↔ e.value? = some v) ∧
    ((∃ fault, evaluate expression = .error fault) ↔
      ¬∃ (e : Expression) (v : Int), e.word = visible expression ∧ e.value? = some v) := by
  have hiff (v : Int) : evaluate expression = .ok v ↔
      ∃ e : Expression, e.word = visible expression ∧ e.value? = some v := by
    constructor
    · intro h
      obtain ⟨e, he⟩ := exists_expression_of_evaluate h
      exact ⟨e, he, (evaluate_eq_ok_iff_value? he v).mp h⟩
    · rintro ⟨e, he, hv⟩
      exact (evaluate_eq_ok_iff_value? he v).mpr hv
  refine ⟨hiff, fun e he v => evaluate_eq_ok_iff_value? he v, ?_⟩
  cases h : evaluate expression with
  | error fault =>
    refine iff_of_true ⟨fault, rfl⟩ ?_
    rintro ⟨e, v, he, hv⟩
    rw [(hiff v).mpr ⟨e, he, hv⟩] at h
    cases h
  | ok v =>
    obtain ⟨e, he, hv⟩ := (hiff v).mp h
    refine iff_of_false ?_ fun hnone => hnone ⟨e, v, he, hv⟩
    rintro ⟨fault, hfault⟩
    cases hfault

/-- The sign belongs to the whole first term: the value is that of `-(7 / 2 * 3) + 4`. -/
theorem evaluate_signed_term : evaluate " -7/2*3 + 4" = .ok (-5) := by
  have hvalue : Expression.value? ⟨some ⟨.sub, rfl⟩, ⟨.single '7' rfl,
      [(⟨.div, rfl⟩, .single '2' rfl), (⟨.mul, rfl⟩, .single '3' rfl)]⟩,
      [(⟨.add, rfl⟩, ⟨.single '4' rfl, []⟩)]⟩ = some (-5) := by decide
  exact ((evaluate_eq_ok_iff_derived " -7/2*3 + 4").2.1 _ (by rfl) (-5)).mpr hvalue

end HiddenEquation.Arithmetic
