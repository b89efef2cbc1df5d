import HiddenEquation.Arithmetic.Evaluate
import HiddenEquation.Proofs.Arithmetic.Lexemes

/-!
# The scan over products

The first scan of an evaluation replaces every product and quotient by its value and leaves signs,
sums and differences as they are. It does not ask whether a term stands on both sides of every
remaining operator; that is found out by the second scan. So what the first scan accepts is more
general than an expression: a *skeleton* is a chain of places with sums and differences between
them, where a place holds a term or is empty.

## Main definitions

* `orOverflow` : a result, or the fault that it does not fit.
* `Skeleton` : a chain of places that hold at most one term each.
* `Skeleton.lexemes`, `Skeleton.resolve?` : how a skeleton is written, and the values of its places.

## Main results

* `resolveProducts_skeleton` : the scan replaces each term of a skeleton by its value.
* `exists_skeleton_of_resolveProducts` : whatever the scan accepts is a skeleton.
-/

namespace HiddenEquation

open Arithmetic

namespace Arithmetic

/-- A result, or the fault that it does not fit. -/
def orOverflow {α : Type} : Option α → Except Fault α
  | some a => .ok a
  | none => .error .overflow

theorem orOverflow_bind {α β : Type} (a? : Option α) (f : α → Option β) :
    orOverflow (a?.bind f) = (orOverflow a?).bind fun a => orOverflow (f a) := by
  cases a? <;> rfl

theorem checked_eq (n : Int) : checked n = orOverflow (fit? n) := by
  rw [checked, fit?]
  split <;> rfl

end Arithmetic

/-- An operation gives its exact result if it fits. The sentinel always does. -/
theorem Operator.apply_eq (o : Operator) (left right : Int) :
    o.apply left right = orOverflow (fit? (o.exact left right)) := by
  cases o with
  | add => exact checked_eq _
  | sub => exact checked_eq _
  | mul => exact checked_eq _
  | div =>
    simp only [apply, exact]
    split
    · decide
    · exact checked_eq _

namespace Arithmetic

/-! ### Skeletons -/

/-- The lexemes of a term. -/
def Term.lexemes (t : Term) : List Lexeme :=
  t.spell .operator fun n => [.numeral n]

/-- A chain of places, each of which holds a term or is empty. -/
abbrev Skeleton := Chain false (Option Term)

namespace Skeleton

/-- The lexemes of a place. -/
def placeLexemes (place : Option Term) : List Lexeme := place.elim [] Term.lexemes

/-- The lexemes of a skeleton. -/
def lexemes (c : Skeleton) : List Lexeme := c.spell .operator placeLexemes

/-- The value of a place; an empty place stays empty. -/
def resolvePlace? : Option Term → Option (Option Int)
  | none => some none
  | some t => t.value?.map some

/-- The values of the places behind the operators. -/
def resolveRest? : List (OperatorOf false × Option Term) →
    Option (List (OperatorOf false × Option Int))
  | [] => some []
  | (o, place) :: rest => do
    let value ← resolvePlace? place
    let values ← resolveRest? rest
    return (o, value) :: values

/-- The values of all places, if every term has one. -/
def resolve? (c : Skeleton) : Option (Chain false (Option Int)) := do
  let first ← resolvePlace? c.first
  let rest ← resolveRest? c.rest
  return ⟨first, rest⟩

end Skeleton

/-- The tokens of a place that holds a value or is empty. -/
def placeTokens (place : Option Int) : List Token := place.elim [] fun n => [.number n]

/-! ### What the scan makes of a skeleton -/

theorem resolveProducts_loose (passed : List Token) (o : OperatorOf false) (rest : List Token) :
    resolveProducts passed (.operator o.1 :: rest) =
      resolveProducts (.operator o.1 :: passed) rest := by
  refine (resolveProducts.eq_def _ _).trans ?_
  simp only [o.2, Bool.false_eq_true, if_false]

theorem resolveProducts_tight (left : Int) (earlier : List Token) (o : OperatorOf true)
    (right : Int) (rest : List Token) :
    resolveProducts (.number left :: earlier) (.operator o.1 :: .number right :: rest) =
      (o.1.apply left right).bind fun value =>
        resolveProducts (.number value :: earlier) rest := by
  rw [resolveProducts, if_pos o.2]
  rfl

/-- A product needs a number on either side. -/
theorem resolveProducts_missing (passed : List Token) (o : OperatorOf true) (rest : List Token)
    (h : ∀ left earlier right later, passed = .number left :: earlier →
      rest = .number right :: later → False) :
    resolveProducts passed (.operator o.1 :: rest) = .error .missingOperand := by
  rw [resolveProducts.eq_4 passed o.1 rest h, if_pos o.2]

/-- The factors of a term are multiplied into the number in front of them. -/
theorem resolveProducts_factors (earlier rest : List Token)
    {factors : List (OperatorOf true × Numeral)} (hf : ∀ f ∈ factors, InRange f.2.value)
    (left : Int) :
    resolveProducts (.number left :: earlier)
        ((Chain.spellRest .operator (fun n => [.numeral n]) factors).map Lexeme.token ++ rest) =
      (orOverflow (Chain.carryOn Numeral.value? left factors)).bind fun value =>
        resolveProducts (.number value :: earlier) rest := by
  induction factors generalizing left with
  | nil => rfl
  | cons link factors ih =>
    obtain ⟨o, n⟩ := link
    have hn : n.value? = some (n.value : Int) :=
      Numeral.value?_eq_some_iff.mpr ⟨hf (o, n) List.mem_cons_self, rfl⟩
    have hstep : Chain.carryOn Numeral.value? left ((o, n) :: factors) =
        (fit? (o.1.exact left n.value)).bind fun v => Chain.carryOn Numeral.value? v factors := by
      simp [Chain.carryOn, hn]
    rw [hstep, orOverflow_bind, ← Operator.apply_eq]
    refine (resolveProducts_tight left earlier o n.value _).trans ?_
    cases o.1.apply left n.value with
    | error fault => rfl
    | ok value => exact ih (fun f hf' => hf f (List.mem_cons_of_mem _ hf')) value

theorem allFit_factors {factors : List (OperatorOf true × Numeral)} :
    AllFit (Chain.spellRest .operator (fun n => [.numeral n]) factors) ↔
      ∀ f ∈ factors, InRange f.2.value := by
  induction factors with
  | nil => simp [AllFit]
  | cons link factors ih =>
    rw [Chain.spellRest_cons, allFit_cons, List.singleton_append, allFit_cons, ih]
    simp [Lexeme.Fits]

/-- A term is replaced by its value. -/
theorem resolveProducts_term (passed rest : List Token) {t : Term} (hf : AllFit t.lexemes) :
    resolveProducts passed (t.lexemes.map Lexeme.token ++ rest) =
      (orOverflow t.value?).bind fun value => resolveProducts (.number value :: passed) rest := by
  obtain ⟨hn, hfactors⟩ := allFit_cons.mp hf
  have hvalue : t.value? = Chain.carryOn Numeral.value? t.first.value t.rest := by
    simp [Term.value?, Numeral.value?_eq_some_iff.mpr ⟨hn, rfl⟩]
  rw [hvalue]
  exact resolveProducts_factors passed rest (allFit_factors.mp hfactors) t.first.value

/-- A place is replaced by its value, and an empty place leaves nothing. -/
theorem resolveProducts_place (passed rest : List Token) {place : Option Term}
    (hf : AllFit (Skeleton.placeLexemes place)) :
    resolveProducts passed ((Skeleton.placeLexemes place).map Lexeme.token ++ rest) =
      (orOverflow (Skeleton.resolvePlace? place)).bind fun value =>
        resolveProducts (placeTokens value ++ passed) rest := by
  cases place with
  | none => rfl
  | some t =>
    refine (resolveProducts_term passed rest hf).trans ?_
    simp only [Skeleton.resolvePlace?]
    cases t.value? <;> rfl

theorem reverse_placeTokens (place : Option Int) :
    (placeTokens place).reverse = placeTokens place := by
  cases place <;> rfl

/-- The places behind the operators are replaced by their values. -/
theorem resolveProducts_rest (passed : List Token) {rest : List (OperatorOf false × Option Term)}
    (hf : AllFit (Chain.spellRest .operator Skeleton.placeLexemes rest)) :
    resolveProducts passed
        ((Chain.spellRest .operator Skeleton.placeLexemes rest).map Lexeme.token) =
      (orOverflow (Skeleton.resolveRest? rest)).map fun values =>
        passed.reverse ++ Chain.spellRest .operator placeTokens values := by
  induction rest generalizing passed with
  | nil => simp [resolveProducts, Skeleton.resolveRest?, orOverflow, Except.map]
  | cons link rest ih =>
    obtain ⟨o, place⟩ := link
    obtain ⟨-, hf⟩ := allFit_cons.mp hf
    obtain ⟨hplace, hrest⟩ := allFit_append.mp hf
    rw [Chain.spellRest_cons, List.map_cons, List.map_append]
    refine (resolveProducts_loose passed o _).trans ?_
    rw [resolveProducts_place _ _ hplace]
    simp only [Skeleton.resolveRest?, Option.bind_eq_bind, orOverflow_bind]
    cases Skeleton.resolvePlace? place with
    | none => rfl
    | some value =>
      refine (ih _ hrest).trans ?_
      simp only [orOverflow]
      cases Skeleton.resolveRest? rest with
      | none => rfl
      | some values => simp [Except.map, Except.bind, reverse_placeTokens]

/-- The scan replaces each term of a skeleton by its value. -/
theorem resolveProducts_skeleton {c : Skeleton} (hf : AllFit c.lexemes) :
    resolveProducts [] (c.lexemes.map Lexeme.token) =
      (orOverflow c.resolve?).map fun values => values.spell .operator placeTokens := by
  obtain ⟨hplace, hrest⟩ := allFit_append.mp hf
  rw [Skeleton.lexemes, Chain.spell, List.map_append, resolveProducts_place _ _ hplace]
  simp only [Skeleton.resolve?, Option.bind_eq_bind, orOverflow_bind]
  cases Skeleton.resolvePlace? c.first with
  | none => rfl
  | some value =>
    refine (resolveProducts_rest _ hrest).trans ?_
    simp only [orOverflow]
    cases Skeleton.resolveRest? c.rest with
    | none => rfl
    | some values => simp [Except.map, Except.bind, reverse_placeTokens, Chain.spell]

/-! ### Whatever the scan accepts is a skeleton -/

/-- Whether the token passed last is a number. -/
def EndsInNumber (passed : List Token) : Prop := ∃ n earlier, passed = .number n :: earlier

theorem not_endsInNumber_operator {o : Operator} {passed : List Token} :
    ¬EndsInNumber (.operator o :: passed) := by
  rintro ⟨n, earlier, h⟩
  cases h

theorem exists_numeral_of_map_token {lexemes : List Lexeme} {v : Int} {tokens : List Token}
    (h : lexemes.map Lexeme.token = .number v :: tokens) :
    ∃ n ls, lexemes = .numeral n :: ls ∧ ls.map Lexeme.token = tokens := by
  obtain ⟨l, ls, rfl, hl, hls⟩ := List.map_eq_cons_iff.mp h
  cases l with
  | numeral n => exact ⟨n, ls, rfl, hls⟩
  | operator o => cases hl

theorem exists_operator_of_map_token {lexemes : List Lexeme} {o : Operator} {tokens : List Token}
    (h : lexemes.map Lexeme.token = .operator o :: tokens) :
    ∃ ls, lexemes = .operator o :: ls ∧ ls.map Lexeme.token = tokens := by
  obtain ⟨l, ls, rfl, hl, hls⟩ := List.map_eq_cons_iff.mp h
  cases l with
  | numeral n => cases hl
  | operator o' =>
    obtain rfl : o' = o := Token.operator.inj hl
    exact ⟨ls, rfl, hls⟩

/-- No numeral follows a numeral. -/
theorem Separated.not_numeral {n : Numeral} {ls : List Lexeme} (hs : Separated (.numeral n :: ls)) :
    ∀ m rest, ls ≠ .numeral m :: rest := by
  rintro m rest rfl
  simp [Separated, Lexeme.isNumeral] at hs

/-- The rest of a row that the scan accepts. Behind a number come the remaining factors of its term;
elsewhere a new place begins. Either way, operators that bind loosely and further places follow. -/
private theorem exists_places (passed found : List Token) {lexemes : List Lexeme}
    {out : List Token} (htokens : lexemes.map Lexeme.token = found) (hs : Separated lexemes)
    (hout : resolveProducts passed found = .ok out) :
    (EndsInNumber passed → (∀ n rest, lexemes ≠ .numeral n :: rest) →
      ∃ (factors : List (OperatorOf true × Numeral)) (rest : List (OperatorOf false × Option Term)),
        lexemes = Chain.spellRest .operator (fun n => [.numeral n]) factors ++
          Chain.spellRest .operator Skeleton.placeLexemes rest) ∧
    (¬EndsInNumber passed → ∃ c : Skeleton, lexemes = c.lexemes) := by
  induction passed, found using resolveProducts.induct generalizing lexemes with
  | case1 passed =>
    obtain rfl := List.map_eq_nil_iff.mp htokens
    exact ⟨fun _ _ => ⟨[], [], rfl⟩, fun _ => ⟨⟨none, []⟩, rfl⟩⟩
  | case2 passed n rest ih =>
    obtain ⟨m, ls, rfl, hls⟩ := exists_numeral_of_map_token htokens
    refine ⟨fun _ hno => absurd rfl (hno m ls), fun _ => ?_⟩
    obtain ⟨factors, rest, rfl⟩ := (ih hls hs.tail hout).1 ⟨n, passed, rfl⟩ hs.not_numeral
    exact ⟨⟨some ⟨m, factors⟩, rest⟩, rfl⟩
  | case3 o ho left earlier right rest ih =>
    obtain ⟨ls, rfl, hls⟩ := exists_operator_of_map_token htokens
    obtain ⟨m, ls', rfl, hls'⟩ := exists_numeral_of_map_token hls
    refine ⟨fun _ _ => ?_, fun hend => absurd ⟨left, earlier, rfl⟩ hend⟩
    have htail := separated_operator_cons.mp hs
    rw [resolveProducts_tight left earlier ⟨o, ho⟩ right rest] at hout
    cases hvalue : o.apply left right with
    | error fault => simp [hvalue, Except.bind] at hout
    | ok value =>
      rw [hvalue] at hout
      obtain ⟨factors, rest, rfl⟩ :=
        (ih value hls' htail.tail hout).1 ⟨value, earlier, rfl⟩ htail.not_numeral
      exact ⟨(⟨o, ho⟩, m) :: factors, rest, rfl⟩
  | case4 passed o rest ho hno =>
    rw [resolveProducts_missing passed ⟨o, ho⟩ rest hno] at hout
    cases hout
  | case5 passed o rest ho ih =>
    obtain ⟨ls, rfl, hls⟩ := exists_operator_of_map_token htokens
    have ho' : o.bindsTightly = false := by simpa using ho
    have hrest := (resolveProducts_loose passed ⟨o, ho'⟩ rest).symm.trans hout
    obtain ⟨c, rfl⟩ := (ih hls (separated_operator_cons.mp hs) hrest).2 not_endsInNumber_operator
    exact ⟨fun _ _ => ⟨[], (⟨o, ho'⟩, c.first) :: c.rest, rfl⟩,
      fun _ => ⟨⟨none, (⟨o, ho'⟩, c.first) :: c.rest⟩, rfl⟩⟩

/-- Whatever the scan accepts is a skeleton. -/
theorem exists_skeleton_of_resolveProducts {lexemes : List Lexeme} {out : List Token}
    (hs : Separated lexemes) (hout : resolveProducts [] (lexemes.map Lexeme.token) = .ok out) :
    ∃ c : Skeleton, lexemes = c.lexemes :=
  (exists_places [] _ rfl hs hout).2 fun ⟨_, _, h⟩ => by cases h

end Arithmetic

end HiddenEquation
