import HiddenEquation.Proofs.Arithmetic.Evaluation
import Mathlib.Data.List.DropRight

/-!
# Faults of products

The first scan of an evaluation stops at the first operator `*` or `/` that cannot be carried out.
This file says which one that is without the scan, from the lexemes alone. Such an operator is at
fault if no numeral stands in front of it or behind it. It is also at fault if the result leaves the
range: its left side is then the term that ends in front of it, back to the last `+` or `-`, and its
right side is the numeral behind it. Where a `+` or a `-` stands plays no part beyond that, so a
fault of a product is found even if a sum in front of it is at fault.

## Main definitions

* `Leftmost` : the first place of a row at which something is at fault, as a fault.
* `AtTermStart`, `AtTermEnd` : a term can begin behind a row, or end in front of it.
* `ProductFault` : a product or a quotient is at fault, given the lexemes around its operator.

## Main results

* `Term.lexemes_append_inj`, `Term.append_lexemes_inj` : where a term ends and where it begins.
* `resolveProducts_eq_error_iff` : the first scan reports the leftmost fault of a product.
-/

namespace HiddenEquation.Arithmetic

/-! ### The leftmost fault of a row -/

/-- The first place of a row of lexemes at which `At` finds a fault. `At` is told what stands in
front of the place, the lexemes `done` in front of the row included, and what stands behind it. -/
def Leftmost (At : List Lexeme → Lexeme → List Lexeme → Fault → Prop) (done row : List Lexeme)
    (fault : Fault) : Prop :=
  ∃ before l after, row = before ++ l :: after ∧ At (done ++ before) l after fault ∧
    ∀ before' l' after' fault', row = before' ++ l' :: after' → before'.length < before.length →
      ¬At (done ++ before') l' after' fault'

namespace Leftmost

variable {At : List Lexeme → Lexeme → List Lexeme → Fault → Prop} {done row : List Lexeme}
  {l : Lexeme} {fault : Fault}

theorem not_nil : ¬Leftmost At done [] fault := by
  rintro ⟨before, l, after, hrow, -⟩
  simp at hrow

theorem ne_nil (h : Leftmost At done row fault) : row ≠ [] := by
  rintro rfl
  exact not_nil h

/-- A place is the leftmost one at fault, or it is not at fault and the leftmost one is behind. -/
theorem cons_iff : Leftmost At done (l :: row) fault ↔
    At done l row fault ∨
      (∀ fault', ¬At done l row fault') ∧ Leftmost At (done ++ [l]) row fault := by
  constructor
  · rintro ⟨_ | ⟨b, before⟩, l', after, hrow, hat, hclean⟩
    · obtain ⟨rfl, rfl⟩ : l = l' ∧ row = after := by simpa using hrow
      exact Or.inl (by simpa using hat)
    · obtain ⟨rfl, rfl⟩ : l = b ∧ row = before ++ l' :: after := by simpa using hrow
      refine Or.inr ⟨fun fault' h => hclean [] l _ fault' rfl (by simp) (by simpa using h),
        before, l', after, rfl, by simpa using hat, ?_⟩
      intro before' l'' after' fault' h hlt
      simpa using hclean (l :: before') l'' after' fault' (by simp [h]) (by simpa using hlt)
  · rintro (hat | ⟨hclean, before, l', after, rfl, hat, hrest⟩)
    · exact ⟨[], l, row, rfl, by simpa using hat, by simp⟩
    · refine ⟨l :: before, l', after, rfl, by simpa using hat, ?_⟩
      rintro (_ | ⟨b, before'⟩) l'' after' fault' h hlt
      · obtain ⟨rfl, rfl⟩ : l = l'' ∧ _ = after' := by simpa using h
        simpa using hclean fault'
      · obtain ⟨rfl, htail⟩ : l = b ∧ _ = before' ++ l'' :: after' := by simpa using h
        simpa using hrest before' l'' after' fault' htail (by simpa using hlt)

/-- Nothing behind a place at fault matters. -/
theorem cons_of_fault {fault' : Fault} (h : ∀ f, At done l row f ↔ f = fault') :
    Leftmost At done (l :: row) fault ↔ fault = fault' := by
  rw [cons_iff, h]
  refine or_iff_left ?_
  rintro ⟨hclean, -⟩
  exact hclean fault' ((h fault').mpr rfl)

theorem cons_of_clean (h : ∀ f, ¬At done l row f) :
    Leftmost At done (l :: row) fault ↔ Leftmost At (done ++ [l]) row fault := by
  rw [cons_iff, or_iff_right (h fault), and_iff_right h]

/-- Lexemes that are never at fault can be passed over. -/
theorem append_of_clean {clean : List Lexeme}
    (h : ∀ l ∈ clean, ∀ before after f, ¬At before l after f) :
    Leftmost At done (clean ++ row) fault ↔ Leftmost At (done ++ clean) row fault := by
  induction clean generalizing done with
  | nil => simp
  | cons l clean ih =>
    obtain ⟨hl, hclean⟩ := List.forall_mem_cons.mp h
    rw [List.cons_append, cons_of_clean (hl _ _), ih hclean, List.append_assoc,
      List.singleton_append]

end Leftmost

/-! ### Where a term begins and ends -/

/-- Whether a lexeme is a `+` or a `-`. -/
def Lexeme.isLoose : Lexeme → Bool
  | numeral _ => false
  | operator o => !o.bindsTightly

/-- A term can begin behind the row: it is empty or its last lexeme is a `+` or a `-`. -/
def AtTermStart (row : List Lexeme) : Prop := ∀ l ∈ row.getLast?, l.isLoose = true

/-- A term can end in front of the row: it is empty or its first lexeme is a `+` or a `-`. -/
def AtTermEnd (row : List Lexeme) : Prop := ∀ l ∈ row.head?, l.isLoose = true

/-- The last lexeme of a row is a numeral. -/
def EndsInNumeral (row : List Lexeme) : Prop := ∃ earlier n, row = earlier ++ [.numeral n]

/-- The first lexeme of a row is a numeral. -/
def StartsWithNumeral (row : List Lexeme) : Prop := ∃ n later, row = .numeral n :: later

theorem atTermStart_nil : AtTermStart [] := by simp [AtTermStart]

theorem atTermStart_snoc (row : List Lexeme) (o : OperatorOf false) :
    AtTermStart (row ++ [.operator o.1]) := by
  simp [AtTermStart, Lexeme.isLoose, o.2]

theorem AtTermStart.not_endsInNumeral {row : List Lexeme} (h : AtTermStart row) :
    ¬EndsInNumeral row := by
  rintro ⟨earlier, n, rfl⟩
  simp [AtTermStart, Lexeme.isLoose] at h

/-- No numeral follows a numeral. -/
theorem Separated.not_startsWithNumeral {n : Numeral} {row : List Lexeme}
    (hs : Separated (.numeral n :: row)) : ¬StartsWithNumeral row := by
  rintro ⟨m, later, h⟩
  exact hs.not_numeral m later h

theorem Term.isLoose_eq_false {t : Term} : ∀ l ∈ t.lexemes, l.isLoose = false := by
  intro l hl
  rcases List.mem_append.mp hl with hl | hl
  · obtain rfl := List.mem_singleton.mp hl
    rfl
  · obtain ⟨link, -, hl⟩ := List.mem_flatMap.mp hl
    obtain rfl | rfl : l = .operator link.1.1 ∨ l = .numeral link.2 := by simpa using hl
    · simp [Lexeme.isLoose, link.1.2]
    · rfl

/-- A term with one more factor behind it. -/
def Term.snoc (t : Term) (o : OperatorOf true) (n : Numeral) : Term :=
  ⟨t.first, t.rest ++ [(o, n)]⟩

theorem Term.lexemes_snoc (t : Term) (o : OperatorOf true) (n : Numeral) :
    (t.snoc o n).lexemes = t.lexemes ++ [.operator o.1, .numeral n] := by
  simp [Term.lexemes, snoc, Chain.spell, Chain.spellRest]

theorem Term.endsInNumeral_lexemes (t : Term) : EndsInNumeral t.lexemes := by
  obtain ⟨first, rest⟩ := t
  rcases List.eq_nil_or_concat' rest with rfl | ⟨rest, ⟨o, n⟩, rfl⟩
  · exact ⟨[], first, rfl⟩
  · refine ⟨Term.lexemes ⟨first, rest⟩ ++ [.operator o.1], n, ?_⟩
    rw [List.append_assoc]
    exact Term.lexemes_snoc ⟨first, rest⟩ o n

theorem EndsInNumeral.append {row : List Lexeme} (h : EndsInNumeral row) (earlier : List Lexeme) :
    EndsInNumeral (earlier ++ row) := by
  obtain ⟨earlier', n, rfl⟩ := h
  exact ⟨earlier ++ earlier', n, (List.append_assoc ..).symm⟩

theorem Term.lexemes_injective : Function.Injective Term.lexemes := by
  rintro ⟨n, factors⟩ ⟨n', factors'⟩ hterm
  obtain ⟨rfl, h⟩ : n = n' ∧ Chain.spellRest Lexeme.operator (fun n => [Lexeme.numeral n]) factors =
      Chain.spellRest .operator (fun n => [.numeral n]) factors' := by
    simpa [Term.lexemes, Chain.spell] using hterm
  clear hterm
  congr 1
  induction factors generalizing factors' with
  | nil =>
    cases factors' with
    | nil => rfl
    | cons => simp at h
  | cons link factors ih =>
    cases factors' with
    | nil => simp at h
    | cons link' factors' =>
      obtain ⟨ho, hn, hrest⟩ : link.1 = link'.1 ∧ link.2 = link'.2 ∧ _ := by
        simpa [Subtype.ext_iff] using h
      rw [ih factors' hrest, Prod.ext ho hn]

/-- A term ends where the first `+` or `-` stands behind it. -/
theorem Term.lexemes_append_inj {t t' : Term} {after after' : List Lexeme}
    (ha : AtTermEnd after) (ha' : AtTermEnd after')
    (h : t.lexemes ++ after = t'.lexemes ++ after') : t = t' ∧ after = after' := by
  have htake : ∀ {t : Term} {after : List Lexeme}, AtTermEnd after →
      (t.lexemes ++ after).takeWhile (fun l => !l.isLoose) = t.lexemes := by
    intro t after ha
    rw [List.takeWhile_append_of_pos fun l hl => by simp [Term.isLoose_eq_false l hl]]
    cases after with
    | nil => simp
    | cons l after => simp [ha l rfl]
  obtain rfl := Term.lexemes_injective ((htake ha).symm.trans ((congrArg _ h).trans (htake ha')))
  exact ⟨rfl, List.append_cancel_left h⟩

/-- A term begins where the last `+` or `-` stands in front of it. -/
theorem Term.append_lexemes_inj {t t' : Term} {earlier earlier' : List Lexeme}
    (he : AtTermStart earlier) (he' : AtTermStart earlier')
    (h : earlier ++ t.lexemes = earlier' ++ t'.lexemes) : earlier = earlier' ∧ t = t' := by
  have htake : ∀ {t : Term} {earlier : List Lexeme}, AtTermStart earlier →
      (earlier ++ t.lexemes).rtakeWhile (fun l => !l.isLoose) = t.lexemes := by
    intro t earlier he
    rw [List.rtakeWhile, List.reverse_append, List.takeWhile_append_of_pos fun l hl => by
      simp [Term.isLoose_eq_false l (List.mem_reverse.mp hl)]]
    cases hrev : earlier.reverse with
    | nil => simp
    | cons l rest =>
      have hl := he l (by rw [← List.head?_reverse, hrev]; rfl)
      simp [hl]
  obtain rfl := Term.lexemes_injective ((htake he).symm.trans ((congrArg _ h).trans (htake he')))
  exact ⟨List.append_cancel_right h, rfl⟩

/-! ### The faults of products -/

/-- A product or a quotient is at fault: the lexemes in front of its operator, the operator, the
lexemes behind it, and the fault. -/
inductive ProductFault : List Lexeme → Lexeme → List Lexeme → Fault → Prop
  /-- No numeral stands in front of the operator. -/
  | left {before after : List Lexeme} (o : OperatorOf true) (h : ¬EndsInNumeral before) :
      ProductFault before (.operator o.1) after .missingOperand
  /-- No numeral stands behind the operator. -/
  | right {before after : List Lexeme} (o : OperatorOf true) (h : ¬StartsWithNumeral after) :
      ProductFault before (.operator o.1) after .missingOperand
  /-- The value of the term in front and the numeral behind have a result that does not fit. -/
  | overflow {earlier after : List Lexeme} (o : OperatorOf true) {t : Term} {v : Int} {n : Numeral}
      (hstart : AtTermStart earlier) (ht : t.value? = some v)
      (hlarge : ¬InRange (o.1.exact v n.value)) :
      ProductFault (earlier ++ t.lexemes) (.operator o.1) (.numeral n :: after) .overflow

namespace ProductFault

variable {before after : List Lexeme} {fault : Fault}

theorem not_numeral {n : Numeral} : ¬ProductFault before (.numeral n) after fault := nofun

theorem not_loose {o : OperatorOf false} : ¬ProductFault before (.operator o.1) after fault := by
  generalize hl : Lexeme.operator o.1 = l
  rintro (⟨o', -⟩ | ⟨o', -⟩ | ⟨o', -, -, -⟩) <;>
    exact absurd ((Lexeme.operator.inj hl ▸ o.2).symm.trans o'.2) (by decide)

/-- Where a term could begin, the left operand is missing. -/
theorem atTermStart_iff {o : OperatorOf true} (hb : AtTermStart before) :
    ProductFault before (.operator o.1) after fault ↔ fault = .missingOperand := by
  constructor
  · generalize hl : Lexeme.operator o.1 = l
    rintro (⟨-, -⟩ | ⟨-, -⟩ | ⟨-, -, -, -⟩)
    · rfl
    · rfl
    · exact absurd (Term.endsInNumeral_lexemes _ |>.append _) hb.not_endsInNumeral
  · rintro rfl
    exact left o hb.not_endsInNumeral

/-- Behind a term, the right operand is missing if no numeral follows. -/
theorem right_iff {o : OperatorOf true} (ha : ¬StartsWithNumeral after) :
    ProductFault before (.operator o.1) after fault ↔ fault = .missingOperand := by
  constructor
  · generalize hl : Lexeme.operator o.1 = l
    rintro (⟨-, -⟩ | ⟨-, -⟩ | @⟨_, _, -, _, _, n, -, -, -⟩)
    · rfl
    · rfl
    · exact absurd ⟨n, _, rfl⟩ ha
  · rintro rfl
    exact right o ha

/-- Between a term with a value and a numeral, only the result can be at fault. -/
theorem between_iff {earlier : List Lexeme} {o : OperatorOf true} {t : Term} {v : Int} {n : Numeral}
    (hstart : AtTermStart earlier) (ht : t.value? = some v) :
    ProductFault (earlier ++ t.lexemes) (.operator o.1) (.numeral n :: after) fault ↔
      fault = .overflow ∧ ¬InRange (o.1.exact v n.value) := by
  constructor
  · generalize hbefore : earlier ++ t.lexemes = before
    generalize hl : Lexeme.operator o.1 = l
    generalize hafter : Lexeme.numeral n :: after = row
    rintro (⟨-, h⟩ | ⟨-, h⟩ | @⟨earlier', _, o', t', v', n', hstart', ht', hlarge⟩)
    · exact absurd (hbefore ▸ t.endsInNumeral_lexemes.append earlier) h
    · exact absurd ⟨n, after, hafter.symm⟩ h
    · obtain ⟨-, rfl⟩ := Term.append_lexemes_inj hstart hstart' hbefore
      obtain rfl : v = v' := Option.some.inj (ht.symm.trans ht')
      obtain ⟨rfl, -⟩ : n = n' ∧ _ := by simpa using hafter
      rw [Lexeme.operator.inj hl]
      exact ⟨rfl, hlarge⟩
  · rintro ⟨rfl, hlarge⟩
    exact overflow o hstart ht hlarge

end ProductFault

/-! ### The scan over products -/

theorem Chain.carryOn_snoc {α : Type} {tight : Bool} (value? : α → Option Int) (start : Int)
    (rest : List (OperatorOf tight × α)) (o : OperatorOf tight) (a : α) :
    carryOn value? start (rest ++ [(o, a)]) =
      (carryOn value? start rest).bind fun left =>
        (value? a).bind fun right => fit? (o.1.exact left right) := by
  induction rest generalizing start with
  | nil => simp [carryOn]
  | cons link rest ih => simp [carryOn, ih, Option.bind_assoc]

theorem Term.value?_snoc {t : Term} {v : Int} (ht : t.value? = some v) (o : OperatorOf true)
    {n : Numeral} (hn : InRange n.value) :
    (t.snoc o n).value? = fit? (o.1.exact v n.value) := by
  obtain ⟨start, hstart, hrest⟩ := Option.bind_eq_some_iff.mp ht
  have hvalue : n.value? = some (n.value : Int) := Numeral.value?_eq_some_iff.mpr ⟨hn, rfl⟩
  simp [Term.value?, snoc, hstart, Chain.carryOn_snoc, hrest, hvalue]

/-- The lexemes that the scan has passed, and the tokens that it keeps of them. Either a term could
begin here, or the last term passed has become one number. -/
inductive Trails : List Lexeme → List Token → Prop
  | atStart {done : List Lexeme} {passed : List Token} (hdone : AtTermStart done)
      (hpassed : ¬EndsInNumber passed) : Trails done passed
  | inTerm {earlier : List Lexeme} {t : Term} {v : Int} {tokens : List Token}
      (hstart : AtTermStart earlier) (ht : t.value? = some v) :
      Trails (earlier ++ t.lexemes) (.number v :: tokens)

theorem Trails.inv_number {done : List Lexeme} {v : Int} {tokens : List Token}
    (h : Trails done (.number v :: tokens)) :
    ∃ earlier t, done = earlier ++ Term.lexemes t ∧ AtTermStart earlier ∧ t.value? = some v := by
  cases h with
  | atStart _ hpassed => exact absurd ⟨v, tokens, rfl⟩ hpassed
  | inTerm hstart ht => exact ⟨_, _, rfl, hstart, ht⟩

/-- The scan of the lexemes behind those that it has passed. -/
private theorem resolveProducts_eq_error_iff_of_trails (passed found : List Token)
    {done row : List Lexeme} {fault : Fault} (htokens : row.map Lexeme.token = found)
    (hs : Separated row) (hf : AllFit row) (htrails : Trails done passed)
    (hjoin : EndsInNumber passed → ¬StartsWithNumeral row) :
    resolveProducts passed found = .error fault ↔ Leftmost ProductFault done row fault := by
  induction passed, found using resolveProducts.induct generalizing done row with
  | case1 passed =>
    obtain rfl := List.map_eq_nil_iff.mp htokens
    simp [resolveProducts, Leftmost.not_nil]
  | case2 passed n rest ih =>
    obtain ⟨m, row, rfl, hrow⟩ := exists_numeral_of_map_token htokens
    obtain ⟨hm, hf⟩ := allFit_cons.mp hf
    have hn : (m.value : Int) = n := by simpa [Lexeme.token] using (List.cons.inj htokens).1
    rw [resolveProducts, Leftmost.cons_of_clean fun _ => ProductFault.not_numeral]
    cases htrails with
    | inTerm => exact absurd ⟨m, row, rfl⟩ (hjoin ⟨_, _, rfl⟩)
    | atStart hdone hpassed =>
      refine ih hrow hs.tail hf ?_ fun _ => hs.not_startsWithNumeral
      subst hn
      exact Trails.inTerm (t := ⟨m, []⟩) hdone
        (by simp [Term.value?, Numeral.value?_eq_some_iff.mpr ⟨hm, rfl⟩, Chain.carryOn])
  | case3 o ho left earlier right rest ih =>
    obtain ⟨row, rfl, hrow⟩ := exists_operator_of_map_token htokens
    obtain ⟨m, row, rfl, hrow'⟩ := exists_numeral_of_map_token hrow
    obtain ⟨hm, hf⟩ := allFit_cons.mp (allFit_cons.mp hf).2
    have hright : (m.value : Int) = right := by simpa [Lexeme.token] using (List.cons.inj hrow).1
    obtain ⟨front, t, rfl, hstart, ht⟩ := htrails.inv_number
    have htail := separated_operator_cons.mp hs
    rw [resolveProducts_tight left earlier ⟨o, ho⟩ right rest, Operator.apply_eq, ← hright]
    have hbetween (f : Fault) :
        ProductFault (front ++ t.lexemes) (.operator o) (.numeral m :: row) f ↔
          f = .overflow ∧ ¬InRange (o.exact left m.value) :=
      ProductFault.between_iff (o := ⟨o, ho⟩) hstart ht
    by_cases hfit : InRange (o.exact left m.value)
    · rw [Leftmost.cons_of_clean fun f h => ((hbetween f).mp h).2 hfit,
        Leftmost.cons_of_clean fun _ => ProductFault.not_numeral]
      rw [fit?, if_pos hfit]
      refine (ih _ hrow' htail.tail hf ?_ fun _ => htail.not_startsWithNumeral)
      have hvalue := Term.value?_snoc ht ⟨o, ho⟩ hm
      rw [fit?, if_pos hfit] at hvalue
      have hnext : Trails (front ++ (t.snoc ⟨o, ho⟩ m).lexemes)
          (.number (o.exact left m.value) :: earlier) := Trails.inTerm hstart hvalue
      simpa [Term.lexemes_snoc] using hnext
    · rw [Leftmost.cons_of_fault fun f => (hbetween f).trans (and_iff_left hfit), fit?, if_neg hfit]
      exact ⟨fun h => (Except.error.inj h).symm, fun h => h ▸ rfl⟩
  | case4 passed o rest ho hno =>
    obtain ⟨row, rfl, hrow⟩ := exists_operator_of_map_token htokens
    have hfault (f : Fault) : ProductFault done (.operator (⟨o, ho⟩ : OperatorOf true).1) row f ↔
        f = .missingOperand := by
      cases htrails with
      | atStart hdone => exact ProductFault.atTermStart_iff hdone
      | inTerm =>
        refine ProductFault.right_iff ?_
        rintro ⟨n, later, rfl⟩
        exact hno _ _ _ _ rfl hrow.symm
    rw [resolveProducts_missing passed ⟨o, ho⟩ rest hno, Leftmost.cons_of_fault hfault]
    exact ⟨fun h => (Except.error.inj h).symm, fun h => h ▸ rfl⟩
  | case5 passed o rest ho ih =>
    obtain ⟨row, rfl, hrow⟩ := exists_operator_of_map_token htokens
    have ho' : o.bindsTightly = false := by simpa using ho
    rw [resolveProducts_loose passed ⟨o, ho'⟩ rest,
      Leftmost.cons_of_clean fun _ => ProductFault.not_loose (o := ⟨o, ho'⟩)]
    exact ih hrow (separated_operator_cons.mp hs) (allFit_cons.mp hf).2
      (Trails.atStart (atTermStart_snoc done ⟨o, ho'⟩) not_endsInNumber_operator)
      fun h => absurd h not_endsInNumber_operator

/-- The first scan reports the leftmost fault of a product. -/
theorem resolveProducts_eq_error_iff {row : List Lexeme} {fault : Fault} (hs : Separated row)
    (hf : AllFit row) : resolveProducts [] (row.map Lexeme.token) = .error fault ↔
      Leftmost ProductFault [] row fault := by
  have hpassed : ¬EndsInNumber [] := by
    rintro ⟨_, _, h⟩
    cases h
  exact resolveProducts_eq_error_iff_of_trails [] _ rfl hs hf
    (Trails.atStart atTermStart_nil hpassed) fun h => absurd h hpassed

end HiddenEquation.Arithmetic
