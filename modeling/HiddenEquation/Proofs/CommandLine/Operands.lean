import HiddenEquation.Proofs.CommandLine.ExitCodes
import HiddenEquation.Proofs.Guess.Verdict

/-!
# Operands that look like options

The command `check` judges the word behind it, but the same word is first of all a word of the
command line. If it starts with a hyphen and goes on, it names options, and no options are an
operand. So a text reaches the judge exactly if it does not look like an option. The word `--` ends
the options, and every text behind it reaches the judge.

An equation may start with a minus sign. If it is a guess, then no operator follows the sign, so it
is taken for a cluster of one-letter options of which the first is unknown. The command line is a
misuse then, and the guess is not judged.

## Main definitions

* `Reading.request` : the command and the operands that were read.
* `Outcome.Approves` : a text is reported as valid.

## Main results

* `Word.ofString_eq_plain_iff` : which words are no options.
* `Reading.request_of_step` : options change neither the command nor the operands.
* `Arguments.read_check_eq_ok_iff`, `Arguments.read_check_separator` : which texts reach the judge.
* `Program.approves_guess_iff` : what `check` makes of a guess.
-/

namespace HiddenEquation

/-! ### Words that are no options -/

namespace Word

variable {text : String}

/-- A word is no option if it does not start with a hyphen, or is a hyphen alone. -/
theorem ofString_eq_plain_iff {value : String} :
    ofString text = .plain value ↔
      text = value ∧ (text.toList.head? ≠ some '-' ∨ text.toList = ['-']) := by
  rw [ofString]
  split
  case h_1 h => simp [h]
  case h_2 cs h => simp [h, splitLong]
  case h_3 c cs h => simp [h]
  case h_4 hcluster =>
    rw [plain.injEq]
    refine (and_iff_left ?_).symm
    cases hcs : text.toList with
    | nil => simp
    | cons c cs =>
      cases cs with
      | nil => by_cases hc : c = '-' <;> simp [hc]
      | cons d cs =>
        left
        rintro ⟨rfl⟩
        exact hcluster d cs hcs

/-- A hyphen and another character start a cluster of letters. -/
theorem ofString_eq_cluster {c : Char} {cs : List Char} (htext : text.toList = '-' :: c :: cs)
    (hc : c ≠ '-') : ofString text = .cluster (c :: cs) := by
  rw [ofString, htext]
  split <;> simp_all

end Word

/-- No character of the alphabet is the letter of an option. -/
theorem OptionKind.ofLetter?_eq_none {c : Char} (hc : Guess.IsLegal c) : ofLetter? c = none := by
  have hdigit : ∀ d : Fin 10, ofLetter? (Symbol.digit d).toChar = none := by decide
  obtain ⟨d | o | _, rfl⟩ := Guess.isLegal_iff.mp hc
  · exact hdigit d
  · cases o <;> rfl
  · rfl

/-! ### Options and operands -/

namespace Reading

variable {r r' : Reading}

/-- The command and the operands that were read. -/
def request (r : Reading) : Option CommandName × List String := (r.command, r.operands)

theorem request_of_update {change : Given → Except Diversion Given}
    (h : r.update change = .ok r') : r'.request = r.request := by
  have hput {given : Given} {put : Given → Reading} (h : (change given).map put = .ok r')
      (hkeeps : ∀ g, (put g).request = r.request) : r'.request = r.request := by
    cases hchange : change given with
    | error diversion => simp [hchange, Except.map] at h
    | ok changed =>
      rw [hchange] at h
      obtain rfl := Except.ok.inj h
      exact hkeeps changed
  rw [update] at h
  split at h
  · exact hput h fun _ => rfl
  · exact hput h fun _ => rfl

theorem request_of_raise {flag : Flag} (h : r.raise flag = .ok r') : r'.request = r.request := by
  rw [raise] at h
  split at h
  · cases h
  · exact request_of_update h

theorem request_of_long {name : String} {value : Option String}
    (h : r.long name value = .ok r') : r'.request = r.request := by
  unfold long at h
  split at h
  · exact request_of_raise h
  · exact request_of_update h
  · obtain rfl := Except.ok.inj h
    rfl
  · cases h

theorem request_of_cluster {letters : List Char} (h : r.cluster letters = .ok r') :
    r'.request = r.request := by
  induction letters generalizing r with
  | nil =>
    obtain rfl := Except.ok.inj h
    rfl
  | cons c rest ih =>
    unfold cluster at h
    split at h
    · cases h
    · rename_i flag hflag
      cases hraise : r.raise flag with
      | error diversion => rw [hraise] at h; cases h
      | ok raised =>
        rw [hraise] at h
        exact (ih h).trans (request_of_raise hraise)
    · split at h
      · obtain rfl := Except.ok.inj h
        rfl
      · exact request_of_update h
      · exact request_of_update h

/-- An option changes neither the command nor the operands. -/
theorem request_of_step {text : String} (hcommand : r.command ≠ some .help)
    (hended : r.ended = false) (hoption : ∀ value, Word.ofString text ≠ .plain value)
    (h : r.step text = .ok r') : r'.request = r.request := by
  rw [step, if_neg hcommand, hended] at h
  simp only [Bool.false_eq_true, if_false] at h
  split at h
  · rename_i hplain
    exact absurd hplain (hoption _)
  · cases h
  · obtain rfl := Except.ok.inj h
    rfl
  · exact request_of_long h
  · exact request_of_cluster h
  · rename_i hplain
    exact absurd hplain (hoption _)

end Reading

namespace Arguments

variable {text : String} {inv : Invocation}

/-- After the command `check`, one more word is read. -/
theorem read_check (text : String) :
    read ["check", text] =
      (Reading.step { command := some .check } text).bind Reading.finish := by
  have hstep : Reading.step {} "check" = .ok { command := some .check } := rfl
  simp only [read, List.foldlM_cons, List.foldlM_nil, hstep, bind, Except.bind, pure, Except.pure]
  cases Reading.step { command := some .check } text <;> rfl

/-- Without an operand nothing is checked. -/
theorem finish_check_ne_ok {r : Reading} (h : r.request = (some .check, [])) :
    r.finish ≠ .ok inv := by
  obtain ⟨hcommand, hoperands⟩ := Prod.mk.inj h
  rw [Reading.finish, hcommand, hoperands]
  split <;> simp

/-- The judge gets a text as the operand of `check` exactly if it does not look like an option. -/
theorem read_check_eq_ok_iff :
    read ["check", text] = .ok inv ↔
      inv = { command := .check text } ∧ (text.toList.head? ≠ some '-' ∨ text.toList = ['-']) := by
  rw [read_check]
  by_cases hplain : text.toList.head? ≠ some '-' ∨ text.toList = ['-']
  · have hword : Word.ofString text = .plain text :=
      Word.ofString_eq_plain_iff.mpr ⟨rfl, hplain⟩
    have hstep : Reading.step { command := some .check } text =
        .ok { command := some .check, operands := [text] } := by
      simp [Reading.step, hword, Reading.plain, Reading.operand]
    have hfinish : Reading.finish { command := some .check, operands := [text] } =
        .ok { command := .check text } := rfl
    rw [hstep, Except.bind, hfinish, Except.ok.injEq, and_iff_left hplain, eq_comm]
  · refine iff_of_false ?_ fun h => hplain h.2
    cases hstep : Reading.step { command := some .check } text with
    | error diversion => simp [Except.bind]
    | ok r =>
      refine finish_check_ne_ok (Reading.request_of_step (by decide) rfl ?_ hstep)
      exact fun value hvalue => hplain (Word.ofString_eq_plain_iff.mp hvalue).2

/-- Behind the word that ends the options, the judge gets every text. -/
theorem read_check_separator (text : String) :
    read ["check", "--", text] = .ok { command := .check text } := by
  rfl

/-- A cluster of unknown letters is a misuse. -/
theorem read_check_cluster {c : Char} {cs : List Char} (htext : text.toList = '-' :: c :: cs)
    (hc : c ≠ '-') (hletter : OptionKind.ofLetter? c = none) :
    read ["check", text] = .error .misuse := by
  have hstep : Reading.step { command := some .check } text = .error .misuse := by
    simp [Reading.step, Word.ofString_eq_cluster htext hc, Reading.cluster, hletter]
  rw [read_check, hstep]
  rfl

end Arguments

/-! ### Guesses on the command line -/

/-- If a guess starts with a minus sign, then no operator follows. -/
theorem Guess.WellFormed.eq_minus_cons {text : String} (h : WellFormed text)
    (hminus : text.toList.head? = some '-') :
    ∃ c cs, text.toList = '-' :: c :: cs ∧ c ≠ '-' ∧ IsLegal c := by
  obtain ⟨rest, hrest⟩ := List.head?_eq_some_iff.mp hminus
  cases rest with
  | nil =>
    have hlength := h.length
    simp [hrest] at hlength
  | cons c cs =>
    have hchain := h.isChain
    rw [hrest, List.isChain_cons_cons] at hchain
    refine ⟨c, cs, hrest, ?_, h.isLegal c (by simp [hrest])⟩
    rintro rfl
    exact hchain.1 ⟨by decide, by decide⟩

/-- A run reports a text as valid, and nothing goes wrong. -/
structure Outcome.Approves (text : String) (outcome : Outcome) : Prop where
  code : outcome.code = 0
  failure : outcome.failure = none
  /-- What is printed, without colours. -/
  printed : Piece.renderAll false outcome.output = "✅ valid: " ++ text ++ "\n"

theorem Outcome.approves_ofCheck {text : String} {e : Equation} (h : Guess.validate text = .ok e) :
    (ofCheck text).Approves text where
  code := by simp [ofCheck, h, Except.isOk, Except.toBool]
  failure := rfl
  printed := by
    have hlead : "✅ valid:" ++ " " = "✅ valid: " := rfl
    simp only [ofCheck, h, verdictReport, Guess.text_eq_of_validate h, Piece.renderAll,
      List.map_cons, List.map_nil, Piece.render, Piece.painted, Piece.plain]
    simp only [String.join, List.foldl_cons, List.foldl_nil, String.empty_append,
      Bool.false_eq_true, if_false, ← hlead, String.append_assoc]

namespace Program

variable {words : List String} {text : String} {e : Equation} {tree : FileTree}
  {supply : Draws.Supply} {elapsed rate : String} {stamps : Nat → String}

/-- A command line that is no invocation is answered at once. -/
theorem stage_of_diversion {diversion : Diversion}
    (hread : Arguments.read words = .error diversion) :
    (prepare words tree supply).1 = .finished (divert diversion) := by
  rw [prepare, hread]

/-- A command line that asks to check a text, and for no journal, ends with the verdict on it. -/
theorem outcome_of_check (hread : Arguments.read words = .ok { command := .check text }) :
    (runLines words tree supply elapsed rate stamps).1 = .ofCheck text :=
  outcome_of_finished (stage_of_opened hread rfl)

/-- **A guess is approved unless it starts with a minus sign.** The command `check` reports a guess
as valid exactly if it does not start with a minus sign. If it does, the command line is a misuse:
the exit code is two, and nothing is printed. Behind the word `--` every guess is reported as
valid. -/
theorem approves_guess_iff (hguess : Guess.validate text = .ok e) (tree : FileTree)
    (supply : Draws.Supply) (elapsed rate : String) (stamps : Nat → String) :
    ((runLines ["check", text] tree supply elapsed rate stamps).1.Approves text ↔
      text.toList.head? ≠ some '-') ∧
    (text.toList.head? = some '-' →
      (runLines ["check", text] tree supply elapsed rate stamps).1 = { code := 2 }) ∧
    (runLines ["check", "--", text] tree supply elapsed rate stamps).1.Approves text := by
  have happroves {words : List String}
      (hread : Arguments.read words = .ok { command := .check text }) :
      (runLines words tree supply elapsed rate stamps).1.Approves text :=
    outcome_of_check hread ▸ Outcome.approves_ofCheck hguess
  have hmisuse (hminus : text.toList.head? = some '-') :
      (runLines ["check", text] tree supply elapsed rate stamps).1 = { code := 2 } := by
    have hform : Guess.WellFormed text :=
      Guess.KeepsBefore.wellFormed fun r _ => (Guess.validate_eq_iff_verdict.mp hguess).2 r
    obtain ⟨c, cs, htext, hc, hlegal⟩ := hform.eq_minus_cons hminus
    exact outcome_of_finished (stage_of_diversion
      (Arguments.read_check_cluster htext hc (OptionKind.ofLetter?_eq_none hlegal)))
  refine ⟨⟨fun h hminus => ?_, fun hminus => ?_⟩, hmisuse, ?_⟩
  · have hcode := h.code
    rw [hmisuse hminus] at hcode
    cases hcode
  · exact happroves (Arguments.read_check_eq_ok_iff.mpr ⟨rfl, Or.inl hminus⟩)
  · exact happroves (Arguments.read_check_separator text)

/-- A plus sign in front of a guess does no harm, and neither does a minus sign behind `--`. -/
theorem approves_guess_with_plus_or_separator :
    let run (words : List String) := runLines words ⟨[], .empty⟩ (fun _ => id) "" "" fun _ => ""
    (run ["check", "+1+2=+3"]).1.Approves "+1+2=+3" ∧
      (run ["check", "--", "-1-2=-3"]).1.Approves "-1-2=-3" := by
  intro run
  obtain ⟨e, hplus⟩ : ∃ e, Guess.validate "+1+2=+3" = .ok e := ⟨_, rfl⟩
  obtain ⟨e', hminus⟩ : ∃ e, Guess.validate "-1-2=-3" = .ok e := ⟨_, rfl⟩
  exact ⟨(approves_guess_iff hplus _ _ _ _ _).1.mpr (by decide),
    (approves_guess_iff hminus _ _ _ _ _).2.2⟩

/-- This guess is not approved. -/
theorem check_guess_with_minus :
    let run (words : List String) := runLines words ⟨[], .empty⟩ (fun _ => id) "" "" fun _ => ""
    (∃ e, Guess.validate "-1-2=-3" = .ok e) ∧ (run ["check", "-1-2=-3"]).1 = { code := 2 } :=
  ⟨⟨_, rfl⟩, rfl⟩

end Program

end HiddenEquation
