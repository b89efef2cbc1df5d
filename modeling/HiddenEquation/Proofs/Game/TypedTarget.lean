import HiddenEquation.Proofs.Equation.Spelling
import HiddenEquation.Proofs.Game.Calls
import HiddenEquation.Proofs.Game.Invariant
import HiddenEquation.Proofs.Guess.Verdict

/-!
# Only the typed target wins

The feedback on the target itself is decided at once, without the two passes over the guess. This
is a shortcut and nothing more: the two passes colour every place of the target green, because each
place that agrees uses one copy and all copies are used by then. No other guess is green in all its
places.

For a session this means that a game is won by typing. Whenever a run has led to a game that is
won, one of its moves submitted the text of the target, character by character, while the game was
going on, and no other game has been started since.

## Main definitions

* `Move.submitted?` : the text that a move submits.
* `Session.TypedTarget` : a run submitted the target in the current game.

## Main results

* `Row.count_green_eq_iff` : a row with seven green places is perfect.
* `Session.typedTarget_of_won` : a run that leads to a game that is won submitted its target.
* `Session.perfect_row_iff_typed` : the shortcut is only a shortcut, and only the target wins.
-/

namespace HiddenEquation

/-! ### Perfect rows -/

theorem Row.count_green_eq_iff {row : Row} : row.count .green = 7 ↔ row = Row.perfect := by
  have hlength : row.colors.length = 7 := row.length_colors
  rw [Row.count, ← hlength, List.count_eq_length, Row.eq_iff_colors_eq, Row.perfect,
    List.eq_replicate_iff]
  constructor
  · exact fun h => ⟨row.length_colors, fun c hc => (h c hc).symm⟩
  · exact fun h c hc => (h.2 c hc).symm

/-- The text that a move submits. -/
def Move.submitted? : Move → Option String
  | .submit text | .process text => some text
  | .check _ | .newGame | .subscribe => none

namespace Session

variable {corpus : List Equation} {options : GameOptions} {draws : Draws} {first : Session}
  {moves : List Move} {move : Move}

/-- A run submitted the text of the target while the current game was going on: the target was the
same then, and no game has been started since. -/
def TypedTarget (first : Session) (moves : List Move) : Prop :=
  ∃ earlier move later, moves = earlier ++ move :: later ∧ .newGame ∉ later ∧
    (first.after earlier).status = .active ∧
    (first.after earlier).target = (first.after moves).target ∧
    move.submitted? = some (first.after moves).target.text

/-- A move that starts no game and leaves the target alone takes nothing back. -/
theorem TypedTarget.concat (h : TypedTarget first moves) (hmove : move ≠ .newGame)
    (htarget : (first.after (moves ++ [move])).target = (first.after moves).target) :
    TypedTarget first (moves ++ [move]) := by
  obtain ⟨earlier, typed, later, rfl, hlater, hactive, hsame, htext⟩ := h
  refine ⟨earlier, typed, later ++ [move], ?_, ?_, hactive, hsame.trans htarget.symm, ?_⟩
  · rw [List.append_assoc, List.cons_append]
  · simpa [hlater] using hmove.symm
  · rw [htarget, htext]

/-- Submitting a text leaves a game that is won only if the game had been won before, or if the text
is that of the target. -/
theorem Submission.won_or_typed {s : Session} {text : String}
    {effect : Effect (Except SessionError Row)} (h : s.Submission text effect)
    (hwon : effect.session.status = .won) :
    effect.session.target = s.target ∧
      (s.status = .won ∨ s.status = .active ∧ text = s.target.text) := by
  cases h with
  | refused => exact ⟨rfl, Or.inl hwon⟩
  | rejected => exact ⟨rfl, Or.inl hwon⟩
  | accepted hopen hguess =>
    have htarget := (seesGuess_play hopen _).status_won.mp hwon
    refine ⟨rfl, Or.inr ⟨isOver_eq_false_iff_status.mp hopen, ?_⟩⟩
    rw [← htarget, Guess.text_eq_of_validate hguess]

/-- One more text is submitted, and the game is won after it. -/
theorem typedTarget_of_submission {text : String} (hmove : move.submitted? = some text)
    (hsession : ((first.after moves).perform move).session =
      ((first.after moves).submit text).session)
    (ih : (first.after moves).status = .won → TypedTarget first moves)
    (hwon : (first.after (moves ++ [move])).status = .won) :
    TypedTarget first (moves ++ [move]) := by
  have hafter : first.after (moves ++ [move]) = ((first.after moves).submit text).session :=
    (after_concat first moves move).trans hsession
  rw [hafter] at hwon
  obtain ⟨htarget, hbefore | ⟨hactive, htext⟩⟩ :=
    ((first.after moves).submission_submit text).won_or_typed hwon
  · have hnew : move ≠ .newGame := by
      rintro rfl
      cases hmove
    exact (ih hbefore).concat hnew (hafter ▸ htarget)
  · refine ⟨moves, move, [], rfl, List.not_mem_nil, hactive, ?_, ?_⟩
    · rw [hafter, htarget]
    · rw [hmove, hafter, htarget, htext]

/-- A run from the opening of a session that leads to a game that is won submitted the target in
that game. -/
theorem typedTarget_of_won (hstart : start corpus options draws = .ok first)
    (hwon : (first.after moves).status = .won) : TypedTarget first moves := by
  induction moves using List.reverseRecOn with
  | nil =>
    obtain ⟨target, -, rfl⟩ := exists_opened_of_start hstart
    cases hwon
  | append_singleton moves move ih =>
    cases move with
    | submit text => exact typedTarget_of_submission rfl rfl ih hwon
    | process text => exact typedTarget_of_submission rfl rfl ih hwon
    | check text =>
      have hsame : ((first.after moves).check text).session.status = (first.after moves).status ∧
          ((first.after moves).check text).session.target = (first.after moves).target := by
        rw [check]
        cases Guess.validate text <;> exact ⟨rfl, rfl⟩
      rw [after_concat] at hwon
      refine (ih (hsame.1 ▸ hwon)).concat (by simp) ?_
      rw [after_concat]
      exact hsame.2
    | newGame =>
      -- the corpus has an equation to choose, so the game that goes on is a new one
      have hreach : Reachable corpus (first.after moves) :=
        ⟨options, draws, first, moves, hstart, rfl⟩
      obtain ⟨target, -, hpick⟩ := (Sound.reachable hreach).exists_pick?
      have hnew : ((first.after moves).perform .newGame).session =
          (first.after moves).restarted target := by
        rw [perform, newGame_of_pick hpick]
        rfl
      rw [after_concat, hnew] at hwon
      cases hwon
    | subscribe =>
      rw [after_concat] at hwon
      refine (ih hwon).concat (by simp) ?_
      rw [after_concat]
      rfl

/-- **Only the typed target wins.** For every guess and target, the feedback is the row of the two
passes, although it is found without them when guess and target are equal. The row is perfect
exactly if both have the same text, and so are seven green places. Whenever a run of a session has
led to a game that is won, a move of that game submitted the text of its target. -/
theorem perfect_row_iff_typed :
    (∀ guess target, feedback guess target = Row.ofPasses guess target ∧
      ((feedback guess target).isPerfect = true ↔ guess.text = target.text) ∧
      ((feedback guess target).count .green = 7 ↔ guess.text = target.text)) ∧
    ∀ corpus options draws first moves, start corpus options draws = .ok first →
      (first.after moves).status = .won → TypedTarget first moves := by
  refine ⟨fun guess target => ⟨feedback_eq_ofPasses guess target, ?_, ?_⟩,
    fun _ _ _ _ _ => typedTarget_of_won⟩
  · rw [Sound.isPerfect_iff, feedback_eq_perfect_iff, Equation.text_injective.eq_iff]
  · rw [Row.count_green_eq_iff, feedback_eq_perfect_iff, Equation.text_injective.eq_iff]

/-- A text is judged, another guess is played, and then the target is typed. -/
theorem perfect_row_iff_typed_after_miss :
    let target : Equation := ⟨[.digit 1, .operator .add, .digit 2, .operator .add, .digit 3,
      .equals, .digit 6], rfl⟩
    let first := opened [target] GameOptions.fixed id target
    let moves : List Move := [.check "1+2+3=6", .submit "12+3=15", .process "1+2+3=6", .subscribe]
    start [target] GameOptions.fixed id = .ok first ∧
      (first.after moves).status = .won ∧ TypedTarget first moves := by
  intro target first moves
  have hstart : start [target] GameOptions.fixed id = .ok first := rfl
  have hwon : (first.after moves).status = .won := rfl
  exact ⟨hstart, hwon, perfect_row_iff_typed.2 _ _ _ _ _ hstart hwon⟩

end Session

end HiddenEquation
