import HiddenEquation.Proofs.Game.Calls

/-!
# The rejection that is remembered

A session remembers one rejection. Three kinds of moves bear on it. A text that is judged and fails
validation replaces what was remembered, in every state of the game; a text that is submitted and
fails does so only while the game goes on, because after its end nothing is judged; and a new game
forgets everything. All other moves leave it alone. So after any run, what is remembered is the
reason of the latest failure in the current game, whatever happened between that failure and the end
of the run.

A run is described here by its places. The move at a place acts on the session that the moves before
it leave, and that session alone says whether the move fails.

## Main definitions

* `Guess.reason?` : why validation rejects a text.
* `Session.failure?` : why a move fails validation.
* `Session.FailsAt` : the move at a place of a run fails.
* `Session.LatestFailure` : a failure in the current game after which no other one came.
* `Move.isSettled` : the answers of the moves that neither fail nor start a game.

## Main results

* `Session.lastError_perform` : what one move does to the remembered rejection.
* `Session.failsAt_concat_iff` : the failures of a run that is continued by one move.
* `Session.lastError_after_start` : what is remembered after a run.
-/

namespace HiddenEquation

/-- Why validation rejects a text, if it does. -/
def Guess.reason? (text : String) : Option Rejection :=
  match validate text with
  | .ok _ => none
  | .error reason => some reason

/-- The answers that tell of an accepted guess, of a text that passed a check, of a text that came
after the end of a game, or of a new observer. -/
def Move.isSettled : Move → Answer → Bool
  | .submit _, .row (.ok _) => true
  | .submit _, .row (.error .gameOver) => true
  | .process _, .done (.ok ()) => true
  | .process _, .done (.error .gameOver) => true
  | .check _, .verdict accepted => accepted
  | .subscribe, _ => true
  | _, _ => false

namespace Session

variable {first : Session} {moves : List Move} {move : Move} {reason : Rejection}

/-! ### One move -/

/-- Why a move fails validation, if it does. A text that is judged counts in every state, and a text
that is submitted only while the game goes on. -/
def failure? (s : Session) : Move → Option Rejection
  | .check text => Guess.reason? text
  | .submit text | .process text => if s.status = .active then Guess.reason? text else none
  | .newGame | .subscribe => none

theorem Submission.lastError_eq {s : Session} {text : String}
    {effect : Effect (Except SessionError Row)} (h : s.Submission text effect) :
    effect.session.lastError = (s.failure? (.submit text)).or s.lastError := by
  cases h with
  | refused hover =>
    rw [failure?, if_neg (isOver_iff_status.mp hover)]
    rfl
  | rejected hopen hreason =>
    rw [failure?, if_pos (isOver_eq_false_iff_status.mp hopen), Guess.reason?, hreason]
    rfl
  | accepted hopen hguess =>
    rw [failure?, if_pos (isOver_eq_false_iff_status.mp hopen), Guess.reason?, hguess]
    rfl

/-- A move that fails is remembered, and a move that neither fails nor starts a game changes nothing
that is remembered. -/
theorem lastError_perform (s : Session) {move : Move} (hmove : move ≠ .newGame) :
    (s.perform move).session.lastError = (s.failure? move).or s.lastError := by
  cases move with
  | submit text | process text => exact (s.submission_submit text).lastError_eq
  | check text =>
    rw [perform, check, failure?, Guess.reason?]
    cases Guess.validate text <;> rfl
  | newGame => exact absurd rfl hmove
  | subscribe => rfl

/-- A settled move neither fails nor starts a game. -/
theorem failure?_eq_none_of_isSettled {s : Session}
    (h : move.isSettled (s.perform move).answer = true) :
    move ≠ .newGame ∧ s.failure? move = none := by
  have hsubmitted (text : String) (hanswer : ∀ reason,
      (s.submit text).answer ≠ .error (.invalid reason)) : s.failure? (.submit text) = none := by
    have hsubmission := s.submission_submit text
    generalize s.submit text = effect at hanswer hsubmission
    cases hsubmission with
    | refused hover => exact if_neg (isOver_iff_status.mp hover)
    | rejected hopen hreason => exact absurd rfl (hanswer _)
    | accepted hopen hguess =>
      rw [failure?, Guess.reason?, hguess]
      exact ite_self none
  cases move with
  | submit text =>
    refine ⟨by simp, hsubmitted text fun reason hanswer => ?_⟩
    simp [perform, Effect.map, hanswer, Move.isSettled] at h
  | process text =>
    refine ⟨by simp, hsubmitted text fun reason hanswer => ?_⟩
    simp [perform, process, Effect.map, hanswer, Except.map, Move.isSettled] at h
  | check text =>
    refine ⟨by simp, ?_⟩
    rw [failure?, Guess.reason?]
    cases hguess : Guess.validate text with
    | ok guess => rfl
    | error reason => simp [perform, check, Effect.map, hguess, Move.isSettled] at h
  | newGame => cases h
  | subscribe => exact ⟨by simp, rfl⟩

/-! ### The failures of a run -/

/-- The move at a place of a run fails validation for a reason, in the state in which it is made. -/
def FailsAt (first : Session) (moves : List Move) (i : Nat) (reason : Rejection) : Prop :=
  ∃ move, moves[i]? = some move ∧ (first.after (moves.take i)).failure? move = some reason

/-- The latest failure of the current game has this reason: no later move fails, and none starts
another game. -/
def LatestFailure (first : Session) (moves : List Move) (reason : Rejection) : Prop :=
  ∃ i, FailsAt first moves i reason ∧
    ∀ j, i < j → moves[j]? ≠ some .newGame ∧ ∀ later, ¬FailsAt first moves j later

/-- No move of the current game has failed: every failure came before the start of another game. -/
def NoFailure (first : Session) (moves : List Move) : Prop :=
  ∀ i reason, FailsAt first moves i reason → ∃ j, i < j ∧ moves[j]? = some .newGame

theorem FailsAt.lt_length {i : Nat} (h : FailsAt first moves i reason) : i < moves.length := by
  obtain ⟨move, hmove, -⟩ := h
  exact (List.getElem?_eq_some_iff.mp hmove).1

theorem not_failsAt_nil {i : Nat} : ¬FailsAt first [] i reason :=
  fun h => Nat.not_lt_zero i h.lt_length

theorem getElem?_concat_eq_some_iff {i : Nat} {other : Move} :
    (moves ++ [move])[i]? = some other ↔
      moves[i]? = some other ∨ i = moves.length ∧ move = other := by
  rcases Nat.lt_trichotomy i moves.length with hlt | rfl | hgt
  · rw [List.getElem?_append_left hlt]
    exact ⟨Or.inl, fun h => h.resolve_right fun hlast => absurd hlast.1 (Nat.ne_of_lt hlt)⟩
  · simp
  · have hbeyond : (moves ++ [move])[i]? = none := by
      rw [List.getElem?_eq_none_iff, List.length_append]
      exact hgt
    have hnone : moves[i]? = none := List.getElem?_eq_none (Nat.le_of_lt hgt)
    simp [hbeyond, hnone, Nat.ne_of_gt hgt]

/-- The failures of a run that is continued by one move are those of the run, and the failure of
that move. -/
theorem failsAt_concat_iff {i : Nat} : FailsAt first (moves ++ [move]) i reason ↔
    FailsAt first moves i reason ∨
      i = moves.length ∧ (first.after moves).failure? move = some reason := by
  constructor
  · rintro ⟨other, hother, hfails⟩
    rcases getElem?_concat_eq_some_iff.mp hother with hbefore | ⟨rfl, rfl⟩
    · have hle : i ≤ moves.length := Nat.le_of_lt (List.getElem?_eq_some_iff.mp hbefore).1
      rw [List.take_append_of_le_length hle] at hfails
      exact Or.inl ⟨other, hbefore, hfails⟩
    · rw [List.take_left] at hfails
      exact Or.inr ⟨rfl, hfails⟩
  · rintro (h | ⟨rfl, hfails⟩)
    · obtain ⟨other, hother, hfails⟩ := id h
      refine ⟨other, getElem?_concat_eq_some_iff.mpr (Or.inl hother), ?_⟩
      rwa [List.take_append_of_le_length (Nat.le_of_lt h.lt_length)]
    · refine ⟨move, getElem?_concat_eq_some_iff.mpr (Or.inr ⟨rfl, rfl⟩), ?_⟩
      rwa [List.take_left]

/-- A move that fails is the latest failure. Any other move leaves the latest failure, unless it
starts a game. -/
theorem latestFailure_concat_iff : LatestFailure first (moves ++ [move]) reason ↔
    (first.after moves).failure? move = some reason ∨ move ≠ .newGame ∧
      (first.after moves).failure? move = none ∧ LatestFailure first moves reason := by
  have hnew (j : Nat) : (moves ++ [move])[j]? = some .newGame ↔
      moves[j]? = some .newGame ∨ j = moves.length ∧ move = .newGame :=
    getElem?_concat_eq_some_iff
  constructor
  · rintro ⟨i, hfails, hlater⟩
    rcases failsAt_concat_iff.mp hfails with hbefore | ⟨-, hlast⟩
    · obtain ⟨hstays, hquiet⟩ := hlater moves.length hbefore.lt_length
      refine Or.inr ⟨fun hmove => hstays ((hnew _).mpr (Or.inr ⟨rfl, hmove⟩)), ?_, i, hbefore, ?_⟩
      · refine Option.eq_none_iff_forall_ne_some.mpr fun other hother => ?_
        exact hquiet other (failsAt_concat_iff.mpr (Or.inr ⟨rfl, hother⟩))
      · exact fun j hj => ⟨fun h => (hlater j hj).1 ((hnew j).mpr (Or.inl h)), fun other h =>
          (hlater j hj).2 other (failsAt_concat_iff.mpr (Or.inl h))⟩
    · exact Or.inl hlast
  · rintro (hlast | ⟨hstays, hquiet, i, hbefore, hlater⟩)
    · refine ⟨moves.length, failsAt_concat_iff.mpr (Or.inr ⟨rfl, hlast⟩), fun j hj => ⟨?_, ?_⟩⟩
      · rw [List.getElem?_eq_none (by rw [List.length_append]; exact hj)]
        simp
      · intro other h
        have := h.lt_length
        simp only [List.length_append, List.length_singleton] at this
        omega
    · refine ⟨i, failsAt_concat_iff.mpr (Or.inl hbefore), fun j hj => ⟨fun h => ?_, ?_⟩⟩
      · rcases (hnew j).mp h with h | ⟨-, rfl⟩
        · exact (hlater j hj).1 h
        · exact hstays rfl
      · intro other h
        rcases failsAt_concat_iff.mp h with h | ⟨-, h⟩
        · exact (hlater j hj).2 other h
        · rw [hquiet] at h
          cases h

/-- After one more move no move of the current game has failed if the move starts a game, or if
neither it nor any move before it has failed. -/
theorem noFailure_concat_iff : NoFailure first (moves ++ [move]) ↔
    move = .newGame ∨ (first.after moves).failure? move = none ∧ NoFailure first moves := by
  constructor
  · intro h
    by_cases hmove : move = .newGame
    · exact Or.inl hmove
    · refine Or.inr ⟨Option.eq_none_iff_forall_ne_some.mpr fun reason hfails => ?_, ?_⟩
      · obtain ⟨j, hj, hnew⟩ := h _ reason (failsAt_concat_iff.mpr (Or.inr ⟨rfl, hfails⟩))
        have hlt := (List.getElem?_eq_some_iff.mp hnew).1
        simp only [List.length_append, List.length_singleton] at hlt
        omega
      · intro i reason hfails
        obtain ⟨j, hj, hnew⟩ := h i reason (failsAt_concat_iff.mpr (Or.inl hfails))
        rcases getElem?_concat_eq_some_iff.mp hnew with hnew | ⟨-, hnew⟩
        · exact ⟨j, hj, hnew⟩
        · exact absurd hnew hmove
  · rintro (rfl | ⟨hquiet, h⟩) i reason hfails
    · rcases failsAt_concat_iff.mp hfails with hfails | ⟨-, hfails⟩
      · exact ⟨_, hfails.lt_length, getElem?_concat_eq_some_iff.mpr (Or.inr ⟨rfl, rfl⟩)⟩
      · cases hfails
    · rcases failsAt_concat_iff.mp hfails with hfails | ⟨-, hfails⟩
      · obtain ⟨j, hj, hnew⟩ := h i reason hfails
        exact ⟨j, hj, getElem?_concat_eq_some_iff.mpr (Or.inl hnew)⟩
      · rw [hquiet] at hfails
        cases hfails

/-! ### What is remembered -/

variable {corpus : List Equation} {options : GameOptions} {draws : Draws}

/-- A new game forgets the rejection that was remembered. It always starts, because the corpus of a
session that has begun is not empty. -/
theorem lastError_newGame (hc : corpus ≠ []) {s : Session} (hs : s.corpus = corpus) :
    (s.perform .newGame).session.lastError = none := by
  obtain ⟨target, hpick⟩ := Selection.exists_pick? s.options.selection (hs ▸ hc) (s.draws s.drawn)
  rw [perform, newGame_of_pick hpick]
  rfl

/-- **The rejection that is remembered.** After every run from the opening of a session, the session
remembers the reason of the latest failure of the current game, and nothing if no move of this game
has failed. In every state, accepted guesses, texts that pass a check, texts that come after the end
of a game and new observers leave what is remembered as it was. -/
theorem lastError_after_start (hstart : start corpus options draws = .ok first) :
    (∀ moves reason, (first.after moves).lastError = some reason ↔
      LatestFailure first moves reason) ∧
    (∀ moves, (first.after moves).lastError = none ↔ NoFailure first moves) ∧
    ∀ (s : Session) (move : Move), move.isSettled (s.perform move).answer = true →
      (s.perform move).session.lastError = s.lastError := by
  obtain ⟨target, htarget, rfl⟩ := exists_opened_of_start hstart
  have hc : corpus ≠ [] := List.ne_nil_of_mem htarget
  have hforgets (moves : List Move) : (((opened corpus options draws target).after moves).perform
      .newGame).session.lastError = none :=
    lastError_newGame hc (settings_after _ moves).1
  refine ⟨fun moves reason => ?_, fun moves => ?_, fun s move h => ?_⟩
  · induction moves using List.reverseRecOn with
    | nil => exact iff_of_false (fun h => by cases h) fun h => not_failsAt_nil h.choose_spec.1
    | append_singleton moves move ih =>
      rw [after_concat, latestFailure_concat_iff, ← ih]
      by_cases hmove : move = .newGame
      · subst hmove
        simp [hforgets, failure?]
      · rw [lastError_perform _ hmove, Option.or_eq_some_iff, and_iff_right hmove]
  · induction moves using List.reverseRecOn with
    | nil => exact iff_of_true rfl fun _ _ hfails => absurd hfails not_failsAt_nil
    | append_singleton moves move ih =>
      rw [after_concat, noFailure_concat_iff, ← ih]
      by_cases hmove : move = .newGame
      · subst hmove
        simp [hforgets]
      · rw [lastError_perform _ hmove, Option.or_eq_none_iff, or_iff_right hmove]
  · obtain ⟨hmove, hquiet⟩ := failure?_eq_none_of_isSettled h
    rw [lastError_perform s hmove, hquiet, Option.none_or]

/-- Two texts fail while the game goes on. After its end a text is turned away without being judged,
and another one is judged and fails. -/
theorem lastError_after_end_of_game :
    let target : Equation := ⟨[.digit 1, .operator .add, .digit 2, .operator .add, .digit 3,
      .equals, .digit 6], rfl⟩
    let first := opened [target] GameOptions.fixed id target
    let moves : List Move := [.check "1+1=2", .submit "12+3=15", .process "1+1+1=4",
      .submit "1+2+3=6", .submit "1+1=2", .check "=======", .subscribe, .check "12+3=15"]
    start [target] GameOptions.fixed id = .ok first ∧
      (first.after moves).status = .won ∧
      LatestFailure first moves .missingOperator ∧ LatestFailure first (moves.take 4) .sidesDiffer ∧
      NoFailure first (moves ++ [.newGame]) ∧
      (Move.submit "12+3=15").isSettled (first.perform (.submit "12+3=15")).answer = true ∧
      (first.perform (.submit "12+3=15")).session.lastError = first.lastError := by
  intro target first moves
  have hstart : start [target] GameOptions.fixed id = .ok first := rfl
  obtain ⟨hlatest, hnone, hsettled⟩ := lastError_after_start hstart
  have haccepted :
      (Move.submit "12+3=15").isSettled (first.perform (.submit "12+3=15")).answer = true := rfl
  exact ⟨hstart, rfl, (hlatest moves _).mp rfl, (hlatest (moves.take 4) _).mp rfl,
    (hnone (moves ++ [.newGame])).mp rfl, haccepted, hsettled _ _ haccepted⟩

end Session

end HiddenEquation
