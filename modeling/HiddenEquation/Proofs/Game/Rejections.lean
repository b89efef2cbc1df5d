import HiddenEquation.Proofs.Game.Calls

/-!
# Texts that are turned away

A session turns a text away for one of two reasons. After the end of a game every text is turned
away, whatever it is, and the session does not change at all. As long as a game goes on, the texts
that are no guesses are turned away, and the session remembers why. Judging a text without playing
it may also change what is remembered, and nothing else. So a text that is turned away leaves no
trace in the game: not in the target, the attempts, the history or the keyboard, and not in the
calls to observers. Nor does it bear on what is turned away later.

## Main definitions

* `Session.SameGame` : two sessions that differ in the remembered rejection at most.
* `Session.TurnsAway` : how a session turns away a text that is submitted.
* `Session.Harmless` : the moves that only judge a text or submit one that is turned away.

## Main results

* `Session.rejections_atomic` : a text that is turned away leaves the game as it was.
* `Session.sameGame_after` : so do any number of them, one after another.
-/

namespace HiddenEquation.Session

variable {s next : Session} {text : String}

/-! ### Sessions in the same game -/

/-- The same session, but for the rejection that it remembers. -/
def SameGame (s next : Session) : Prop := next = { s with lastError := next.lastError }

namespace SameGame

theorem refl (s : Session) : s.SameGame s := rfl

theorem remember (s : Session) (lastError : Option Rejection) :
    s.SameGame { s with lastError } := rfl

theorem trans {later : Session} (h : s.SameGame next) (hlater : next.SameGame later) :
    s.SameGame later := by
  rw [SameGame] at h hlater ⊢
  rw [hlater, h]

theorem isOver_eq (h : s.SameGame next) : next.isOver = s.isOver := by
  rw [h]
  rfl

theorem status_eq (h : s.SameGame next) : next.status = s.status := by
  rw [h]
  rfl

theorem history_eq (h : s.SameGame next) : next.history = s.history := by
  rw [h]

end SameGame

/-! ### One text -/

/-- How a session turns away a text that is submitted, given what submitting it brings about. -/
structure TurnsAway {α : Type} (s : Session) (text : String)
    (effect : Effect (Except SessionError α)) : Prop where
  /-- After the end of a game every text is turned away, and not even the rejection that is
  remembered changes. -/
  ended : s.isOver = true →
    effect.answer = .error .gameOver ∧ effect.session.lastError = s.lastError
  /-- As long as the game goes on, the texts that are no guesses are turned away, each for its
  reason. -/
  invalid_iff : s.isOver = false → ∀ error, effect.answer = .error error ↔
    ∃ reason, Guess.validate text = .error reason ∧ error = .invalid reason
  /-- The reason is remembered. -/
  remembered : s.isOver = false → ∀ reason, Guess.validate text = .error reason →
    effect.session.lastError = some reason
  /-- The game stays as it was. -/
  sameGame : ∀ error, effect.answer = .error error → s.SameGame effect.session
  /-- No observer is called. -/
  silent : ∀ error, effect.answer = .error error → effect.calls = []

theorem Submission.turnsAway {effect : Effect (Except SessionError Row)}
    (h : s.Submission text effect) : s.TurnsAway text effect := by
  cases h with
  | refused hover =>
    exact
      { ended := fun _ => ⟨rfl, rfl⟩
        invalid_iff := fun hopen => by simp [hover] at hopen
        remembered := fun hopen => by simp [hover] at hopen
        sameGame := fun _ _ => .refl s
        silent := fun _ _ => rfl }
  | @rejected reason hopen hreason =>
    exact
      { ended := fun hover => by simp [hopen] at hover
        invalid_iff := fun _ error => by simp [hreason, eq_comm]
        remembered := fun _ other hother => by
          rw [hreason, Except.error.injEq] at hother
          exact congrArg some hother
        sameGame := fun _ _ => .remember s (some reason)
        silent := fun _ _ => rfl }
  | accepted hopen hguess =>
    exact
      { ended := fun hover => by simp [hopen] at hover
        invalid_iff := fun _ error => by simp [hguess]
        remembered := fun _ reason hreason => by simp [hguess] at hreason
        sameGame := fun error herror => by cases herror
        silent := fun error herror => by cases herror }

/-- What is answered to an accepted text makes no difference. -/
theorem TurnsAway.map {α β : Type} {effect : Effect (Except SessionError α)}
    (h : s.TurnsAway text effect) (f : α → β) :
    s.TurnsAway text (effect.map fun answer => answer.map f) := by
  have herror (error : SessionError) :
      effect.answer.map f = .error error ↔ effect.answer = .error error := by
    cases effect.answer <;> simp [Except.map]
  exact
    { ended := fun hover => ⟨(herror _).mpr (h.ended hover).1, (h.ended hover).2⟩
      invalid_iff := fun hopen error => (herror error).trans (h.invalid_iff hopen error)
      remembered := h.remembered
      sameGame := fun error hanswer => h.sameGame error ((herror error).mp hanswer)
      silent := fun error hanswer => h.silent error ((herror error).mp hanswer) }

theorem sameGame_check (s : Session) (text : String) : s.SameGame (s.check text).session := by
  rw [check]
  cases Guess.validate text with
  | ok guess => exact .refl s
  | error reason => exact .remember s (some reason)

theorem calls_check (s : Session) (text : String) : (s.check text).calls = [] := by
  rw [check]
  cases Guess.validate text <;> rfl

/-- **A text that is turned away leaves no trace.** In every state of a session, a text that is
submitted and turned away, for its row or without asking for it, leaves the game as it was, and no
observer is called; and so does judging a text without playing it, also after the end of a game. -/
theorem rejections_atomic (s : Session) (text : String) :
    s.TurnsAway text (s.submit text) ∧ s.TurnsAway text (s.process text) ∧
      s.SameGame (s.check text).session ∧ (s.check text).calls = [] :=
  ⟨(s.submission_submit text).turnsAway, (s.submission_submit text).turnsAway.map _,
    sameGame_check s text, calls_check s text⟩

/-! ### Any number of texts -/

/-- The moves that only judge a text, or that submit one that is turned away. -/
def Harmless (s : Session) : Move → Prop
  | .submit text | .process text => s.isOver = true ∨ ∃ reason, Guess.validate text = .error reason
  | .check _ => True
  | .newGame | .subscribe => False

/-- Whether a move is harmless does not depend on the rejection that is remembered. -/
theorem SameGame.harmless (h : s.SameGame next) {move : Move} (hmove : s.Harmless move) :
    next.Harmless move := by
  cases move with
  | submit text | process text => rwa [Harmless, h.isOver_eq]
  | check text => trivial
  | newGame | subscribe => exact hmove

theorem Submission.exists_error {effect : Effect (Except SessionError Row)}
    (h : s.Submission text effect)
    (hharmless : s.isOver = true ∨ ∃ reason, Guess.validate text = .error reason) :
    ∃ error, effect.answer = .error error := by
  cases h with
  | refused | rejected => exact ⟨_, rfl⟩
  | accepted hopen hguess => simp [hopen, hguess] at hharmless

theorem Harmless.perform {move : Move} (h : s.Harmless move) :
    s.SameGame (s.perform move).session ∧ (s.perform move).calls = [] := by
  cases move with
  | submit text | process text =>
    have hsubmission := s.submission_submit text
    obtain ⟨error, herror⟩ := hsubmission.exists_error h
    exact ⟨hsubmission.turnsAway.sameGame error herror, hsubmission.turnsAway.silent error herror⟩
  | check text => exact ⟨sameGame_check s text, calls_check s text⟩
  | newGame | subscribe => exact h.elim

/-- However many texts are judged or turned away, one after another, the game stays as it was and no
observer is called. -/
theorem sameGame_after {moves : List Move} (h : ∀ move ∈ moves, s.Harmless move) :
    s.SameGame (s.after moves) ∧ s.callLog moves = [] := by
  induction moves generalizing s with
  | nil => exact ⟨.refl s, rfl⟩
  | cons move moves ih =>
    obtain ⟨hsame, hsilent⟩ := (h move List.mem_cons_self).perform
    obtain ⟨hlater, hlog⟩ := ih fun later hlater =>
      hsame.harmless (h later (List.mem_cons_of_mem move hlater))
    refine ⟨hsame.trans hlater, ?_⟩
    rw [callLog] at hlog ⊢
    rw [run, List.flatMap_cons, hsilent, hlog, List.append_nil]

end HiddenEquation.Session
