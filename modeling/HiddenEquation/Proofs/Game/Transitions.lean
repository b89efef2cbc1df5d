import HiddenEquation.Game.Moves

/-!
# What a move does to a session

Five operations act on a session, but they change it in three ways only. A move plays an accepted
guess, or it starts another game, or it leaves the current game as it is. What every state of a run
has in common is proved by going through these three ways once.

## Main definitions

* `Session.restarted` : a session at the beginning of a game with a given target.
* `Session.opened` : a session on its first game, with a given target.
* `Session.Submission` : the ends that submitting a text can have.
* `Transition` : what one move can do to a session.
* `Session.Reachable` : the states of the sessions on a corpus.

## Main results

* `Selection.exists_pick?` : a corpus that is not empty has a target.
* `Session.submission_submit` : submitting a text has one of three ends.
* `transition_perform` : every move is a transition.
* `Session.after_induction` : what every transition preserves holds after every run.
* `Session.Reachable.induction` : what holds of opened sessions and is preserved by every transition
  holds in every reachable state.
-/

namespace HiddenEquation

/-! ### Selection of targets -/

namespace Selection

variable {selection : Selection} {corpus : List Equation} {draw : Nat}

theorem mem_of_pick? {target : Equation} (h : selection.pick? corpus draw = some target) :
    target ∈ corpus := by
  cases selection with
  | random => exact List.mem_of_getElem? h
  | first => exact List.mem_of_mem_head? h

/-- A corpus that is not empty has a target, whatever number is drawn. -/
theorem exists_pick? (selection : Selection) (hc : corpus ≠ []) (draw : Nat) :
    ∃ target, selection.pick? corpus draw = some target := by
  cases selection with
  | random =>
    have hlt : draw % corpus.length < corpus.length :=
      Nat.mod_lt _ (List.length_pos_iff.mpr hc)
    exact ⟨_, List.getElem?_eq_getElem hlt⟩
  | first => exact ⟨_, List.head?_eq_some_head hc⟩

end Selection

/-! ### The end of a game -/

namespace Session

variable {s : Session}

theorem isOver_eq_false_iff : s.isOver = false ↔ s.won = false ∧ s.remaining ≠ 0 := by
  simp [isOver]

theorem status_eq_won_iff : s.status = .won ↔ s.won = true := by
  by_cases hwon : s.won = true <;> by_cases hzero : s.remaining = 0 <;> simp [status, hwon, hzero]

theorem status_eq_lost_iff : s.status = .lost ↔ s.won = false ∧ s.remaining = 0 := by
  by_cases hwon : s.won = true <;> by_cases hzero : s.remaining = 0 <;> simp [status, hwon, hzero]

theorem status_eq_active_iff : s.status = .active ↔ s.won = false ∧ s.remaining ≠ 0 := by
  by_cases hwon : s.won = true <;> by_cases hzero : s.remaining = 0 <;> simp [status, hwon, hzero]

/-- The current game has ended exactly if its status says so. -/
theorem isOver_eq_false_iff_status : s.isOver = false ↔ s.status = .active :=
  isOver_eq_false_iff.trans status_eq_active_iff.symm

theorem isOver_iff_status : s.isOver = true ↔ s.status ≠ .active := by
  rw [← Bool.not_eq_false, ne_eq, isOver_eq_false_iff_status]

end Session

/-! ### Transitions -/

namespace Session

/-- The session at the beginning of a game with a given target. -/
def restarted (s : Session) (target : Equation) : Session :=
  { s with
    drawn := s.drawn + 1
    target := target
    remaining := maxAttempts
    won := false
    unused := Symbol.all
    keyboard := Keyboard.empty
    history := []
    lastError := none }

end Session

/-- What one move can do to a session. -/
inductive Transition (s : Session) : Session → Prop
  /-- The current game stays as it is. -/
  | stayed (lastError : Option Rejection) (observers : Nat) :
      Transition s { s with lastError, observers }
  /-- A text is accepted as a guess while the game goes on. -/
  | played {text : String} {guess : Equation} (hopen : s.isOver = false)
      (hguess : Guess.validate text = .ok guess) : Transition s (s.play guess)
  /-- Another game starts. -/
  | restarted {target : Equation}
      (hpick : s.options.selection.pick? s.corpus (s.draws s.drawn) = some target) :
      Transition s (s.restarted target)

/-- The three ends that submitting a text can have. -/
inductive Session.Submission (s : Session) (text : String) :
    Effect (Except SessionError Row) → Prop
  /-- The game is over, and nothing happens at all. -/
  | refused (hover : s.isOver = true) :
      Submission s text { session := s, answer := .error .gameOver }
  /-- The text is no guess, and the reason is remembered. -/
  | rejected {reason : Rejection} (hopen : s.isOver = false)
      (hreason : Guess.validate text = .error reason) :
      Submission s text
        { session := { s with lastError := some reason }
          answer := .error (.invalid reason)
          journal := Guess.events text ++ [.guessRejected text reason] }
  /-- The text is played as a guess, and every observer is called. -/
  | accepted {guess : Equation} (hopen : s.isOver = false)
      (hguess : Guess.validate text = .ok guess) :
      Submission s text
        { session := s.play guess
          answer := .ok (feedback guess s.target)
          calls := (s.play guess).notify
          journal := Guess.events text ++
            .guessPlayed guess (feedback guess s.target) (s.play guess).remaining ::
              (s.play guess).outcome }

theorem Session.submission_submit (s : Session) (text : String) :
    s.Submission text (s.submit text) := by
  rw [submit]
  by_cases hover : s.isOver = true
  · rw [if_pos hover]
    exact .refused hover
  · rw [if_neg hover]
    cases hguess : Guess.validate text with
    | error reason => exact .rejected (Bool.eq_false_iff.mpr hover) hguess
    | ok guess => exact .accepted (Bool.eq_false_iff.mpr hover) hguess

/-- A text that is accepted while the game goes on is played, and its feedback is the answer. -/
theorem Session.submit_accepted {s : Session} {text : String} {guess : Equation}
    (hopen : s.isOver = false) (hguess : Guess.validate text = .ok guess) :
    (s.submit text).answer = .ok (feedback guess s.target) ∧
      (s.submit text).session = s.play guess := by
  rw [submit, if_neg (Bool.eq_false_iff.mp hopen), hguess]
  exact ⟨rfl, rfl⟩

/-- A guess that is answered by a row was accepted while the game went on, and it was played. -/
theorem Session.exists_played_of_submit_ok {s : Session} {text : String} {row : Row}
    (h : (s.submit text).answer = .ok row) :
    ∃ guess, s.isOver = false ∧ Guess.validate text = .ok guess ∧ row = feedback guess s.target ∧
      (s.submit text).session = s.play guess := by
  have hsubmission := s.submission_submit text
  generalize s.submit text = effect at h hsubmission
  cases hsubmission with
  | refused => cases h
  | rejected => cases h
  | accepted hopen hguess => exact ⟨_, hopen, hguess, (Except.ok.inj h).symm, rfl⟩

/-- When the corpus has a target for another game, the session starts it. -/
theorem Session.newGame_of_pick {s : Session} {target : Equation}
    (hpick : s.options.selection.pick? s.corpus (s.draws s.drawn) = some target) :
    s.newGame =
      { session := s.restarted target
        answer := .ok ()
        calls := (s.restarted target).notify
        journal := [.gameStarted] } := by
  simp only [newGame, hpick]
  rfl

/-- When the corpus has none, nothing happens. -/
theorem Session.newGame_of_no_pick {s : Session}
    (hpick : s.options.selection.pick? s.corpus (s.draws s.drawn) = none) :
    s.newGame = { session := s, answer := .error .noEquations } := by
  simp only [newGame, hpick]

namespace Transition

variable (s : Session) (text : String)

theorem submit : Transition s (s.submit text).session := by
  have hsubmission := s.submission_submit text
  generalize s.submit text = effect at hsubmission
  cases hsubmission with
  | refused => exact stayed s.lastError s.observers
  | @rejected reason => exact stayed (some reason) s.observers
  | accepted hopen hguess => exact played hopen hguess

theorem check : Transition s (s.check text).session := by
  rw [Session.check]
  cases Guess.validate text with
  | error reason => exact stayed (some reason) s.observers
  | ok guess => exact stayed s.lastError s.observers

theorem newGame : Transition s s.newGame.session := by
  cases hpick : s.options.selection.pick? s.corpus (s.draws s.drawn) with
  | none =>
    rw [Session.newGame_of_no_pick hpick]
    exact stayed s.lastError s.observers
  | some target =>
    rw [Session.newGame_of_pick hpick]
    exact restarted hpick

end Transition

/-- Every move is a transition. -/
theorem transition_perform (s : Session) (move : Move) : Transition s (s.perform move).session := by
  cases move with
  | submit text => exact Transition.submit s text
  | process text => exact Transition.submit s text
  | check text => exact Transition.check s text
  | newGame => exact Transition.newGame s
  | subscribe => exact Transition.stayed s.lastError (s.observers + 1)

/-- The corpus and the options of a session never change. -/
theorem Transition.settings_eq {s next : Session} (h : Transition s next) :
    next.corpus = s.corpus ∧ next.options = s.options := by
  cases h <;> exact ⟨rfl, rfl⟩

/-- A property that every transition preserves holds after every run. -/
theorem Session.after_induction {P : Session → Prop}
    (hstep : ∀ {s next}, P s → Transition s next → P next) {s : Session} (hs : P s)
    (moves : List Move) : P (s.after moves) := by
  induction moves generalizing s with
  | nil => exact hs
  | cons move moves ih => exact ih (hstep hs (transition_perform s move))

/-! ### Reachable states -/

namespace Session

/-- A session on its first game, with a given target. -/
def opened (corpus : List Equation) (options : GameOptions) (draws : Draws) (target : Equation) :
    Session where
  corpus := corpus
  options := options
  draws := draws
  drawn := 1
  target := target
  remaining := maxAttempts
  won := false
  unused := Symbol.all
  keyboard := Keyboard.empty
  history := []
  lastError := none
  observers := 0

variable {corpus : List Equation} {options : GameOptions} {draws : Draws} {s : Session}

/-- A session that starts is opened on some equation of its corpus. -/
theorem exists_opened_of_start (h : start corpus options draws = .ok s) :
    ∃ target ∈ corpus, s = opened corpus options draws target := by
  rw [start] at h
  cases hpick : options.selection.pick? corpus (draws 0) with
  | none =>
    rw [hpick] at h
    cases h
  | some target =>
    rw [hpick] at h
    exact ⟨target, Selection.mem_of_pick? hpick, (Except.ok.inj h).symm⟩

theorem settings_after (s : Session) (moves : List Move) :
    (s.after moves).corpus = s.corpus ∧ (s.after moves).options = s.options := by
  refine after_induction (P := fun t => t.corpus = s.corpus ∧ t.options = s.options)
    (fun ht hstep => ?_) ⟨rfl, rfl⟩ moves
  obtain ⟨hcorpus, hoptions⟩ := Transition.settings_eq hstep
  exact ⟨hcorpus.trans ht.1, hoptions.trans ht.2⟩

theorem after_append (s : Session) (moves later : List Move) :
    s.after (moves ++ later) = (s.after moves).after later := List.foldl_append

/-- A state that a session on a corpus can be in: it is opened, and then moves are made. -/
def Reachable (corpus : List Equation) (s : Session) : Prop :=
  ∃ options draws first moves, start corpus options draws = .ok first ∧ first.after moves = s

namespace Reachable

/-- What holds of opened sessions and is preserved by every transition holds in every reachable
state. -/
theorem induction {P : Session → Prop}
    (hopened : ∀ options draws, ∀ target ∈ corpus, P (opened corpus options draws target))
    (hstep : ∀ {s next}, P s → Transition s next → P next) (h : Reachable corpus s) : P s := by
  obtain ⟨options, draws, first, moves, hstart, rfl⟩ := h
  obtain ⟨target, htarget, rfl⟩ := exists_opened_of_start hstart
  exact after_induction hstep (hopened options draws target htarget) moves

theorem after (h : Reachable corpus s) (moves : List Move) : Reachable corpus (s.after moves) := by
  obtain ⟨options, draws, first, earlier, hstart, rfl⟩ := h
  exact ⟨options, draws, first, earlier ++ moves, hstart, after_append first earlier moves⟩

end Reachable

end Session

end HiddenEquation
