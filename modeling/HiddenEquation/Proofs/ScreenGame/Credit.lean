import Mathlib.Algebra.BigOperators.Group.List.Basic
import Mathlib.Algebra.Order.Ring.Nat
import HiddenEquation.Proofs.ScreenGame.Runs

/-!
# How operations change the statistics

The statistics are brought up to date in two places. A game counts when its last guess is accepted,
and a game that is abandoned after a guess counts when another one is started. This file takes both
places together: an accepted guess credits the statistics with the game as it stands afterwards,
and as long as the game goes on this changes nothing. An operation that plays no accepted guess and
starts no game leaves the game and the statistics as they are.

The numbers of guesses of the games that were won stay in balance with the number of these games,
because a game that is won has at least one guess and at most six.

## Main definitions

* `Statistics.credit` : the statistics after a game, given how it stands.
* `Statistics.Balanced` : what holds of the statistics on their own.
* `ScreenGame.Course` : what an operation can do to the game and to the statistics.
* `ScreenGame.Fresh` : a game begins.

## Main results

* `ScreenGame.course_perform` : every operation that starts no game takes its course.
* `ScreenGame.fresh_newGame` : what starting another game does to the statistics.
* `ScreenGame.Balanced.perform` : the statistics stay balanced under every operation.
-/

namespace HiddenEquation

/-! ### The statistics alone -/

namespace Statistics

variable {s : Statistics}

/-- The statistics after a game, given how it stands. -/
def credit (s : Statistics) (session : Session) : Statistics :=
  match session.status with
  | .won => s.countWin session.history.length
  | .lost => s.countLoss
  | .active => s

theorem credit_of_active {session : Session} (h : session.status = .active) :
    s.credit session = s := by
  rw [credit, h]

theorem credit_of_sameGame {session next : Session} (h : session.SameGame next) :
    s.credit next = s.credit session := by
  rw [credit, h.status_eq, h.history_eq]
  rfl

theorem totalGames_credit (s : Statistics) (session : Session) :
    (s.credit session).totalGames = s.totalGames + if session.isOver then 1 else 0 := by
  have hover := Session.isOver_iff_status (s := session)
  rw [credit]
  cases hstatus : session.status <;> simp [hover, hstatus, countWin, countLoss]

theorem gamesWon_credit (s : Statistics) (session : Session) :
    (s.credit session).gamesWon = s.gamesWon + if session.status = .won then 1 else 0 := by
  rw [credit]
  cases session.status <;> simp [countWin, countLoss]

theorem distribution_credit (s : Statistics) (session : Session) (k : Nat) :
    (s.credit session).distribution[k]? = s.distribution[k]?.map
      (· + if session.status = .won ∧ session.history.length = k then 1 else 0) := by
  rw [credit]
  cases session.status with
  | won =>
    rw [countWin, List.getElem?_modify]
    by_cases hk : session.history.length = k <;> simp [hk]
  | lost | active => simp [countLoss]

/-- The places of the distribution belong to the numbers of guesses up to six, no game is won
without a guess, and every game that is won has its place. -/
structure Balanced (s : Statistics) : Prop where
  length_distribution : s.distribution.length = maxAttempts + 1
  distribution_zero : s.distribution[0]? = some 0
  sum_distribution : s.distribution.sum = s.gamesWon
  gamesWon_le : s.gamesWon ≤ s.totalGames

namespace Balanced

theorem init : Balanced {} := ⟨rfl, rfl, rfl, Nat.le_refl 0⟩

theorem countLoss (h : s.Balanced) : s.countLoss.Balanced :=
  ⟨h.length_distribution, h.distribution_zero, h.sum_distribution, Nat.le_succ_of_le h.gamesWon_le⟩

theorem countWin (h : s.Balanced) {guesses : Nat} (hpos : 0 < guesses)
    (hle : guesses ≤ maxAttempts) : (s.countWin guesses).Balanced where
  length_distribution := by
    rw [Statistics.countWin, List.length_modify]
    exact h.length_distribution
  distribution_zero := by
    rw [Statistics.countWin, List.getElem?_modify_ne _ _ (Nat.ne_of_gt hpos)]
    exact h.distribution_zero
  sum_distribution := by
    have hlt : guesses < s.distribution.length := by
      rw [h.length_distribution]
      exact Nat.lt_succ_of_le hle
    have hsum := h.sum_distribution
    rw [← List.take_append_drop guesses s.distribution, List.drop_eq_getElem_cons hlt,
      List.sum_append, List.sum_cons] at hsum
    rw [Statistics.countWin]
    change (s.distribution.modify guesses (· + 1)).sum = s.gamesWon + 1
    rw [List.modify_eq_take_cons_drop hlt, List.sum_append, List.sum_cons]
    omega
  gamesWon_le := Nat.succ_le_succ h.gamesWon_le

/-- Crediting a game keeps the balance: it has at most six guesses, and at least one if it was
won. -/
theorem credit (h : s.Balanced) {corpus : List Equation} {session : Session}
    (hsound : session.Sound corpus) : (s.credit session).Balanced := by
  have hbudget := hsound.budget
  rw [Statistics.credit]
  cases hstatus : session.status with
  | won =>
    obtain ⟨guess, hlast⟩ := hsound.won_iff_perfect.mp (Session.status_eq_won_iff.mp hstatus)
    have hpos : 0 < session.history.length :=
      List.length_pos_of_mem (List.mem_of_getLast? hlast)
    exact h.countWin hpos (by omega)
  | lost => exact h.countLoss
  | active => exact h

end Balanced

end Statistics

/-! ### One operation -/

namespace ScreenGame

variable {g next : ScreenGame} {action : Action} {corpus : List Equation}

/-- What an operation that does not start another game can do to the game and to the statistics,
together with the row that it earns. -/
inductive Course (g next : ScreenGame) : Option Row → Prop
  /-- No guess is accepted, and both stay as they are. -/
  | idle (hsame : g.session.SameGame next.session) (hstatistics : next.statistics = g.statistics) :
      Course g next none
  /-- A guess is accepted while the game goes on, and the statistics are credited with the game as
  it stands afterwards. -/
  | played (hopen : g.session.isOver = false) (guess : Equation)
      (hsession : next.session = g.session.play guess)
      (hstatistics : next.statistics = g.statistics.credit next.session) :
      Course g next (some (feedback guess g.session.target))

/-- The buffer does not bear on it. -/
theorem Course.of_buffer {buffer : List Symbol} {row : Option Row}
    (h : Course { g with buffer } next row) : Course g next row := by
  cases h with
  | idle hsame hstatistics => exact .idle hsame hstatistics
  | played hopen guess hsession hstatistics =>
    exact .played (g := g) hopen guess hsession hstatistics

theorem course_submit (g : ScreenGame) :
    Course g g.submit (g.session.submit g.bufferText).answer.toOption := by
  have hsubmitted := g.submitted_submit
  generalize g.submit = next at hsubmitted
  have hrow {guess : Equation} (hopen : g.session.isOver = false)
      (hguess : Guess.validate g.bufferText = .ok guess) :
      (g.session.submit g.bufferText).answer.toOption = some (feedback guess g.session.target) := by
    rw [(Session.submit_accepted hopen hguess).1]
    rfl
  cases hsubmitted with
  | refused hover journal =>
    rw [Session.submit, if_pos hover]
    exact .idle (.refl _) rfl
  | @rejected reason hopen hreason journal =>
    rw [Session.submit, if_neg (Bool.eq_false_iff.mp hopen), hreason]
    exact .idle (.remember _ _) rfl
  | @won guess hopen hguess hstatus journal =>
    rw [hrow hopen hguess]
    refine .played hopen guess rfl ?_
    change g.statistics.countWin _ = g.statistics.credit (g.session.play guess)
    rw [Statistics.credit, hstatus]
    rfl
  | @lost guess hopen hguess hstatus journal =>
    rw [hrow hopen hguess]
    refine .played hopen guess rfl ?_
    change g.statistics.countLoss = g.statistics.credit (g.session.play guess)
    rw [Statistics.credit, hstatus]
  | @active guess hopen hguess hstatus journal =>
    rw [hrow hopen hguess]
    exact .played hopen guess rfl (Statistics.credit_of_active hstatus).symm

theorem course_perform (g : ScreenGame) (hstays : action ≠ .newGame) :
    Course g (g.perform action) (g.row? action) := by
  have hperformed := g.performed_perform action
  generalize g.perform action = next at hperformed
  cases hperformed with
  | edited hquiet buffer messages =>
    rw [row?, hquiet]
    exact .idle (.refl _) rfl
  | @submitted _ buffer hsubmitting =>
    rw [row?, hsubmitting]
    exact (course_submit { g with buffer }).of_buffer
  | restarted => exact absurd rfl hstays

/-- A game begins: it goes on, and no guess has been accepted. -/
structure Fresh (g : ScreenGame) : Prop where
  status_eq : g.session.status = .active
  history_eq : g.session.history = []

/-- The screen game begins with a game, and nothing is counted yet. -/
theorem fresh_start {options : GameOptions} {draws : Draws} {session : Session}
    (hstart : Session.start corpus options draws = .ok session) :
    (start session).Fresh ∧ (start session).statistics = {} := by
  obtain ⟨target, -, rfl⟩ := Session.exists_opened_of_start hstart
  obtain ⟨messages, hfirst⟩ := exists_start_eq (Session.opened corpus options draws target)
  rw [hfirst]
  exact ⟨⟨rfl, rfl⟩, rfl⟩

/-- Another game always begins. The one that it ends counts if it went on after a guess. -/
theorem fresh_newGame (h : InStep corpus g) :
    g.newGame.Fresh ∧ g.newGame.statistics =
      if g.session.status = .active ∧ g.session.history ≠ [] then g.statistics.countLoss
      else g.statistics := by
  obtain ⟨target, -, hpick⟩ := h.sound.exists_pick?
  obtain ⟨messages, hnext⟩ := exists_newGame_eq hpick
  have hover := Session.isOver_iff_status (s := g.session)
  rw [hnext]
  refine ⟨⟨rfl, rfl⟩, ?_⟩
  change (if _ then _ else _) = _
  simp [hover, ← Bool.not_eq_true]

/-! ### Balance -/

/-- Mode and session are in step, and the statistics are balanced. -/
structure Balanced (corpus : List Equation) (g : ScreenGame) : Prop extends InStep corpus g where
  balanced : g.statistics.Balanced

namespace Balanced

theorem perform (h : Balanced corpus g) (action : Action) : Balanced corpus (g.perform action) := by
  have hstep := h.toInStep.perform action
  refine ⟨hstep, ?_⟩
  by_cases hstays : action = .newGame
  · subst hstays
    rw [ScreenGame.perform, (fresh_newGame h.toInStep).2]
    split
    · exact h.balanced.countLoss
    · exact h.balanced
  · have hcourse := g.course_perform hstays
    generalize g.row? action = row at hcourse
    cases hcourse with
    | idle hsame hstatistics => exact hstatistics ▸ h.balanced
    | played hopen guess hsession hstatistics =>
      rw [hstatistics]
      exact h.balanced.credit hstep.sound

theorem start {options : GameOptions} {draws : Draws} {session : Session}
    (hstart : Session.start corpus options draws = .ok session) :
    Balanced corpus (ScreenGame.start session) where
  toInStep := .start hstart
  balanced := (fresh_start hstart).2 ▸ Statistics.Balanced.init

/-- The number of guesses of a game is a place of the distribution. -/
theorem length_history_lt (h : Balanced corpus g) :
    g.session.history.length < g.statistics.distribution.length := by
  have hbudget := h.sound.budget
  rw [h.balanced.length_distribution]
  omega

end Balanced

end ScreenGame

end HiddenEquation
