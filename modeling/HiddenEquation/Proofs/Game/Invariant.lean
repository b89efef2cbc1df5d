import HiddenEquation.Proofs.Feedback.Laws
import HiddenEquation.Proofs.Game.Transitions

/-!
# What holds in every state of a session

The attempts left, the flag for a win, the history and the target of a session are kept apart, and
different operations change them. This file ties them together. The invariant says how they depend
on one another, every transition preserves it, and so it holds after every run of moves.

## Main definitions

* `Session.Sound` : the invariant.
* `Session.Consistent` : what a player can rely on in every state of a session.

## Main results

* `Session.Sound.transition` : every transition preserves the invariant.
* `Session.Sound.consistent` : the invariant gives everything a player can rely on.
* `Session.consistent_after_start` : every state of a session on a corpus that is not empty is
  consistent.
-/

namespace HiddenEquation.Session

/-- The invariant of a session that was opened on a corpus. -/
structure Sound (corpus : List Equation) (s : Session) : Prop where
  corpus_eq : s.corpus = corpus
  target_mem : s.target ∈ corpus
  /-- Every guess in the history has used one attempt. -/
  budget : s.remaining + s.history.length = maxAttempts
  /-- The history holds the feedback of the current target. -/
  rows : ∀ entry ∈ s.history, entry.2 = feedback entry.1 s.target
  /-- A game ends with its first perfect row. -/
  not_perfect : ∀ entry ∈ s.history.dropLast, entry.2 ≠ Row.perfect
  won_iff : s.won = true ↔ s.lastRow? = some Row.perfect

/-- What a player can rely on in every state of a session on a corpus. -/
structure Consistent (corpus : List Equation) (s : Session) : Prop where
  /-- The attempts left and the guesses of the current game are six together. -/
  budget : s.remaining + s.history.length = 6
  /-- An accepted guess uses one of the attempts that are left. -/
  attempt : ∀ text row, (s.submit text).answer = .ok row →
    (s.submit text).session.remaining + 1 = s.remaining
  /-- A game is won exactly if its last row is perfect. -/
  won_iff_perfect : s.won = true ↔ ∃ guess, s.history.getLast? = some (guess, Row.perfect)
  /-- A game is won exactly if its last guess is the target. -/
  won_iff_target : s.won = true ↔ ∃ row, s.history.getLast? = some (s.target, row)
  /-- No row before the last one is perfect. -/
  not_perfect : ∀ entry ∈ s.history.dropLast, entry.2 ≠ Row.perfect
  status_won : s.status = .won ↔ s.won = true
  status_lost : s.status = .lost ↔ s.won = false ∧ s.history.length = 6
  status_active : s.status = .active ↔ s.won = false ∧ s.history.length ≠ 6
  isOver_iff : s.isOver = true ↔ s.status ≠ .active
  target_mem : s.target ∈ corpus
  /-- Another game can always be started. -/
  newGame_ok : s.newGame.answer = .ok ()

namespace Sound

variable {corpus : List Equation} {s next : Session}

/-! ### The invariant is preserved -/

theorem isPerfect_iff {row : Row} : row.isPerfect = true ↔ row = Row.perfect := beq_iff_eq

/-- As long as a game is not won, no row in its history is perfect. -/
theorem not_perfect_of_not_won (h : Sound corpus s) (hwon : s.won = false) :
    ∀ entry ∈ s.history, entry.2 ≠ Row.perfect := by
  obtain hnil | ⟨earlier, last, hhistory⟩ := List.eq_nil_or_concat' s.history
  · simp [hnil]
  · have hlast : last.2 ≠ Row.perfect := by
      intro hperfect
      have := h.won_iff.mpr (by simp [lastRow?, hhistory, hperfect])
      rw [hwon] at this
      cases this
    have hearlier := h.not_perfect
    rw [hhistory, List.dropLast_concat] at hearlier
    intro entry hentry
    rw [hhistory, List.mem_append, List.mem_singleton] at hentry
    rcases hentry with hentry | rfl
    · exact hearlier entry hentry
    · exact hlast

theorem played (h : Sound corpus s) (hopen : s.isOver = false) (guess : Equation) :
    Sound corpus (s.play guess) where
  corpus_eq := h.corpus_eq
  target_mem := h.target_mem
  budget := by
    have hbudget := h.budget
    have hremaining := (isOver_eq_false_iff.mp hopen).2
    simp only [play, List.length_append, List.length_singleton]
    omega
  rows := by
    intro entry hentry
    rcases List.mem_append.mp hentry with hentry | hentry
    · exact h.rows entry hentry
    · rw [List.mem_singleton.mp hentry]
      rfl
  not_perfect := by
    simp only [play, List.dropLast_concat]
    exact h.not_perfect_of_not_won (isOver_eq_false_iff.mp hopen).1
  won_iff := by
    simp only [play, lastRow?, List.getLast?_concat, Option.map_some, Option.some.injEq]
    exact isPerfect_iff

theorem restarted (h : Sound corpus s) {target : Equation} (htarget : target ∈ corpus) :
    Sound corpus (s.restarted target) where
  corpus_eq := h.corpus_eq
  target_mem := htarget
  budget := rfl
  rows := by simp [Session.restarted]
  not_perfect := by simp [Session.restarted]
  won_iff := by simp [Session.restarted, lastRow?]

/-- Every transition preserves the invariant. -/
theorem transition (h : Sound corpus s) (ht : Transition s next) : Sound corpus next := by
  cases ht with
  | stayed lastError observers =>
    exact ⟨h.corpus_eq, h.target_mem, h.budget, h.rows, h.not_perfect, h.won_iff⟩
  | played hopen => exact h.played hopen _
  | restarted hpick =>
    rw [h.corpus_eq] at hpick
    exact h.restarted (Selection.mem_of_pick? hpick)

/-- A session that is opened on an equation of its corpus satisfies the invariant. -/
theorem opened {options : GameOptions} {draws : Draws} {target : Equation}
    (htarget : target ∈ corpus) : Sound corpus (Session.opened corpus options draws target) where
  corpus_eq := rfl
  target_mem := htarget
  budget := rfl
  rows := by simp [Session.opened]
  not_perfect := by simp [Session.opened]
  won_iff := by simp [Session.opened, lastRow?]

/-- A corpus that is not empty opens a session that satisfies the invariant. -/
theorem exists_start {corpus : List Equation} (hc : corpus ≠ []) (options : GameOptions)
    (draws : Draws) : ∃ s, start corpus options draws = .ok s ∧ Sound corpus s := by
  obtain ⟨target, hpick⟩ := Selection.exists_pick? options.selection hc (draws 0)
  exact ⟨Session.opened corpus options draws target, by simp only [start, hpick]; rfl,
    opened (Selection.mem_of_pick? hpick)⟩

/-- Every reachable state satisfies the invariant. -/
theorem reachable (h : Reachable corpus s) : Sound corpus s :=
  h.induction (fun _ _ _ htarget => opened htarget) fun hs ht => hs.transition ht

/-- Every run preserves the invariant. -/
theorem after (h : Sound corpus s) (moves : List Move) : Sound corpus (s.after moves) :=
  after_induction (fun hs ht => hs.transition ht) h moves

/-! ### What the invariant gives -/

/-- A game that goes on has attempts left, so that an accepted guess can use one. -/
theorem remaining_of_submit_ok {text : String} {row : Row} (h : (s.submit text).answer = .ok row) :
    (s.submit text).session.remaining + 1 = s.remaining := by
  obtain ⟨guess, hopen, -, -, hsession⟩ := exists_played_of_submit_ok h
  have hremaining := (isOver_eq_false_iff.mp hopen).2
  rw [hsession]
  exact Nat.sub_add_cancel (Nat.pos_of_ne_zero hremaining)

theorem won_iff_perfect (h : Sound corpus s) :
    s.won = true ↔ ∃ guess, s.history.getLast? = some (guess, Row.perfect) := by
  simp [h.won_iff, lastRow?]

/-- The last guess is the target exactly if the last row is perfect. -/
theorem won_iff_target (h : Sound corpus s) :
    s.won = true ↔ ∃ row, s.history.getLast? = some (s.target, row) := by
  have hrow {entry : Equation × Row} (hlast : s.history.getLast? = some entry) :
      entry.2 = Row.perfect ↔ entry.1 = s.target := by
    rw [h.rows entry (List.mem_of_getLast? hlast), feedback_eq_perfect_iff]
  rw [h.won_iff_perfect]
  constructor
  · rintro ⟨guess, hlast⟩
    obtain rfl : guess = s.target := (hrow hlast).mp rfl
    exact ⟨_, hlast⟩
  · rintro ⟨row, hlast⟩
    obtain rfl : row = Row.perfect := (hrow hlast).mpr rfl
    exact ⟨_, hlast⟩

/-- A game can be started on every session that has begun. -/
theorem exists_pick? (h : Sound corpus s) : ∃ target ∈ corpus,
    s.options.selection.pick? s.corpus (s.draws s.drawn) = some target := by
  have hc : s.corpus ≠ [] := by
    rw [h.corpus_eq]
    exact List.ne_nil_of_mem h.target_mem
  obtain ⟨target, hpick⟩ := Selection.exists_pick? s.options.selection hc (s.draws s.drawn)
  exact ⟨target, h.corpus_eq ▸ Selection.mem_of_pick? hpick, hpick⟩

theorem newGame_ok (h : Sound corpus s) : s.newGame.answer = .ok () := by
  obtain ⟨target, -, hpick⟩ := h.exists_pick?
  simp only [newGame, hpick]

theorem remaining_eq_zero_iff (h : Sound corpus s) : s.remaining = 0 ↔ s.history.length = 6 := by
  have hbudget := h.budget
  simp only [maxAttempts] at hbudget
  omega

/-- In every state that satisfies the invariant, a player can rely on everything stated. -/
theorem consistent (h : Sound corpus s) : Consistent corpus s where
  budget := h.budget
  attempt := fun _ _ hok => remaining_of_submit_ok hok
  won_iff_perfect := h.won_iff_perfect
  won_iff_target := h.won_iff_target
  not_perfect := h.not_perfect
  status_won := status_eq_won_iff
  status_lost := by rw [status_eq_lost_iff, h.remaining_eq_zero_iff]
  status_active := by rw [status_eq_active_iff, ne_eq, h.remaining_eq_zero_iff]
  isOver_iff := isOver_iff_status
  target_mem := h.target_mem
  newGame_ok := h.newGame_ok

end Sound

/-- **Every state of a session is consistent.** A session opens on every corpus that is not empty,
and whatever moves are made in it, the state that they reach is consistent. -/
theorem consistent_after_start (corpus : List Equation) (hc : corpus ≠ []) (options : GameOptions)
    (draws : Draws) : ∃ s, start corpus options draws = .ok s ∧
      ∀ moves, Consistent corpus (s.after moves) := by
  obtain ⟨s, hstart, hs⟩ := Sound.exists_start hc options draws
  exact ⟨s, hstart, fun moves => (hs.after moves).consistent⟩

/-- An accepted guess, a line that is none, the target, and then another game. -/
theorem consistent_after_start_one_equation :
    let target : Equation := ⟨[.digit 1, .operator .add, .digit 2, .operator .add, .digit 3,
      .equals, .digit 6], rfl⟩
    let moves : List Move :=
      [.submit "12+3=15", .submit "nonsense", .process "1+2+3=6", .newGame]
    [target] ≠ [] ∧ ∃ s, start [target] GameOptions.fixed id = .ok s ∧
      (∀ moves, Consistent [target] (s.after moves)) ∧
      ((List.range 5).map fun n => (s.after (moves.take n)).remaining) = [6, 5, 5, 4, 6] ∧
      ((List.range 5).map fun n => (s.after (moves.take n)).status) =
        [.active, .active, .active, .won, .active] ∧
      (s.after (moves.take 2)).lastError = some .wrongLength := by
  intro target moves
  have hcorpus : [target] ≠ [] := List.cons_ne_nil _ _
  obtain ⟨s, hstart, hconsistent⟩ := consistent_after_start [target] hcorpus GameOptions.fixed id
  have hopened : start [target] GameOptions.fixed id =
      .ok (opened [target] GameOptions.fixed id target) := rfl
  obtain rfl := Except.ok.inj (hopened.symm.trans hstart)
  exact ⟨hcorpus, _, hstart, hconsistent, by decide +kernel, by decide +kernel, by decide +kernel⟩

end HiddenEquation.Session
