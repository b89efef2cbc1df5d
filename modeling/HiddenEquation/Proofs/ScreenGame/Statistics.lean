import HiddenEquation.Proofs.ScreenGame.Credit
import HiddenEquation.Proofs.Text.Lines

/-!
# What the statistics count

A run of the screen game is divided into games: each operation that starts another game ends one of
them and begins the next. This file shows that every game counts at most once, whatever is submitted
after its end and however often another game is started, and that the counts are the numbers of
games of each kind.

Within a game there are two facts to carry along. The statistics are those at its beginning,
credited with the game as it stands, and the game has reached an end exactly if it stands at that
end now. Both hold because nothing but an accepted guess changes a game, and after its end none is
accepted.

## Main definitions

* `Round` : a game of a run.
* `Round.isFinished`, `Round.isUnderWay` : the game was won or lost, or it goes on after a guess.
* `ScreenGame.rounds` : the games of a run.
* `Statistics.AccountsFor` : the statistics count the games of a run, each one once.

## Main results

* `Round.Progress.of_fresh` : how the states of a game and the statistics go together.
* `ScreenGame.grow_rounds` : what a run adds to the statistics.
* `ScreenGame.statistics_accountsFor_rounds` : the statistics account for every game once.
-/

namespace HiddenEquation

/-! ### One game -/

/-- A game of a run: the state in which it begins, and the operations up to the next game. -/
structure Round where
  first : ScreenGame
  actions : List ScreenGame.Action

namespace Round

/-- The states of a game. -/
def states (r : Round) : List ScreenGame := r.first.states r.actions

/-- The state that the operations of a game leave. -/
def last (r : Round) : ScreenGame := r.first.performAll r.actions

/-- The number of guesses that were accepted in a game. -/
def accepted (r : Round) : Nat := (r.first.rows r.actions).length

/-- Whether a game has reached a status in one of its states. -/
def reaches (r : Round) (status : Status) : Bool := r.states.any (·.session.status == status)

/-- Whether a game was won or lost. -/
def isFinished (r : Round) : Bool := r.reaches .won || r.reaches .lost

/-- Whether a game goes on after its operations, with at least one accepted guess. -/
def isUnderWay (r : Round) : Bool := r.last.session.status == .active && 0 < r.accepted

/-- The same game after one more operation. -/
def concat (r : Round) (action : ScreenGame.Action) : Round :=
  { r with actions := r.actions ++ [action] }

section Concat

variable {r : Round} {action : ScreenGame.Action}

theorem last_concat : (r.concat action).last = r.last.perform action := by
  rw [last, concat, ScreenGame.performAll_append]
  rfl

theorem accepted_concat :
    (r.concat action).accepted = r.accepted + (r.last.row? action).toList.length := by
  rw [accepted, concat, ScreenGame.rows_concat, List.length_append]
  rfl

theorem reaches_concat (status : Status) : (r.concat action).reaches status =
    (r.reaches status || (r.last.perform action).session.status == status) := by
  rw [reaches, states, concat, ScreenGame.states_concat, List.any_append,
    ScreenGame.performAll_append]
  exact congrArg _ (Bool.or_false _)

end Concat

/-- How the states of a game, the rows that it earned and the statistics go together. -/
structure Progress (r : Round) : Prop where
  accepted_eq : r.accepted = r.last.session.history.length
  /-- A game that has ended in one way stays so. -/
  reaches_eq : ∀ status ≠ .active, r.reaches status = (r.last.session.status == status)
  statistics_eq : r.last.statistics = r.first.statistics.credit r.last.session

/-- A game that goes on has not been won or lost, and one that stands as before has reached what it
had reached before. -/
theorem Progress.concat {r : Round} (h : r.Progress) {action : ScreenGame.Action}
    (hstays : action ≠ .newGame) : (r.concat action).Progress := by
  have hcourse := r.last.course_perform hstays
  generalize hrow : r.last.row? action = row at hcourse
  cases hcourse with
  | idle hsame hstatistics =>
    exact
      { accepted_eq := by
          rw [accepted_concat, last_concat, hrow, hsame.history_eq]
          exact h.accepted_eq
        reaches_eq := fun status hended => by
          rw [reaches_concat, last_concat, hsame.status_eq, h.reaches_eq status hended,
            Bool.or_self]
        statistics_eq := by
          rw [last_concat, hstatistics, h.statistics_eq, Statistics.credit_of_sameGame hsame]
          rfl }
  | played hopen guess hsession hstatistics =>
    have hactive : r.last.session.status = .active :=
      Session.isOver_eq_false_iff_status.mp hopen
    exact
      { accepted_eq := by
          rw [accepted_concat, last_concat, hrow, hsession, h.accepted_eq, Session.play,
            List.length_append]
          rfl
        reaches_eq := fun status hended => by
          rw [reaches_concat, last_concat, h.reaches_eq status hended, hactive,
            beq_eq_false_iff_ne.mpr hended.symm, Bool.false_or]
        statistics_eq := by
          rw [last_concat, hstatistics, h.statistics_eq, Statistics.credit_of_active hactive]
          rfl }

/-- The induction is on the operations of the game, from the last one back. -/
theorem Progress.of_fresh {first : ScreenGame} (hfresh : first.Fresh)
    {actions : List ScreenGame.Action} (hstays : .newGame ∉ actions) :
    Progress ⟨first, actions⟩ := by
  induction actions using List.reverseRecOn with
  | nil =>
    exact
      { accepted_eq := by simp [accepted, last, ScreenGame.rows, ScreenGame.performAll,
          hfresh.history_eq]
        reaches_eq := fun status _ => by simp [reaches, states, last, ScreenGame.states,
          ScreenGame.performAll]
        statistics_eq := (Statistics.credit_of_active hfresh.status_eq).symm }
  | append_singleton actions action ih =>
    have hearlier := ih fun hmem => hstays (List.mem_append_left _ hmem)
    have hlater : action ≠ .newGame := by
      rintro rfl
      exact hstays List.mem_concat_self
    exact hearlier.concat hlater

namespace Progress

variable {r : Round}

theorem reaches_iff (h : r.Progress) {status : Status} (hended : status ≠ .active) :
    r.reaches status = true ↔ r.last.session.status = status := by
  rw [h.reaches_eq status hended, beq_iff_eq]

theorem reaches_won_iff (h : r.Progress) :
    r.reaches .won = true ↔ r.last.session.status = .won := h.reaches_iff (by decide)

theorem reaches_lost_iff (h : r.Progress) :
    r.reaches .lost = true ↔ r.last.session.status = .lost := h.reaches_iff (by decide)

theorem isFinished_eq (h : r.Progress) : r.isFinished = r.last.session.isOver := by
  rw [Bool.eq_iff_iff, isFinished, Bool.or_eq_true, h.reaches_won_iff,
    h.reaches_lost_iff, Session.isOver_iff_status]
  cases r.last.session.status <;> decide

theorem isUnderWay_iff (h : r.Progress) : r.isUnderWay = true ↔
    r.last.session.status = .active ∧ r.last.session.history ≠ [] := by
  rw [isUnderWay, Bool.and_eq_true, beq_iff_eq, decide_eq_true_iff, h.accepted_eq,
    List.length_pos_iff]

end Progress

end Round

/-! ### The games of a run -/

namespace ScreenGame

variable {g : ScreenGame} {corpus : List Equation}

/-- The games that begin in a state, one for each stretch of operations. -/
def roundsOf (g : ScreenGame) : List (List Action) → List Round
  | [] => []
  | stretch :: rest => ⟨g, stretch⟩ :: roundsOf (g.performAll stretch).newGame rest

/-- The games of a run. A new one begins with each operation that starts another game. -/
def rounds (g : ScreenGame) (actions : List Action) : List Round :=
  g.roundsOf (actions.splitOn .newGame)

theorem performAll_stretches (g : ScreenGame) (stretch next : List Action)
    (rest : List (List Action)) :
    g.performAll ([.newGame].intercalate (stretch :: next :: rest)) =
      ((g.performAll stretch).newGame).performAll ([.newGame].intercalate (next :: rest)) := by
  rw [List.intercalate_cons_cons, performAll_append, performAll_append]
  rfl

/-- The games of a run pass through its states, one after another. -/
theorem flatMap_states_rounds (g : ScreenGame) (actions : List Action) :
    (g.rounds actions).flatMap Round.states = g.states actions := by
  have hstretches (stretches : List (List Action)) (hne : stretches ≠ []) :
      (g.roundsOf stretches).flatMap Round.states =
        g.states ([.newGame].intercalate stretches) := by
    induction stretches generalizing g with
    | nil => exact absurd rfl hne
    | cons stretch rest ih =>
      rw [roundsOf, List.flatMap_cons]
      cases rest with
      | nil =>
        rw [List.intercalate_singleton]
        exact List.append_nil _
      | cons next rest =>
        rw [ih _ (List.cons_ne_nil next rest), List.intercalate_cons_cons, List.append_assoc,
          List.singleton_append, states_append_cons]
        rfl
  rw [rounds, hstretches _ (List.splitOn_ne_nil _ _), List.intercalate_splitOn]

/-- In every game of a run, the states and the statistics go together. -/
theorem progress_of_mem_roundsOf (h : InStep corpus g) (hfresh : g.Fresh)
    {stretches : List (List Action)} (hstays : ∀ stretch ∈ stretches, .newGame ∉ stretch) :
    ∀ r ∈ g.roundsOf stretches, r.Progress := by
  induction stretches generalizing g with
  | nil => simp [roundsOf]
  | cons stretch rest ih =>
    rw [List.forall_mem_cons] at hstays
    rw [roundsOf, List.forall_mem_cons]
    have hlast := h.performAll stretch
    exact ⟨.of_fresh hfresh hstays.1, ih hlast.newGame (fresh_newGame hlast).1 hstays.2⟩

end ScreenGame

/-- The number of games that were won with so many accepted guesses. -/
def Round.wonWith (games : List Round) (guesses : Nat) : Nat :=
  games.countP fun r => r.reaches .won && r.accepted == guesses

theorem Round.wonWith_cons (r : Round) (games : List Round) (guesses : Nat) :
    wonWith (r :: games) guesses = wonWith [r] guesses + wonWith games guesses := by
  rw [wonWith, List.countP_cons, Nat.add_comm, wonWith, List.countP_singleton, wonWith]

/-- What the games of a run add to the statistics. -/
structure Statistics.GrowsBy (before : Statistics) (games : List Round) (after : Statistics) :
    Prop where
  totalGames : after.totalGames = before.totalGames + games.countP Round.isFinished +
    games.dropLast.countP Round.isUnderWay
  gamesWon : after.gamesWon = before.gamesWon + games.countP (·.reaches .won)
  distribution : ∀ k,
    after.distribution[k]? = before.distribution[k]?.map (· + Round.wonWith games k)

/-- The last game of a run. -/
theorem Round.Progress.grow {r : Round} (h : r.Progress) :
    r.first.statistics.GrowsBy [r] r.last.statistics where
  totalGames := by
    rw [h.statistics_eq, Statistics.totalGames_credit, ← h.isFinished_eq, List.countP_singleton]
    rfl
  gamesWon := by
    rw [h.statistics_eq, Statistics.gamesWon_credit, List.countP_singleton]
    simp only [h.reaches_won_iff]
  distribution k := by
    rw [h.statistics_eq, Statistics.distribution_credit, wonWith, List.countP_singleton]
    simp only [Bool.and_eq_true, h.reaches_won_iff, h.accepted_eq, beq_iff_eq]

/-- A game of a run that is followed by others. It also counts if it was abandoned after a guess. -/
theorem Round.Progress.grow_cons {r : Round} {games : List Round} {between after : Statistics}
    (h : r.Progress) (hgames : games ≠ [])
    (hbetween : between = if r.last.session.status = .active ∧ r.last.session.history ≠ [] then
      r.last.statistics.countLoss else r.last.statistics)
    (hlater : between.GrowsBy games after) : r.first.statistics.GrowsBy (r :: games) after := by
  have hthis := h.grow
  simp only [← h.isUnderWay_iff] at hbetween
  constructor
  · have htotal : between.totalGames =
        r.last.statistics.totalGames + if r.isUnderWay then 1 else 0 := by
      rw [hbetween]
      split <;> rfl
    have hfinished := hthis.totalGames
    rw [List.countP_singleton, List.dropLast_singleton, List.countP_nil] at hfinished
    rw [hlater.totalGames, htotal, hfinished, List.dropLast_cons_of_ne_nil hgames,
      List.countP_cons, List.countP_cons]
    omega
  · have hwon : between.gamesWon = r.last.statistics.gamesWon := by
      rw [hbetween]
      split <;> rfl
    have hwonThis := hthis.gamesWon
    rw [List.countP_singleton] at hwonThis
    rw [hlater.gamesWon, hwon, hwonThis, List.countP_cons]
    omega
  · intro k
    have hdistribution : between.distribution = r.last.statistics.distribution := by
      rw [hbetween]
      split <;> rfl
    rw [hlater.distribution, hdistribution, hthis.distribution, Option.map_map,
      wonWith_cons r games]
    congr 1
    funext n
    exact Nat.add_assoc _ _ _

namespace ScreenGame

/-- A run adds its games to the statistics. -/
theorem grow_rounds {g : ScreenGame} {corpus : List Equation} (h : InStep corpus g)
    (hfresh : g.Fresh) (actions : List Action) :
    g.statistics.GrowsBy (g.rounds actions) (g.performAll actions).statistics := by
  have hstretches (stretches : List (List Action)) (hne : stretches ≠ [])
      (hstays : ∀ stretch ∈ stretches, .newGame ∉ stretch) :
      g.statistics.GrowsBy (g.roundsOf stretches)
        (g.performAll ([.newGame].intercalate stretches)).statistics := by
    induction stretches generalizing g with
    | nil => exact absurd rfl hne
    | cons stretch rest ih =>
      rw [List.forall_mem_cons] at hstays
      have hprogress : Round.Progress ⟨g, stretch⟩ := .of_fresh hfresh hstays.1
      have hlast := h.performAll stretch
      cases rest with
      | nil =>
        rw [List.intercalate_singleton]
        exact hprogress.grow
      | cons next rest =>
        -- The operation between two stretches ends the game of the first one.
        obtain ⟨hnext, hbetween⟩ := fresh_newGame hlast
        rw [performAll_stretches]
        exact hprogress.grow_cons (List.cons_ne_nil _ _) hbetween
          (ih hlast.newGame hnext (List.cons_ne_nil next rest) hstays.2)
  have hall := hstretches _ (List.splitOn_ne_nil Action.newGame actions)
    fun stretch hmem => Text.not_mem_of_mem_splitOn hmem
  rwa [List.intercalate_splitOn] at hall

end ScreenGame

/-- The statistics account for the games of a run, each one once. -/
structure Statistics.AccountsFor (s : Statistics) (games : List Round) : Prop where
  /-- The games that were won or lost count, and those that were under way when another one was
  started. The last game of a run was not ended by another one. -/
  totalGames_eq : s.totalGames =
    games.countP Round.isFinished + games.dropLast.countP Round.isUnderWay
  gamesWon_eq : s.gamesWon = games.countP (·.reaches .won)
  /-- Each place counts the games that were won with so many accepted guesses. -/
  distribution_eq : s.distribution = (List.range (maxAttempts + 1)).map (Round.wonWith games)
  distribution_zero : s.distribution[0]? = some 0
  sum_distribution : s.distribution.sum = s.gamesWon
  gamesWon_le : s.gamesWon ≤ s.totalGames
  /-- No game is counted twice: none is both won and lost, and none that has ended is under way. -/
  once : ∀ r ∈ games, ¬ (r.reaches .won ∧ r.reaches .lost) ∧ ¬ (r.isFinished ∧ r.isUnderWay)

/-- A game ends in one way at most, and a game that has ended is no longer under way. -/
theorem Round.Progress.once {r : Round} (h : r.Progress) :
    ¬ (r.reaches .won ∧ r.reaches .lost) ∧ ¬ (r.isFinished ∧ r.isUnderWay) := by
  rw [h.reaches_won_iff, h.reaches_lost_iff, h.isFinished_eq,
    Session.isOver_iff_status, h.isUnderWay_iff]
  constructor
  · rintro ⟨hwon, hlost⟩
    simp [hwon] at hlost
  · rintro ⟨hended, hactive, -⟩
    exact hended hactive

namespace ScreenGame

/-- **The statistics account for every game once.** Whatever operations are carried out after the
start of the screen game on a fresh session, divide the run into games at each operation that starts
another one. The statistics count the games of each kind, each game counts once at most, and in
every state of the run the number of guesses is a place of the distribution. -/
theorem statistics_accountsFor_rounds {corpus : List Equation} {options : GameOptions}
    {draws : Draws} {session : Session}
    (hstart : Session.start corpus options draws = .ok session) (actions : List Action) :
    ((start session).performAll actions).statistics.AccountsFor ((start session).rounds actions) ∧
      ((start session).rounds actions).flatMap Round.states = (start session).states actions ∧
      ∀ state ∈ (start session).states actions,
        state.session.history.length < state.statistics.distribution.length := by
  have hbegin := Balanced.start hstart
  obtain ⟨hfresh, hempty⟩ := fresh_start hstart
  have hbalanced := forall_mem_states (fun _ action h => h.perform action) hbegin actions
  have hlast := (hbalanced _ (performAll_mem_states _ actions)).balanced
  have hgrow := grow_rounds hbegin.toInStep hfresh actions
  rw [hempty] at hgrow
  have hprogress : ∀ r ∈ (start session).rounds actions, r.Progress :=
    progress_of_mem_roundsOf hbegin.toInStep hfresh fun stretch hmem =>
      Text.not_mem_of_mem_splitOn hmem
  refine ⟨?_, flatMap_states_rounds _ _, fun state hstate =>
    (hbalanced state hstate).length_history_lt⟩
  exact
    { totalGames_eq := hgrow.totalGames.trans (by simp)
      gamesWon_eq := hgrow.gamesWon.trans (by simp)
      distribution_eq := by
        refine List.ext_getElem? fun k => (hgrow.distribution k).trans ?_
        rw [List.getElem?_map, List.getElem?_replicate]
        by_cases hk : k < maxAttempts + 1
        · rw [if_pos hk, List.getElem?_range hk, Option.map_some, Option.map_some, Nat.zero_add]
        · have hbeyond : (List.range (maxAttempts + 1)).length ≤ k := by
            rw [List.length_range]
            exact Nat.le_of_not_lt hk
          rw [if_neg hk, List.getElem?_eq_none hbeyond]
          rfl
      distribution_zero := hlast.distribution_zero
      sum_distribution := hlast.sum_distribution
      gamesWon_le := hlast.gamesWon_le
      once := fun r hr => (hprogress r hr).once }

/-- A game that is abandoned after a guess, one that is won and submitted to afterwards, one that is
abandoned before any guess, and one that still goes on. -/
theorem statistics_accountsFor_four_games :
    let target : Equation := ⟨[.digit 1, .operator .add, .digit 2, .operator .add, .digit 3,
      .equals, .digit 6], rfl⟩
    let session := Session.opened [target] GameOptions.fixed id target
    let actions : List Action := [.guess "12+3=15", .newGame, .type "1+2+3=6", .submit,
      .guess "1+2+3=6", .newGame, .newGame, .guess "12+3=15"]
    Session.start [target] GameOptions.fixed id = .ok session ∧
      ((start session).performAll actions).statistics.AccountsFor
        ((start session).rounds actions) ∧
      ((start session).performAll actions).statistics = ⟨2, 1, [0, 1, 0, 0, 0, 0, 0]⟩ ∧
      ((start session).rounds actions).map Round.isFinished = [false, true, false, false] ∧
      ((start session).rounds actions).map Round.isUnderWay = [true, false, false, true] := by
  intro target session actions
  have hstart : Session.start [target] GameOptions.fixed id = .ok session := rfl
  exact ⟨hstart, (statistics_accountsFor_rounds hstart actions).1, by decide +kernel,
    by decide +kernel, by decide +kernel⟩

end ScreenGame

end HiddenEquation
