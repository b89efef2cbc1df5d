import HiddenEquation.Proofs.Game.Invariant
import HiddenEquation.Proofs.Guess.Verdict
import HiddenEquation.Proofs.Keyboard.Best

/-!
# The views of a game

Beside the history of the current game, a session keeps what a player wants to see of it: the
colours of the keyboard, the symbols that are not used yet, and the row of the last guess. Each
accepted guess changes all of them, a new game resets all of them, and nothing else touches them.
This file shows that they are never out of date: in every reachable state they are what the history
and the target of the current game give.

## Main definitions

* `unusedIn` : the symbols that no guess of a history holds.
* `Session.UpToDate` : the keyboard and the unused symbols fit the history.
* `Session.Recomputed` : everything that a session keeps of a game, in terms of history and target.

## Main results

* `Session.UpToDate.transition` : every transition keeps the views up to date.
* `Session.recomputed_of_reachable` : the views of every reachable state can be recomputed.
-/

namespace HiddenEquation

/-- The symbols that no guess of a history holds, in keyboard order. -/
def unusedIn (history : List (Equation × Row)) : List Symbol :=
  Symbol.all.filter fun symbol => history.all fun entry => !entry.1.contains symbol

theorem unusedIn_concat (history : List (Equation × Row)) (guess : Equation) (row : Row) :
    unusedIn (history ++ [(guess, row)]) =
      (unusedIn history).filter fun symbol => !guess.contains symbol := by
  rw [unusedIn, unusedIn, List.filter_filter]
  refine List.filter_congr fun symbol _ => ?_
  rw [List.all_append, List.all_cons, List.all_nil, Bool.and_true, Bool.and_comm]

/-- The unused symbols are those that have no colour on the keyboard. -/
theorem unusedIn_eq_filter_color? (history : List (Equation × Row)) :
    unusedIn history =
      Symbol.all.filter fun symbol => ((Keyboard.ofHistory history).color? symbol).isNone := by
  refine List.filter_congr fun symbol _ => ?_
  rw [Bool.eq_iff_iff, Option.isNone_iff_eq_none, Keyboard.color?_ofHistory_eq_none_iff,
    List.all_eq_true]
  simp only [Bool.not_eq_true', ← Bool.not_eq_true, Equation.contains_iff]

namespace Session

/-- The keyboard and the unused symbols fit the history, and the history holds guesses that are
accepted. -/
structure UpToDate (s : Session) : Prop where
  accepted : ∀ entry ∈ s.history, Guess.validate entry.1.text = .ok entry.1
  keyboard : s.keyboard = Keyboard.ofHistory s.history
  unused : s.unused = unusedIn s.history

/-- Everything that a session keeps of the current game is what its history and target give. -/
structure Recomputed (s : Session) : Prop where
  /-- The guesses are accepted ones. -/
  accepted : ∀ entry ∈ s.history, Guess.validate entry.1.text = .ok entry.1
  /-- The rows are the feedback of the current target. -/
  rows : ∀ entry ∈ s.history, entry.2 = feedback entry.1 s.target
  keyboard : s.keyboard = s.history.foldl (fun k entry => k.record entry.1 entry.2) Keyboard.empty
  /-- The unused symbols are those that occur in no guess. -/
  unused : s.unused =
    Symbol.all.filter fun symbol => s.history.all fun entry => !entry.1.contains symbol
  /-- The unused symbols are those that have no colour on the keyboard. -/
  uncolored : s.unused = Symbol.all.filter fun symbol => (s.keyboard.color? symbol).isNone
  lastRow_none_iff : s.lastRow? = none ↔ s.history = []
  lastRow_some_iff : ∀ row, s.lastRow? = some row ↔
    ∃ guess, s.history.getLast? = some (guess, row)

namespace UpToDate

variable {s next : Session}

theorem opened (corpus : List Equation) (options : GameOptions) (draws : Draws)
    (target : Equation) : UpToDate (Session.opened corpus options draws target) :=
  ⟨by simp [Session.opened], rfl, by simp [Session.opened, unusedIn]⟩

theorem played (h : UpToDate s) {text : String} {guess : Equation}
    (hguess : Guess.validate text = .ok guess) : UpToDate (s.play guess) where
  accepted := by
    intro entry hentry
    rcases List.mem_append.mp hentry with hentry | hentry
    · exact h.accepted entry hentry
    · rw [List.mem_singleton.mp hentry, Guess.text_eq_of_validate hguess, hguess]
  keyboard := by
    simp only [play, Keyboard.ofHistory_concat, h.keyboard]
  unused := by
    simp only [play, unusedIn_concat, h.unused]

theorem restarted (s : Session) (target : Equation) : UpToDate (s.restarted target) :=
  ⟨by simp [Session.restarted], rfl, by simp [Session.restarted, unusedIn]⟩

/-- Every transition keeps the views up to date. -/
theorem transition (h : UpToDate s) (ht : Transition s next) : UpToDate next := by
  cases ht with
  | stayed lastError observers => exact ⟨h.accepted, h.keyboard, h.unused⟩
  | played hopen hguess => exact h.played hguess
  | restarted hpick => exact restarted s _

/-- The views of every reachable state are up to date. -/
theorem reachable {corpus : List Equation} (h : Reachable corpus s) : UpToDate s :=
  h.induction (fun options draws target _ => opened corpus options draws target)
    fun hs ht => hs.transition ht

end UpToDate

/-- **The views of a game can be recomputed.** In every reachable state, what a session keeps of the
current game is what the history and the target of that game give. -/
theorem recomputed_of_reachable {corpus : List Equation} {s : Session} (h : Reachable corpus s) :
    Recomputed s := by
  have hviews := UpToDate.reachable h
  exact
    { accepted := hviews.accepted
      rows := (Sound.reachable h).rows
      keyboard := hviews.keyboard
      unused := hviews.unused
      uncolored := by rw [hviews.unused, hviews.keyboard, unusedIn_eq_filter_color?]
      lastRow_none_iff := by simp [lastRow?]
      lastRow_some_iff := fun row => by simp [lastRow?] }

/-- Two guesses and a rejected text between them, when the target is `1+2+3=6`. -/
theorem recomputed_after_two_guesses :
    let target : Equation := ⟨[.digit 1, .operator .add, .digit 2, .operator .add, .digit 3,
      .equals, .digit 6], rfl⟩
    ∃ s, Reachable [target] s ∧ s.history.length = 2 ∧ Recomputed s := by
  intro target
  let first : Session := opened [target] GameOptions.fixed id target
  let moves : List Move := [.submit "1+1-2=0", .submit "1+1=2", .process "6-5+1=2"]
  have hreach : Reachable [target] (first.after moves) :=
    ⟨GameOptions.fixed, id, first, moves, rfl, rfl⟩
  exact ⟨first.after moves, hreach, rfl, recomputed_of_reachable hreach⟩

end Session

end HiddenEquation
