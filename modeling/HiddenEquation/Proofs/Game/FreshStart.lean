import HiddenEquation.Proofs.Game.Calls

/-!
# Fresh starts

A session that starts another game forgets the game before. What it still has of its past are its
observers, which stay, and its place in the supply of numbers from which targets are drawn. Where
every draw gives the same target, this place cannot be noticed. Then a session that starts another
game cannot be told from one that was just opened, with as many observers: from there on, any moves
give the same answers, show the same views and make the same calls.

The supply of numbers is a bystander: moves commute with its replacement. A session that starts
another game is a newly opened one with another supply, and so the runs of the two show the same.

## Main definitions

* `Session.View` : everything that a session can be asked for.
* `Effect.Report`, `Effect.report` : what a move shows to the outside.
* `Selection.Constant` : every draw gives the same target.
* `Session.redrawn` : a session with another supply of numbers.
* `Session.ShowsTheSame` : two sessions that cannot be told apart.

## Main results

* `Session.exists_perform_redrawn` : moves commute with the replacement of the supply.
* `Session.map_report_run_redrawn` : runs do not show the supply.
* `Session.newGame_like_start` : a session that starts another game is like a newly opened one.
-/

namespace HiddenEquation

/-! ### What is shown to the outside -/

/-- Everything that a session can be asked for. -/
structure Session.View where
  options : GameOptions
  target : Equation
  remaining : Nat
  status : Status
  isOver : Bool
  won : Bool
  unused : List Symbol
  keyboard : Keyboard
  lastRow : Option Row
  lastError : Option Rejection
  history : List (Equation × Row)

/-- What a session answers when it is asked for everything. -/
def Session.view (s : Session) : Session.View where
  options := s.options
  target := s.target
  remaining := s.remaining
  status := s.status
  isOver := s.isOver
  won := s.won
  unused := s.unused
  keyboard := s.keyboard
  lastRow := s.lastRow?
  lastError := s.lastError
  history := s.history

/-- What a move shows to the outside: its answer, the session after it, and the observers that are
called, each with what it can see. -/
structure Effect.Report where
  answer : Answer
  view : Session.View
  calls : List (Nat × Session.View)

/-- What an effect shows to the outside. -/
def Effect.report (e : Effect Answer) : Effect.Report where
  answer := e.answer
  view := e.session.view
  calls := e.calls.map fun call => (call.observer, call.seen.view)

/-! ### Selections that always give the same target -/

namespace Selection

variable {selection : Selection} {corpus : List Equation}

/-- Every draw gives the same target. -/
def Constant (selection : Selection) (corpus : List Equation) : Prop :=
  ∀ draw other, selection.pick? corpus draw = selection.pick? corpus other

theorem constant_of_first (corpus : List Equation) : Constant .first corpus := fun _ _ => rfl

theorem constant_of_equal (selection : Selection) (h : ∀ e ∈ corpus, ∀ other ∈ corpus, e = other) :
    selection.Constant corpus := by
  intro draw other
  by_cases hc : corpus = []
  · subst hc
    cases selection <;> rfl
  · obtain ⟨target, htarget⟩ := exists_pick? selection hc draw
    obtain ⟨target', htarget'⟩ := exists_pick? selection hc other
    rw [htarget, htarget', h target (mem_of_pick? htarget) target' (mem_of_pick? htarget')]

end Selection

/-! ### Another supply of numbers -/

/-- The same session with another supply of numbers. -/
def Session.redrawn (s : Session) (draws : Draws) (drawn : Nat) : Session := { s with draws, drawn }

/-- The same effect on sessions with another supply of numbers. -/
def Effect.redrawn {α : Type} (e : Effect α) (draws : Draws) (drawn : Nat) : Effect α :=
  { e with
    session := e.session.redrawn draws drawn
    calls := e.calls.map fun call => ⟨call.observer, call.seen.redrawn draws drawn⟩ }

theorem Effect.report_redrawn (e : Effect Answer) (draws : Draws) (drawn : Nat) :
    (e.redrawn draws drawn).report = e.report := by
  simp only [report, redrawn, List.map_map]
  rfl

namespace Session

variable {s : Session}

theorem notify_redrawn (s : Session) (draws : Draws) (drawn : Nat) :
    (s.redrawn draws drawn).notify =
      s.notify.map fun call => ⟨call.observer, call.seen.redrawn draws drawn⟩ := by
  simp only [notify, List.map_map]
  rfl

theorem submit_redrawn (s : Session) (draws : Draws) (drawn : Nat) (text : String) :
    (s.redrawn draws drawn).submit text = (s.submit text).redrawn draws drawn := by
  have hover : (s.redrawn draws drawn).isOver = s.isOver := rfl
  rw [submit, submit, hover]
  split
  · rfl
  · cases Guess.validate text with
    | error reason => rfl
    | ok guess =>
      simp only [Effect.redrawn, ← notify_redrawn]
      rfl

theorem check_redrawn (s : Session) (draws : Draws) (drawn : Nat) (text : String) :
    (s.redrawn draws drawn).check text = (s.check text).redrawn draws drawn := by
  rw [check, check]
  cases Guess.validate text <;> rfl

/-- A new game takes the next number from the supply, which cannot be noticed where every draw gives
the same target. -/
theorem exists_newGame_redrawn (h : s.options.selection.Constant s.corpus) (draws : Draws)
    (drawn : Nat) :
    ∃ drawn', (s.redrawn draws drawn).newGame = s.newGame.redrawn draws drawn' := by
  have hdraw : (s.redrawn draws drawn).options.selection.pick? (s.redrawn draws drawn).corpus
      ((s.redrawn draws drawn).draws (s.redrawn draws drawn).drawn) =
        s.options.selection.pick? s.corpus (s.draws s.drawn) := h _ _
  cases hpick : s.options.selection.pick? s.corpus (s.draws s.drawn) with
  | none =>
    refine ⟨drawn, ?_⟩
    rw [newGame_of_no_pick hpick, newGame_of_no_pick (hdraw.trans hpick)]
    rfl
  | some target =>
    refine ⟨drawn + 1, ?_⟩
    rw [newGame_of_pick hpick, newGame_of_pick (hdraw.trans hpick)]
    simp only [Effect.redrawn, ← notify_redrawn]
    rfl

/-- Moves commute with the replacement of the supply. -/
theorem exists_perform_redrawn (h : s.options.selection.Constant s.corpus) (draws : Draws)
    (drawn : Nat) (move : Move) :
    ∃ drawn', (s.redrawn draws drawn).perform move = (s.perform move).redrawn draws drawn' := by
  cases move with
  | submit text =>
    refine ⟨drawn, ?_⟩
    rw [perform, perform, submit_redrawn]
    rfl
  | process text =>
    refine ⟨drawn, ?_⟩
    rw [perform, perform, process, process, submit_redrawn]
    rfl
  | check text =>
    refine ⟨drawn, ?_⟩
    rw [perform, perform, check_redrawn]
    rfl
  | newGame =>
    obtain ⟨drawn', hnewGame⟩ := exists_newGame_redrawn h draws drawn
    refine ⟨drawn', ?_⟩
    rw [perform, perform, hnewGame]
    rfl
  | subscribe => exact ⟨drawn, rfl⟩

/-- A run does not show the supply of numbers. -/
theorem map_report_run_redrawn (h : s.options.selection.Constant s.corpus) (draws : Draws)
    (drawn : Nat) (moves : List Move) :
    ((s.redrawn draws drawn).run moves).map Effect.report = (s.run moves).map Effect.report := by
  induction moves generalizing s drawn with
  | nil => rfl
  | cons move moves ih =>
    obtain ⟨drawn', hperform⟩ := exists_perform_redrawn h draws drawn move
    obtain ⟨hcorpus, hoptions⟩ := Transition.settings_eq (transition_perform s move)
    have hnext : (s.perform move).session.options.selection.Constant
        (s.perform move).session.corpus := by rwa [hcorpus, hoptions]
    rw [run, run, List.map_cons, List.map_cons, hperform, Effect.report_redrawn]
    exact congrArg ((s.perform move).report :: ·) (ih hnext drawn')

/-! ### Another game and a new session -/

/-- Two sessions that cannot be told apart: they show the same now, and at every step of any further
moves. -/
def ShowsTheSame (s other : Session) : Prop :=
  s.view = other.view ∧
    ∀ moves, (s.run moves).map Effect.report = (other.run moves).map Effect.report

theorem showsTheSame_redrawn (h : s.options.selection.Constant s.corpus) (draws : Draws)
    (drawn : Nat) : (s.redrawn draws drawn).ShowsTheSame s :=
  ⟨rfl, map_report_run_redrawn h draws drawn⟩

variable {corpus : List Equation} {options : GameOptions} {draws : Draws} {first : Session}

theorem after_replicate_subscribe (s : Session) (n : Nat) :
    s.after (List.replicate n .subscribe) = { s with observers := s.observers + n } := by
  induction n generalizing s with
  | zero => rfl
  | succ n ih =>
    rw [List.replicate_succ, after, List.foldl_cons]
    refine (ih _).trans ?_
    simp only [perform, subscribe, Effect.map, Nat.add_assoc, Nat.add_comm 1 n]

/-- Whatever happened before, another game begins like a newly opened session with the same
observers, but for the supply of numbers. -/
theorem restarted_after_opened (corpus : List Equation) (options : GameOptions)
    (draws draws' : Draws) (target target' : Equation) (earlier : List Move) :
    let s := (opened corpus options draws target).after earlier
    s.restarted target' = ((opened corpus options draws' target').after
      (List.replicate (earlier.count .subscribe) .subscribe)).redrawn s.draws (s.drawn + 1) := by
  intro s
  obtain ⟨hcorpus, hoptions⟩ : s.corpus = corpus ∧ s.options = options := settings_after _ earlier
  have hobservers : s.observers = 0 + earlier.count .subscribe := observers_after _ earlier
  rw [after_replicate_subscribe, restarted, redrawn, hcorpus, hoptions, hobservers]
  rfl

/-- **Nothing is left of the games before.** Let every game of a session have the same target, as it
is the first equation of the corpus or all equations are equal. Then, whatever moves were made
before, a session that starts another game cannot be told from a session that is newly opened on the
same corpus with the same options, and to which as many observers are subscribed. -/
theorem newGame_like_start (hstart : start corpus options draws = .ok first)
    (hfixed : options.selection = .first ∨ ∀ e ∈ corpus, ∀ other ∈ corpus, e = other)
    (earlier : List Move) (draws' : Draws) :
    ∃ fresh, start corpus options draws' = .ok fresh ∧
      (first.after earlier).newGame.answer = .ok () ∧
      (first.after earlier).newGame.session.ShowsTheSame
        (fresh.after (List.replicate (earlier.count .subscribe) .subscribe)) := by
  obtain ⟨firstTarget, hmem, rfl⟩ := exists_opened_of_start hstart
  have hconstant : options.selection.Constant corpus := by
    rcases hfixed with hfirst | hequal
    · rw [hfirst]
      exact Selection.constant_of_first corpus
    · exact Selection.constant_of_equal options.selection hequal
  obtain ⟨target, hpick⟩ :=
    Selection.exists_pick? options.selection (List.ne_nil_of_mem hmem) (draws' 0)
  refine ⟨opened corpus options draws' target, by simp only [start, hpick]; rfl, ?_⟩
  let s := (opened corpus options draws firstTarget).after earlier
  obtain ⟨hcorpus, hoptions⟩ : s.corpus = corpus ∧ s.options = options := settings_after _ earlier
  have hnext : s.options.selection.pick? s.corpus (s.draws s.drawn) = some target := by
    rw [hcorpus, hoptions, ← hpick]
    exact hconstant _ _
  let observed := (opened corpus options draws' target).after
    (List.replicate (earlier.count .subscribe) .subscribe)
  have hobserved : observed.options.selection.Constant observed.corpus := by
    obtain ⟨hcorpus, hoptions⟩ : observed.corpus = corpus ∧ observed.options = options :=
      settings_after _ _
    rwa [hcorpus, hoptions]
  have hagain : s.restarted target = observed.redrawn s.draws (s.drawn + 1) :=
    restarted_after_opened corpus options draws draws' firstTarget target earlier
  rw [newGame_of_pick hnext]
  refine ⟨rfl, ?_⟩
  rw [hagain]
  exact showsTheSame_redrawn hobserved _ _

/-- A new game after one that was won, with an observer, a miss and a rejected text in it. -/
theorem newGame_like_start_after_win :
    let target : Equation := ⟨[.digit 1, .operator .add, .digit 2, .operator .add, .digit 3,
      .equals, .digit 6], rfl⟩
    let other : Equation := ⟨[.digit 1, .digit 2, .operator .add, .digit 3, .equals, .digit 1,
      .digit 5], rfl⟩
    let first := opened [target, other] GameOptions.fixed id target
    let earlier : List Move := [.submit "12+3=15", .subscribe, .check "1", .submit "1+2+3=6"]
    start [target, other] GameOptions.fixed id = .ok first ∧
      (first.after earlier).status = .won ∧
      ∃ fresh, start [target, other] GameOptions.fixed Nat.succ = .ok fresh ∧
        (first.after earlier).newGame.answer = .ok () ∧
        (first.after earlier).newGame.session.ShowsTheSame (fresh.after [.subscribe]) := by
  intro target other first earlier
  have hstart : start [target, other] GameOptions.fixed id = .ok first := rfl
  exact ⟨hstart, rfl, newGame_like_start hstart (.inl rfl) earlier Nat.succ⟩

end Session

end HiddenEquation
