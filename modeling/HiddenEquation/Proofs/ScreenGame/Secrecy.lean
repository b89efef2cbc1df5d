import HiddenEquation.Proofs.ScreenGame.Runs
import HiddenEquation.ScreenGame.Layout

/-!
# What the player learns about the target

The target of a game is hidden, but everything on the screen is computed by a program that knows it.
This file compares two runs of the same operations, on corpora that may give different targets. As
long as every accepted guess earns the same row in both and no game is lost, the player sees the
same in both: the buffer, the messages, the board, the keyboard, the statistics and the whole
picture. So the rows are all that the player learns about the target before a game is lost, and only
the message at the end of a lost game gives it away.

The secret of a session is its target and where its targets come from. Two screen games that differ
in their secrets and their journals look alike, and every operation keeps it so: the target is
used for the row of an accepted guess, for the message on a lost game and for telling it to a player
who asked to see it, and for nothing else.

## Main definitions

* `Session.Secret`, `Session.withSecret` : what the player does not see of a session.
* `ScreenGame.Alike` : two screen games that differ in what the player does not see.
* `ScreenGame.SameRows` : every accepted guess earns the same row in two runs.
* `ScreenGame.View` : what the player sees beside the picture.

## Main results

* `ScreenGame.Alike.perform` : an operation keeps two screen games alike.
* `ScreenGame.Alike.picture_eq` : screen games that are alike have the same picture.
* `ScreenGame.performAll_reveals_rows_only` : the rows are all that a run tells about the target.
-/

namespace HiddenEquation

/-! ### Secrets of a session -/

namespace Session

/-- What the player does not see of a session: the target, and where the targets come from. -/
structure Secret where
  corpus : List Equation
  draws : Draws
  drawn : Nat
  target : Equation

/-- The same session with another secret. -/
def withSecret (s : Session) (secret : Secret) : Session :=
  { s with
    corpus := secret.corpus
    draws := secret.draws
    drawn := secret.drawn
    target := secret.target }

variable {s : Session} {secret : Secret}

@[simp] theorem isOver_withSecret : (s.withSecret secret).isOver = s.isOver := rfl

@[simp] theorem status_withSecret : (s.withSecret secret).status = s.status := rfl

/-- A guess that earns the same row leaves sessions with other secrets the same otherwise. -/
theorem play_withSecret {guess : Equation}
    (hrow : feedback guess s.target = feedback guess secret.target) :
    (s.withSecret secret).play guess = (s.play guess).withSecret secret := by
  simp only [play, withSecret, hrow]

/-- So does a text that is submitted, if the rows agree should both sessions accept it. -/
theorem submit_withSecret (s : Session) (secret : Secret) (text : String)
    (hrow : ∀ row, (s.submit text).answer = .ok row →
      ∀ row', ((s.withSecret secret).submit text).answer = .ok row' → row = row') :
    ((s.withSecret secret).submit text).answer = (s.submit text).answer ∧
      ((s.withSecret secret).submit text).session = (s.submit text).session.withSecret secret := by
  by_cases hover : s.isOver = true
  · rw [submit, submit, isOver_withSecret, if_pos hover, if_pos hover]
    exact ⟨rfl, rfl⟩
  · have hopen := Bool.eq_false_iff.mpr hover
    cases hguess : Guess.validate text with
    | error reason =>
      rw [submit, submit, isOver_withSecret, if_neg hover, if_neg hover, hguess]
      exact ⟨rfl, rfl⟩
    | ok guess =>
      obtain ⟨hanswer, hsession⟩ := submit_accepted hopen hguess
      obtain ⟨hanswer', hsession'⟩ := submit_accepted (s := s.withSecret secret) hopen hguess
      have hsame := hrow _ hanswer _ hanswer'
      rw [hanswer, hanswer', hsession, hsession', play_withSecret hsame, hsame]
      exact ⟨rfl, rfl⟩

end Session

/-! ### Screen games that look alike -/

namespace ScreenGame

variable {g g' : ScreenGame} {corpus corpus' : List Equation} {action : Action}

/-- The same screen game with another secret and another journal. -/
def withSecret (g : ScreenGame) (secret : Session.Secret) (journal : List Event) : ScreenGame :=
  { g with session := g.session.withSecret secret, journal }

/-- Two screen games look alike if they differ at most in what the player does not see. -/
inductive Alike (g : ScreenGame) : ScreenGame → Prop
  | mk (secret : Session.Secret) (journal : List Event) : Alike g (g.withSecret secret journal)

/-- What is typed has nothing to do with the secret. -/
theorem type_withSecret (g : ScreenGame) (secret : Session.Secret) (journal : List Event)
    (c : Char) : (g.withSecret secret journal).type c = (g.type c).withSecret secret journal := by
  have hbuffer : (g.withSecret secret journal).buffer = g.buffer := rfl
  rw [type, type, hbuffer]
  split
  · split <;> rfl
  · rfl

theorem typeText_withSecret (g : ScreenGame) (secret : Session.Secret) (journal : List Event)
    (text : String) :
    (g.withSecret secret journal).typeText text = (g.typeText text).withSecret secret journal := by
  rw [typeText, typeText]
  induction text.toList generalizing g with
  | nil => rfl
  | cons c rest ih => rw [List.foldl_cons, List.foldl_cons, type_withSecret, ih]

namespace Alike

/-- Submitting the buffer keeps them alike, if the rows agree and the game is not lost. -/
theorem submit (h : g.Alike g')
    (hrow : ∀ row, (g.session.submit g.bufferText).answer = .ok row →
      ∀ row', (g'.session.submit g'.bufferText).answer = .ok row' → row = row')
    (hlost : g.submit.session.status ≠ .lost) : g.submit.Alike g'.submit := by
  obtain ⟨secret, journal⟩ := h
  obtain ⟨hanswer, hsession⟩ := g.session.submit_withSecret secret _ hrow
  have heffect : (g.withSecret secret journal).session.submit
      (g.withSecret secret journal).bufferText =
        (g.session.withSecret secret).submit g.bufferText := rfl
  -- Both sessions give the same answer, and the sessions that they leave differ in the secret only.
  simp only [ScreenGame.submit] at hlost
  simp only [ScreenGame.submit, heffect, hanswer, hsession, Session.status_withSecret]
  generalize (g.session.withSecret secret).submit g.bufferText = effect'
  generalize g.session.submit g.bufferText = effect at hlost
  cases hresult : effect.answer with
  | error reason =>
    cases reason <;> exact ⟨secret, journal ++ effect'.journal⟩
  | ok row =>
    cases hstatus : effect.session.status with
    | won => exact ⟨secret, journal ++ effect'.journal⟩
    | active => exact ⟨secret, journal ++ effect'.journal⟩
    | lost =>
      -- The message on a lost game would tell the target.
      simp only [hresult, hstatus] at hlost
      exact absurd hstatus hlost

/-- A player who did not ask to see the target is told nothing. -/
theorem announceTarget (h : g.Alike g') (hhidden : g.session.options.showTarget = false) :
    g.announceTarget.Alike g'.announceTarget := by
  have hhidden' : ¬ g'.session.options.showTarget = true := by
    obtain ⟨secret, journal⟩ := h
    exact Bool.eq_false_iff.mp hhidden
  rw [ScreenGame.announceTarget, ScreenGame.announceTarget, if_neg hhidden',
    if_neg (Bool.eq_false_iff.mp hhidden)]
  exact h

/-- Another game keeps them alike, whatever its target, if the target is not shown. -/
theorem newGame (h : g.Alike g') (hstep : InStep corpus g) (hstep' : InStep corpus' g')
    (hhidden : g.session.options.showTarget = false) : g.newGame.Alike g'.newGame := by
  obtain ⟨target, -, hpick⟩ := hstep.sound.exists_pick?
  obtain ⟨target', -, hpick'⟩ := hstep'.sound.exists_pick?
  obtain ⟨secret, journal⟩ := h
  rw [newGame_of_pick hpick, newGame_of_pick hpick']
  have hrestarted : ((g.restarted target).post .info "New game started!").Alike
      (((g.withSecret secret journal).restarted target').post .info "New game started!") :=
    ⟨⟨secret.corpus, secret.draws, secret.drawn + 1, target'⟩, journal ++ [.gameStarted]⟩
  exact hrestarted.announceTarget hhidden

/-- An operation keeps two screen games alike, if the row that it earns is the same in both, should
both earn one, and if the game is not lost. -/
theorem perform (h : g.Alike g') (hstep : InStep corpus g) (hstep' : InStep corpus' g')
    (hhidden : g.session.options.showTarget = false)
    (hrow : ∀ row ∈ g.row? action, ∀ row' ∈ g'.row? action, row = row')
    (hlost : (g.perform action).session.status ≠ .lost) :
    (g.perform action).Alike (g'.perform action) := by
  cases action with
  | type text =>
    obtain ⟨secret, journal⟩ := h
    rw [ScreenGame.perform, ScreenGame.perform, typeText_withSecret]
    exact ⟨secret, journal⟩
  | erase =>
    obtain ⟨secret, journal⟩ := h
    exact ⟨secret, journal⟩
  | post tone text =>
    obtain ⟨secret, journal⟩ := h
    exact ⟨secret, journal⟩
  | submit =>
    refine h.submit (fun row hanswer row' hanswer' => hrow row ?_ row' ?_) hlost
    · exact congrArg Except.toOption hanswer
    · exact congrArg Except.toOption hanswer'
  | guess text =>
    obtain ⟨secret, journal⟩ := h
    have htyped : (({ g with buffer := [] } : ScreenGame).typeText text).Alike
        (({ g.withSecret secret journal with buffer := [] } : ScreenGame).typeText text) := by
      have hcommute := typeText_withSecret { g with buffer := [] } secret journal text
      exact hcommute ▸ ⟨secret, journal⟩
    refine htyped.submit (fun row hanswer row' hanswer' => hrow row ?_ row' ?_) hlost
    · exact congrArg Except.toOption hanswer
    · exact congrArg Except.toOption hanswer'
  | newGame => exact h.newGame hstep hstep' hhidden

/-- Screen games that are alike have the same picture on a screen of any size. -/
theorem picture_eq (h : g.Alike g') (width height : Nat) :
    g.picture width height = g'.picture width height := by
  obtain ⟨secret, journal⟩ := h
  rfl

end Alike

/-! ### Runs that look alike -/

/-- Where two runs of the same operations both accept a guess, it earns the same row. -/
def SameRows (g g' : ScreenGame) : List Action → Prop
  | [] => True
  | action :: rest =>
    (∀ row ∈ g.row? action, ∀ row' ∈ g'.row? action, row = row') ∧
      SameRows (g.perform action) (g'.perform action) rest

/-- What the player sees of the screen game, beside the picture. -/
structure View where
  bufferText : String
  messages : List Message
  mode : Mode
  statistics : Statistics
  remaining : Nat
  history : List (Equation × Row)
  keyboard : Keyboard

/-- What the player sees in a state, beside the picture. -/
def view (g : ScreenGame) : View where
  bufferText := g.bufferText
  messages := g.messages
  mode := g.mode
  statistics := g.statistics
  remaining := g.session.remaining
  history := g.session.history
  keyboard := g.session.keyboard

theorem Alike.view_eq (h : g.Alike g') : g.view = g'.view := by
  obtain ⟨secret, journal⟩ := h
  rfl

/-- Runs of the same operations that earn the same rows stay alike, as long as no game is lost. -/
theorem Alike.performAll (h : g.Alike g') (hstep : InStep corpus g) (hstep' : InStep corpus' g')
    (hhidden : g.session.options.showTarget = false) {actions : List Action}
    (hrows : g.SameRows g' actions)
    (hunlost : ∀ state ∈ g.states actions, state.session.status ≠ .lost) :
    (g.performAll actions).Alike (g'.performAll actions) := by
  induction actions generalizing g g' with
  | nil => exact h
  | cons action rest ih =>
    obtain ⟨hrow, hrest⟩ := hrows
    rw [states, List.forall_mem_cons] at hunlost
    have hlost := hunlost.2 _ (mem_states _ rest)
    exact ih (h.perform hstep hstep' hhidden hrow hlost) (hstep.perform action)
      (hstep'.perform action) ((options_perform hstep action).symm ▸ hhidden) hrest hunlost.2

/-- Two sessions that start with the same options look alike, if the target is not shown. -/
theorem alike_start {options : GameOptions} (hhidden : options.showTarget = false)
    {draws draws' : Draws} {session session' : Session}
    (hstart : Session.start corpus options draws = .ok session)
    (hstart' : Session.start corpus' options draws' = .ok session') :
    (start session).Alike (start session') := by
  obtain ⟨target, -, rfl⟩ := Session.exists_opened_of_start hstart
  obtain ⟨target', -, rfl⟩ := Session.exists_opened_of_start hstart'
  have hwelcomed : Alike
      (({ session := Session.opened corpus options draws target } : ScreenGame).post .info
        "Welcome! Guess the hidden equation in six tries.")
      (({ session := Session.opened corpus' options draws' target' } : ScreenGame).post .info
        "Welcome! Guess the hidden equation in six tries.") :=
    ⟨⟨corpus', draws', 1, target'⟩, []⟩
  exact hwelcomed.announceTarget hhidden

/-- **The rows are all that a run tells about the target.** Start two screen games with the same
options, which do not show the target, on corpora that may have different targets, and carry out
the same operations in both. As long as every accepted guess earns the same row in both and no game
is lost, the player sees the same in both, and so does who looks at a screen of any size. -/
theorem performAll_reveals_rows_only {options : GameOptions} {draws draws' : Draws}
    {session session' : Session} {actions : List Action}
    (hhidden : options.showTarget = false)
    (hstart : Session.start corpus options draws = .ok session)
    (hstart' : Session.start corpus' options draws' = .ok session')
    (hrows : (start session).SameRows (start session') actions)
    (hunlost : ∀ state ∈ (start session).states actions, state.session.status ≠ .lost) :
    ((start session).performAll actions).view = ((start session').performAll actions).view ∧
      ∀ width height, ((start session).performAll actions).picture width height =
        ((start session').performAll actions).picture width height := by
  have hbegin := alike_start hhidden hstart hstart'
  have hshow : (start session).session.options.showTarget = false := by
    obtain ⟨target, -, rfl⟩ := Session.exists_opened_of_start hstart
    obtain ⟨messages, hfirst⟩ := exists_start_eq (Session.opened corpus options draws target)
    rw [hfirst]
    exact hhidden
  have halike := hbegin.performAll (.start hstart) (.start hstart') hshow hrows hunlost
  exact ⟨halike.view_eq, halike.picture_eq⟩

/-- Two targets with the same symbols. A guess with other symbols earns the same row for both, also
in the next game, and the screen does not tell one target from the other. -/
theorem performAll_reveals_rows_only_of_permuted_target :
    let target : Equation := ⟨[.digit 1, .operator .add, .digit 2, .operator .add, .digit 3,
      .equals, .digit 6], rfl⟩
    let target' : Equation := ⟨[.digit 1, .operator .add, .digit 3, .operator .add, .digit 2,
      .equals, .digit 6], rfl⟩
    let session := Session.opened [target] GameOptions.fixed id target
    let session' := Session.opened [target'] GameOptions.fixed id target'
    let actions : List Action := [.guess "9-8*1=1", .type "1+", .submit, .newGame,
      .guess "9-8*1=1"]
    target ≠ target' ∧ GameOptions.fixed.showTarget = false ∧
      Session.start [target] GameOptions.fixed id = .ok session ∧
      Session.start [target'] GameOptions.fixed id = .ok session' ∧
      (start session).SameRows (start session') actions ∧
      (∀ state ∈ (start session).states actions, state.session.status ≠ .lost) ∧
      ((start session).performAll actions).view = ((start session').performAll actions).view ∧
      ((start session).performAll actions).picture 100 30 =
        ((start session').performAll actions).picture 100 30 := by
  intro target target' session session' actions
  have hstart : Session.start [target] GameOptions.fixed id = .ok session := rfl
  have hstart' : Session.start [target'] GameOptions.fixed id = .ok session' := rfl
  have hrows : (start session).SameRows (start session') actions :=
    ⟨by decide +kernel, by decide +kernel, by decide +kernel, by decide +kernel,
      by decide +kernel, trivial⟩
  have hunlost : ∀ state ∈ (start session).states actions, state.session.status ≠ .lost := by
    decide +kernel
  obtain ⟨hview, hpicture⟩ := performAll_reveals_rows_only rfl hstart hstart' hrows hunlost
  exact ⟨by decide, rfl, hstart, hstart', hrows, hunlost, hview, hpicture 100 30⟩

end ScreenGame

end HiddenEquation
