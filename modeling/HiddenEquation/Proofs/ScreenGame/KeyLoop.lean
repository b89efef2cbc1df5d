import HiddenEquation.Proofs.ScreenGame.Operations
import HiddenEquation.ScreenGame.Keys

/-!
# The keys of the screen game

The meaning of a key depends on the mode, and the mode repeats what the session knows about its
game. This file shows that the two never disagree, however many keys are pressed and however many
games are played. Hence the buffer is only submitted while the game goes on, and the refusal which
a session has for a finished game is never shown. Once a game has ended, no key but those that leave
or start another game does anything, so that the last two messages stay on the screen.

The loop over the keys ends at the first key that asks to leave. Which keys do depends on the state
in which they are pressed.

## Main definitions

* `ScreenGame.Quits` : a key asks to leave.
* `ScreenGame.KeyStep` : what a key does, by mode and key.
* `ScreenGame.pressAll`, `ScreenGame.quitAt` : the state after some keys, and the key at which the
  loop over them ends.
* `ScreenGame.Orderly` : what every key preserves.
* `ScreenGame.Dependable`, `ScreenGame.FirstQuit` : what the player can rely on.

## Main results

* `ScreenGame.keyStep_press` : every key takes one of six steps.
* `ScreenGame.Orderly.pressAll` : a screen game stays orderly under all keys.
* `ScreenGame.quitAt_eq_some_iff` : where the loop over the keys ends.
* `ScreenGame.pressAll_start_dependable` : what holds after any keys, and where the loop ends.
-/

namespace HiddenEquation.ScreenGame

variable {g next : ScreenGame} {key : Key} {corpus : List Equation}

/-! ### One key -/

/-- A key asks to leave: escape, or `c` with control, at any time, and `q` after the end of a
game. -/
def Quits (g : ScreenGame) (key : Key) : Prop :=
  key.code = .escape ∨ (key.code = .char 'c' ∧ key.control = true) ∨
    (g.mode = .gameOver ∧ key.code = .char 'q')

/-- The steps that a key can take. No two of them apply to the same key in the same mode. -/
inductive KeyStep (g : ScreenGame) (key : Key) : ScreenGame → Prop
  /-- The key asks to leave. -/
  | quits (hquits : g.Quits key) : KeyStep g key g.leave
  /-- Another game starts, on `n` after the end of a game and on `n` with control at any time. -/
  | restarts (hcode : key.code = .char 'n') (hmode : key.control = true ∨ g.mode = .gameOver) :
      KeyStep g key g.newGame
  /-- A character is typed. -/
  | types {c : Char} (hstays : ¬ g.Quits key) (hmode : g.mode = .guessing)
      (hcode : key.code = .char c) (hplain : c = 'n' → key.control = false) :
      KeyStep g key (g.type c)
  /-- A symbol is taken back. -/
  | erases (hmode : g.mode = .guessing) (hcode : key.code = .backspace) : KeyStep g key g.erase
  /-- The buffer is submitted. -/
  | submits (hmode : g.mode = .guessing) (hcode : key.code = .enter) : KeyStep g key g.submit
  /-- The key means nothing. -/
  | ignored (hstays : ¬ g.Quits key) (hcode : key.code ≠ .char 'n')
      (hmode : g.mode = .guessing → key.code = .other) : KeyStep g key g

/-- A key with which control does not matter takes one of the steps. -/
theorem keyStep_pressPlain (hleave : ¬ (key.code = .char 'c' ∧ key.control = true))
    (hrestart : ¬ (key.code = .char 'n' ∧ key.control = true)) :
    KeyStep g key (g.pressPlain key.code) := by
  unfold pressPlain
  split
  next hcode => exact .quits (.inl hcode)
  next hmode hcode => exact .quits (.inr (.inr ⟨hmode, hcode⟩))
  next hmode hcode => exact .restarts hcode (.inr hmode)
  next hmode hescape hq hn =>
    refine .ignored ?_ hn (by simp [hmode])
    rintro (hcode | hcode | ⟨-, hcode⟩)
    · exact hescape hcode
    · exact hleave hcode
    · exact hq hcode
  next c hmode hcode =>
    have hstays : ¬ g.Quits key := by
      rintro (hescape | hcontrol | ⟨hover, -⟩)
      · simp [hcode] at hescape
      · exact hleave hcontrol
      · simp [hmode] at hover
    refine .types hstays hmode hcode fun hn => ?_
    exact Bool.eq_false_iff.mpr fun hcontrol => hrestart ⟨hn ▸ hcode, hcontrol⟩
  next hmode hcode => exact .erases hmode hcode
  next hmode hcode => exact .submits hmode hcode
  next hmode hcode =>
    exact .ignored (by simp [Quits, hmode, hcode]) (by simp [hcode]) fun _ => hcode

/-- Every key takes one of the steps. -/
theorem keyStep_press (g : ScreenGame) (key : Key) : KeyStep g key (g.press key) := by
  rw [press]
  split
  case isTrue hleave =>
    rw [Bool.and_eq_true, beq_iff_eq] at hleave
    exact .quits (.inr (.inl hleave.symm))
  case isFalse hleave =>
    rw [Bool.and_eq_true, beq_iff_eq, and_comm] at hleave
    split
    case isTrue hrestart =>
      rw [Bool.and_eq_true, beq_iff_eq] at hrestart
      exact .restarts hrestart.2 (.inl hrestart.1)
    case isFalse hrestart =>
      rw [Bool.and_eq_true, beq_iff_eq, and_comm] at hrestart
      exact keyStep_pressPlain hleave hrestart

/-! ### Leaving -/

theorem leaving_submit (g : ScreenGame) : g.submit.leaving = g.leaving := by
  have hsubmitted := g.submitted_submit
  generalize g.submit = next at hsubmitted
  cases hsubmitted <;> rfl

theorem leaving_newGame (g : ScreenGame) : g.newGame.leaving = g.leaving := by
  cases hpick : g.session.options.selection.pick? g.session.corpus
      (g.session.draws g.session.drawn) with
  | some target =>
    obtain ⟨messages, hnext⟩ := exists_newGame_eq hpick
    rw [hnext]
    rfl
  | none =>
    have hnone := Session.newGame_of_no_pick hpick
    by_cases habandoned : (!g.session.isOver && !g.session.history.isEmpty) = true
    · simp only [newGame, if_pos habandoned, hnone, post]
    · simp only [newGame, if_neg habandoned, hnone, post]

theorem KeyStep.leaving_iff (h : KeyStep g key next) :
    next.leaving = true ↔ g.leaving = true ∨ g.Quits key := by
  cases h with
  | quits hquits => exact iff_of_true rfl (.inr hquits)
  | restarts hcode hmode =>
    have hstays : ¬ g.Quits key := by simp [Quits, hcode]
    rw [leaving_newGame, or_iff_left hstays]
  | @types c hstays =>
    obtain ⟨buffer, hnext⟩ := g.exists_type_eq c
    rw [hnext, or_iff_left hstays]
  | erases hmode hcode =>
    have hstays : ¬ g.Quits key := by simp [Quits, hcode]
    rw [erase, or_iff_left hstays]
  | submits hmode hcode =>
    have hstays : ¬ g.Quits key := by simp [Quits, hcode]
    rw [leaving_submit, or_iff_left hstays]
  | ignored hstays => rw [or_iff_left hstays]

/-! ### The loop over the keys -/

/-- The state after some keys. -/
def pressAll (g : ScreenGame) (keys : List Key) : ScreenGame := keys.foldl press g

/-- The number of keys that are read before the one at which the loop ends, if it ends. -/
def quitAt (g : ScreenGame) : List Key → Option Nat
  | [] => none
  | key :: rest =>
    let next := g.press key
    if next.leaving then some 0 else (quitAt next rest).map (· + 1)

/-- The key after the first `i` ones asks to leave, and no key before it does. -/
def FirstQuit (g : ScreenGame) (keys : List Key) (i : Nat) : Prop :=
  (∃ key, keys[i]? = some key ∧ (g.pressAll (keys.take i)).Quits key) ∧
    ∀ j < i, ∀ key, keys[j]? = some key → ¬ (g.pressAll (keys.take j)).Quits key

theorem firstQuit_cons_zero {rest : List Key} : g.FirstQuit (key :: rest) 0 ↔ g.Quits key := by
  simp [FirstQuit, pressAll]

theorem firstQuit_cons_succ {rest : List Key} {i : Nat} :
    g.FirstQuit (key :: rest) (i + 1) ↔ ¬ g.Quits key ∧ (g.press key).FirstQuit rest i := by
  constructor
  · rintro ⟨hquits, hearlier⟩
    refine ⟨hearlier 0 (Nat.zero_lt_succ i) key rfl, hquits, fun j hj => ?_⟩
    exact hearlier (j + 1) (Nat.succ_lt_succ hj)
  · rintro ⟨hstays, hquits, hearlier⟩
    refine ⟨hquits, fun j hj other hother => ?_⟩
    cases j with
    | zero =>
      obtain rfl : key = other := Option.some.inj hother
      exact hstays
    | succ j => exact hearlier j (Nat.lt_of_succ_lt_succ hj) other hother

/-- The loop ends at the first key that asks to leave. -/
theorem quitAt_eq_some_iff (hg : g.leaving = false) (keys : List Key) (i : Nat) :
    g.quitAt keys = some i ↔ g.FirstQuit keys i := by
  induction keys generalizing g i with
  | nil => simp [quitAt, FirstQuit]
  | cons key rest ih =>
    -- The loop has not ended yet, so that only this key can have asked to leave.
    have hleaving := (g.keyStep_press key).leaving_iff
    rw [hg, or_iff_right Bool.false_ne_true] at hleaving
    rw [quitAt]
    split
    case isTrue hquits =>
      rw [hleaving] at hquits
      cases i with
      | zero => simp [firstQuit_cons_zero, hquits]
      | succ i => simp [firstQuit_cons_succ, hquits]
    case isFalse hstays =>
      have hnext := Bool.eq_false_iff.mpr hstays
      rw [hleaving] at hstays
      cases i with
      | zero => simp [firstQuit_cons_zero, hstays]
      | succ i => simp [firstQuit_cons_succ, hstays, ih hnext]

/-- What is drawn last is the state before the key at which the loop ends, or after all keys. -/
theorem playKeys_eq_pressAll (g : ScreenGame) (keys : List Key) :
    g.playKeys keys = g.pressAll (keys.take ((g.quitAt keys).getD keys.length)) := by
  induction keys generalizing g with
  | nil => rfl
  | cons key rest ih =>
    rw [playKeys, quitAt]
    split
    case isTrue => rfl
    case isFalse =>
      rw [ih]
      cases (g.press key).quitAt rest <;> rfl

/-! ### Messages of a game that goes on -/

/-- No message is the refusal to judge a guess after the end of a game. -/
def Unrefused (g : ScreenGame) : Prop :=
  ∀ message ∈ g.messages, message.text ≠ SessionError.gameOver.message

theorem Unrefused.post (h : g.Unrefused) (tone : Tone) (text : String)
    (htext : text ≠ SessionError.gameOver.message) : (g.post tone text).Unrefused := by
  intro message hmessage
  obtain hold | rfl := mem_messages_post hmessage
  · exact h message hold
  · exact htext

/-- A text that begins with another character is not the refusal. -/
theorem ne_refusal_of_head {text : String} (h : text.toList.head? ≠ some 't') :
    text ≠ SessionError.gameOver.message := by
  rintro rfl
  exact h rfl

theorem Unrefused.announceTarget (h : g.Unrefused) : g.announceTarget.Unrefused := by
  rw [ScreenGame.announceTarget]
  split
  · exact h.post _ _ (ne_refusal_of_head (by simp))
  · exact h

theorem attempts_ne_refusal (n : Nat) :
    toString n ++ " attempts remaining" ≠ SessionError.gameOver.message := by
  intro h
  have hlast := congrArg (fun text => text.toList.getLast?) h
  simp [SessionError.message] at hlast

theorem rejectionText_ne_refusal (options : GameOptions) (reason : Rejection) :
    rejectionText options reason ≠ SessionError.gameOver.message := by
  rw [rejectionText]
  split
  · exact ne_refusal_of_head (by simp)
  · exact ne_refusal_of_head (by decide)

theorem celebration_ne_refusal (n : Nat) : celebration n ≠ SessionError.gameOver.message := by
  unfold celebration
  split <;> decide

theorem Unrefused.finishWon (h : g.Unrefused) : g.finishWon.Unrefused := by
  have hcelebrated := Unrefused.post (g := { g with
    statistics := g.statistics.countWin g.session.history.length, mode := .gameOver }) h .success _
    (celebration_ne_refusal g.session.history.length)
  exact hcelebrated.post .info _ (by decide)

theorem Unrefused.finishLost (h : g.Unrefused) : g.finishLost.Unrefused := by
  have hconsoled := Unrefused.post (g := { g with
    statistics := g.statistics.countLoss, mode := .gameOver }) h .error
    ("You lost. The answer was " ++ g.session.target.text) (ne_refusal_of_head (by simp))
  exact hconsoled.post .info _ (by decide)

/-! ### Order -/

/-- The mode goes with the session. After the end of a game the buffer is empty and the last two
messages are on how it ended. No guess was ever refused because of the end of a game. -/
structure Orderly (corpus : List Equation) (g : ScreenGame) : Prop extends InStep corpus g where
  cleared : g.mode = .gameOver → g.buffer = []
  ending : g.mode = .gameOver → [verdict g.session, farewell] <:+ g.messages
  unrefused : g.Unrefused

namespace Orderly

/-- As long as the game goes on, there is less to show. -/
theorem of_guessing (h : InStep corpus g) (hmode : g.mode = .guessing) (hunrefused : g.Unrefused) :
    Orderly corpus g where
  toInStep := h
  cleared := by simp [hmode]
  ending := by simp [hmode]
  unrefused := hunrefused

theorem submit (h : Orderly corpus g) (hmode : g.mode = .guessing) : Orderly corpus g.submit := by
  have hstep := h.toInStep.submit
  have hsubmitted := g.submitted_submit
  generalize g.submit = next at hstep hsubmitted
  cases hsubmitted with
  | refused hover journal =>
    -- In this mode the game goes on, so that the session has no reason to refuse.
    rw [h.mode_eq_guessing_iff, hover] at hmode
    cases hmode
  | @rejected reason hopen hreason journal =>
    refine of_guessing hstep hmode ?_
    exact Unrefused.post (g := g.noted reason journal) h.unrefused _ _
      (rejectionText_ne_refusal g.session.options reason)
  | @won guess hopen hguess hstatus journal =>
    exact
      { toInStep := hstep
        cleared := fun _ => rfl
        ending := fun _ =>
          suffix_messages_finishWon (g := g.played guess journal)
            (Session.status_eq_won_iff.mp hstatus)
        unrefused := Unrefused.finishWon (g := g.played guess journal) h.unrefused }
  | @lost guess hopen hguess hstatus journal =>
    exact
      { toInStep := hstep
        cleared := fun _ => rfl
        ending := fun _ =>
          suffix_messages_finishLost (g := g.played guess journal)
            (Session.status_eq_lost_iff.mp hstatus).1
        unrefused := Unrefused.finishLost (g := g.played guess journal) h.unrefused }
  | @active guess hopen hguess hstatus journal =>
    refine of_guessing hstep hmode ?_
    exact Unrefused.post (g := g.played guess journal) h.unrefused _ _ (attempts_ne_refusal _)

theorem newGame (h : Orderly corpus g) : Orderly corpus g.newGame := by
  have hstep := h.toInStep.newGame
  obtain ⟨target, -, hpick⟩ := h.sound.exists_pick?
  obtain ⟨messages, hnext⟩ := exists_newGame_eq hpick
  have hmode : g.newGame.mode = .guessing := by
    rw [hnext]
    rfl
  rw [newGame_of_pick hpick] at hstep hmode ⊢
  have hempty : (g.restarted target).Unrefused := by simp [Unrefused, ScreenGame.restarted]
  have hunrefused := (hempty.post .info "New game started!" (by decide)).announceTarget
  exact of_guessing hstep hmode hunrefused

theorem type (h : Orderly corpus g) (hmode : g.mode = .guessing) (c : Char) :
    Orderly corpus (g.type c) := by
  have hstep := h.toInStep.type c
  obtain ⟨buffer, hnext⟩ := g.exists_type_eq c
  rw [hnext] at hstep ⊢
  exact of_guessing hstep hmode h.unrefused

theorem erase (h : Orderly corpus g) (hmode : g.mode = .guessing) : Orderly corpus g.erase :=
  of_guessing h.toInStep.erase hmode h.unrefused

theorem press (h : Orderly corpus g) (key : Key) : Orderly corpus (g.press key) := by
  have hstep := g.keyStep_press key
  generalize g.press key = next at hstep
  cases hstep with
  | quits => exact ⟨⟨h.sound, h.mode_iff, h.room⟩, h.cleared, h.ending, h.unrefused⟩
  | restarts => exact h.newGame
  | types hstays hmode => exact h.type hmode _
  | erases hmode => exact h.erase hmode
  | submits hmode => exact h.submit hmode
  | ignored => exact h

/-- A screen game stays orderly under all keys. -/
theorem pressAll (h : Orderly corpus g) (keys : List Key) : Orderly corpus (g.pressAll keys) := by
  induction keys generalizing g with
  | nil => exact h
  | cons key rest ih => exact ih (h.press key)

/-- A screen game begins orderly. -/
theorem start {options : GameOptions} {draws : Draws} {session : Session}
    (hstart : Session.start corpus options draws = .ok session) :
    Orderly corpus (ScreenGame.start session) := by
  have hempty : ({ session := session } : ScreenGame).Unrefused := by simp [Unrefused]
  have hwelcomed := hempty.post .info "Welcome! Guess the hidden equation in six tries." (by decide)
  obtain ⟨messages, hfirst⟩ := exists_start_eq session
  have hmode : (ScreenGame.start session).mode = .guessing := by rw [hfirst]
  exact of_guessing (InStep.start hstart) hmode hwelcomed.announceTarget

end Orderly

theorem leaving_start (session : Session) : (start session).leaving = false := by
  obtain ⟨messages, hfirst⟩ := exists_start_eq session
  rw [hfirst]

/-! ### What the player can rely on -/

/-- What a player can rely on in a state of the screen game. -/
structure Dependable (g : ScreenGame) : Prop where
  /-- The mode says whether the game is over. -/
  mode_iff : g.mode = .gameOver ↔ g.session.isOver = true
  /-- The buffer fits into an equation. -/
  short : g.bufferText.length ≤ 7
  /-- Only symbols get into the buffer. -/
  symbols : ∀ c ∈ g.bufferText.toList, c ∈ "0123456789+-*/=".toList
  /-- After the end of a game the buffer is empty. -/
  cleared : g.mode = .gameOver → g.bufferText = ""
  /-- No guess was refused because of the end of a game. -/
  unrefused : ∀ message ∈ g.messages, message.text ≠ "the game is over; start a new game"
  /-- What a key does depends on the mode and on the key. -/
  step : ∀ key, KeyStep g key (g.press key)
  /-- Where the buffer can be submitted, the game goes on. -/
  active : g.mode = .guessing → g.session.status = .active
  /-- After the end of a game, all but a few keys do nothing. -/
  idle : g.mode = .gameOver → ∀ key : Key, key.code ≠ .escape → key.code ≠ .char 'q' →
    key.code ≠ .char 'n' → ¬ (key.code = .char 'c' ∧ key.control = true) → g.press key = g
  /-- After the end of a game, the last two messages are on how it ended and on what to do next. -/
  ending : g.mode = .gameOver → [verdict g.session, farewell] <:+ g.messages

theorem toChar_mem_alphabet (s : Symbol) : s.toChar ∈ "0123456789+-*/=".toList := by
  have hall : ∀ s ∈ Symbol.all, s.toChar ∈ "0123456789+-*/=".toList := by decide
  exact hall s s.mem_all

/-- After the end of a game, a key that neither leaves nor starts another game does nothing. -/
theorem press_eq_self_of_gameOver (hover : g.mode = .gameOver) (hstays : ¬ g.Quits key)
    (hrestart : key.code ≠ .char 'n') : g.press key = g := by
  have hstep := g.keyStep_press key
  generalize g.press key = next at hstep
  cases hstep with
  | quits hquits => exact absurd hquits hstays
  | restarts hcode => exact absurd hcode hrestart
  | types _ hmode => simp [hover] at hmode
  | erases hmode => simp [hover] at hmode
  | submits hmode => simp [hover] at hmode
  | ignored => rfl

theorem Orderly.dependable (h : Orderly corpus g) : g.Dependable where
  mode_iff := h.mode_iff
  short := by
    rw [bufferText, String.length_ofList, List.length_map]
    exact h.room
  symbols := by
    intro c hc
    rw [bufferText, String.toList_ofList] at hc
    obtain ⟨s, -, rfl⟩ := List.mem_map.mp hc
    exact toChar_mem_alphabet s
  cleared hover := by
    rw [bufferText, h.cleared hover]
    rfl
  unrefused := h.unrefused
  step := g.keyStep_press
  active hmode := by
    exact Session.isOver_eq_false_iff_status.mp (h.mode_eq_guessing_iff.mp hmode)
  idle := by
    intro hover key hescape hq hn hcontrol
    refine press_eq_self_of_gameOver hover ?_ hn
    rintro (hcode | hcode | ⟨-, hcode⟩)
    · exact hescape hcode
    · exact hcontrol hcode
    · exact hq hcode
  ending := h.ending

/-- **The screen game is dependable after any keys.** Whatever keys are pressed after the start of
the screen game on a fresh session, the mode goes with the session, the buffer holds symbols of at
most one equation, nothing is refused, and the end of a game stays on the screen until the player
leaves or starts another game. The loop over the keys ends at the first key that asks to leave, and
the state that is drawn last is the one before that key. -/
theorem pressAll_start_dependable {options : GameOptions} {draws : Draws} {session : Session}
    (hstart : Session.start corpus options draws = .ok session) (keys : List Key) :
    ((start session).pressAll keys).Dependable ∧
      (∀ i, (start session).quitAt keys = some i ↔ (start session).FirstQuit keys i) ∧
      (start session).playKeys keys = (start session).pressAll
        (keys.take (((start session).quitAt keys).getD keys.length)) :=
  ⟨((Orderly.start hstart).pressAll keys).dependable,
    quitAt_eq_some_iff (leaving_start session) keys, playKeys_eq_pressAll (start session) keys⟩

/-- A game that is won at once. The key `q` leaves only afterwards: before, it is no symbol. -/
theorem pressAll_start_dependable_won :
    let target : Equation := ⟨[.digit 1, .operator .add, .digit 2, .operator .add, .digit 3,
      .equals, .digit 6], rfl⟩
    let session := Session.opened [target] GameOptions.fixed id target
    let typed : List Key := "q1+2+3=6".toList.map fun c => { code := .char c }
    let keys : List Key := typed ++ [{ code := .enter }, { code := .char '1' },
      { code := .char 'q', control := true }, { code := .escape }]
    Session.start [target] GameOptions.fixed id = .ok session ∧
      ((start session).pressAll (keys.take 10)).Dependable ∧
      ((start session).pressAll (keys.take 10)).mode = .gameOver ∧
      (start session).quitAt keys = some 10 ∧ (start session).FirstQuit keys 10 ∧
      (start session).playKeys keys = (start session).pressAll (keys.take 10) := by
  intro target session typed keys
  have hstart : Session.start [target] GameOptions.fixed id = .ok session := rfl
  have hquit : (start session).quitAt keys = some 10 := by decide +kernel
  have hover : ((start session).pressAll (keys.take 10)).mode = .gameOver := by decide +kernel
  obtain ⟨-, hfirst, hdrawn⟩ := pressAll_start_dependable hstart keys
  rw [hquit] at hdrawn
  exact ⟨hstart, (pressAll_start_dependable hstart (keys.take 10)).1, hover, hquit,
    (hfirst 10).mp hquit, hdrawn⟩

end HiddenEquation.ScreenGame
