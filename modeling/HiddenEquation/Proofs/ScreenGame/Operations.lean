import HiddenEquation.Proofs.Game.Invariant
import HiddenEquation.ScreenGame.State

/-!
# What the operations of the screen game do

Submitting the buffer can come to five different ends, and another game always begins in the same
way. Both change the session, the mode and the messages together. This file describes them once, by
the ends that they can have, and ties the mode to the session: the screen game is in the mode for
the end of a game exactly as long as the game of its session is over.

## Main definitions

* `ScreenGame.verdict`, `ScreenGame.farewell` : the two messages at the end of a game.
* `ScreenGame.Submitted` : the ends that submitting the buffer can have.
* `ScreenGame.InStep` : the mode goes with the session, and the buffer fits into an equation.

## Main results

* `ScreenGame.messages_post` : what posting a message does to the list of messages.
* `ScreenGame.submitted_submit` : submitting the buffer has one of five ends.
* `ScreenGame.newGame_of_pick` : how another game begins.
* `ScreenGame.InStep.submit`, `ScreenGame.InStep.newGame` : mode and session stay in step.
-/

namespace HiddenEquation.ScreenGame

variable {g : ScreenGame} {corpus : List Equation}

/-! ### Messages -/

/-- Posting a message puts it at the end. When there is no room, the oldest one goes. -/
theorem messages_post (g : ScreenGame) (tone : Tone) (text : String) :
    (g.post tone text).messages =
      (if g.messages.length < maxMessages then g.messages else g.messages.drop 1) ++
        [⟨tone, text⟩] := by
  simp only [post, List.length_append, List.length_singleton]
  by_cases hroom : g.messages.length < maxMessages
  · rw [if_pos hroom, if_neg (by omega)]
  · have hpos : 1 ≤ g.messages.length := by
      simp only [maxMessages] at hroom
      omega
    rw [if_neg hroom, if_pos (by omega), List.drop_append_of_le_length hpos]

theorem mem_messages_post {tone : Tone} {text : String} {m : Message}
    (h : m ∈ (g.post tone text).messages) : m ∈ g.messages ∨ m = ⟨tone, text⟩ := by
  rw [messages_post, List.mem_append, List.mem_singleton] at h
  refine h.imp_left fun hm => ?_
  split at hm
  · exact hm
  · exact List.mem_of_mem_drop hm

/-- Two messages that are posted one after the other are the last two. -/
theorem suffix_messages_post_post (g : ScreenGame) (tone tone' : Tone) (text text' : String) :
    [⟨tone, text⟩, ⟨tone', text'⟩] <:+ ((g.post tone text).post tone' text').messages := by
  rw [messages_post, messages_post]
  generalize (if g.messages.length < maxMessages then g.messages else g.messages.drop 1) = kept
  split
  case isTrue => exact ⟨kept, by simp⟩
  case isFalse hfull =>
    -- The list is full, so that the message which goes is not the first of the two.
    have hkept : 1 ≤ kept.length := by
      simp only [maxMessages, List.length_append, List.length_singleton] at hfull
      omega
    exact ⟨kept.drop 1, by rw [List.drop_append_of_le_length hkept]; simp⟩

/-- Telling the target changes nothing but the messages. -/
theorem exists_announceTarget_eq (g : ScreenGame) :
    ∃ messages, g.announceTarget = { g with messages } := by
  rw [announceTarget]
  split
  · exact ⟨_, rfl⟩
  · exact ⟨g.messages, rfl⟩

/-- The message on how a game ended. -/
def verdict (session : Session) : Message :=
  if session.won then ⟨.success, celebration session.history.length⟩
  else ⟨.error, "You lost. The answer was " ++ session.target.text⟩

/-- The message on what to do after the end of a game. -/
def farewell : Message := ⟨.info, "Press 'n' for new game or 'q' to quit."⟩

theorem suffix_messages_finishWon (hwon : g.session.won = true) :
    [verdict g.session, farewell] <:+ g.finishWon.messages := by
  rw [verdict, if_pos hwon]
  exact suffix_messages_post_post _ _ _ _ _

theorem suffix_messages_finishLost (hlost : g.session.won = false) :
    [verdict g.session, farewell] <:+ g.finishLost.messages := by
  rw [verdict, if_neg (Bool.eq_false_iff.mp hlost)]
  exact suffix_messages_post_post _ _ _ _ _

/-! ### Typing -/

/-- Typing changes nothing but the buffer. -/
theorem exists_type_eq (g : ScreenGame) (c : Char) : ∃ buffer, g.type c = { g with buffer } := by
  rw [type]
  split
  · split
    · exact ⟨_, rfl⟩
    · exact ⟨g.buffer, rfl⟩
  · exact ⟨g.buffer, rfl⟩

theorem exists_typeText_eq (g : ScreenGame) (text : String) :
    ∃ buffer, g.typeText text = { g with buffer } := by
  rw [typeText]
  induction text.toList generalizing g with
  | nil => exact ⟨g.buffer, rfl⟩
  | cons c rest ih =>
    obtain ⟨buffer, htype⟩ := g.exists_type_eq c
    rw [List.foldl_cons, htype]
    exact ih _

/-! ### Submitting the buffer -/

/-- The screen game after a rejected text, before the player is told about it. -/
def noted (g : ScreenGame) (reason : Rejection) (journal : List Event) : ScreenGame :=
  { g with session := { g.session with lastError := some reason }, journal }

/-- The screen game after an accepted guess, before the player is told about it. -/
def played (g : ScreenGame) (guess : Equation) (journal : List Event) : ScreenGame :=
  { g with session := g.session.play guess, buffer := [], journal }

/-- The ends that submitting the buffer can have. -/
inductive Submitted (g : ScreenGame) : ScreenGame → Prop
  /-- The game is over. -/
  | refused (hover : g.session.isOver = true) (journal : List Event) :
      Submitted g (({ g with journal } : ScreenGame).post .error SessionError.gameOver.message)
  /-- The buffer is no guess. -/
  | rejected {reason : Rejection} (hopen : g.session.isOver = false)
      (hreason : Guess.validate g.bufferText = .error reason) (journal : List Event) :
      Submitted g ((g.noted reason journal).post .error (rejectionText g.session.options reason))
  /-- The guess wins the game. -/
  | won {guess : Equation} (hopen : g.session.isOver = false)
      (hguess : Guess.validate g.bufferText = .ok guess)
      (hstatus : (g.session.play guess).status = .won) (journal : List Event) :
      Submitted g (g.played guess journal).finishWon
  /-- The guess was the last one that the game allows. -/
  | lost {guess : Equation} (hopen : g.session.isOver = false)
      (hguess : Guess.validate g.bufferText = .ok guess)
      (hstatus : (g.session.play guess).status = .lost) (journal : List Event) :
      Submitted g (g.played guess journal).finishLost
  /-- The game goes on. -/
  | active {guess : Equation} (hopen : g.session.isOver = false)
      (hguess : Guess.validate g.bufferText = .ok guess)
      (hstatus : (g.session.play guess).status = .active) (journal : List Event) :
      Submitted g ((g.played guess journal).post .info
        (toString (g.session.play guess).remaining ++ " attempts remaining"))

theorem submitted_submit (g : ScreenGame) : Submitted g g.submit := by
  have hsubmission := g.session.submission_submit g.bufferText
  rw [submit]
  generalize g.session.submit g.bufferText = effect at hsubmission
  cases hsubmission with
  | refused hover => exact .refused hover _
  | rejected hopen hreason => exact .rejected hopen hreason _
  | @accepted guess hopen hguess =>
    cases hstatus : (g.session.play guess).status with
    | won =>
      simp only [hstatus]
      exact .won hopen hguess hstatus _
    | lost =>
      simp only [hstatus]
      exact .lost hopen hguess hstatus _
    | active =>
      simp only [hstatus]
      exact .active hopen hguess hstatus _

/-! ### Another game -/

/-- The screen game at the beginning of another game, before the player is told about it. A game
that is abandoned after a guess counts as lost. -/
def restarted (g : ScreenGame) (target : Equation) : ScreenGame :=
  { g with
    session := g.session.restarted target
    buffer := []
    messages := []
    statistics :=
      if !g.session.isOver && !g.session.history.isEmpty then g.statistics.countLoss
      else g.statistics
    mode := .guessing
    journal := g.journal ++ [.gameStarted] }

theorem newGame_of_pick {target : Equation}
    (hpick : g.session.options.selection.pick? g.session.corpus
      (g.session.draws g.session.drawn) = some target) :
    g.newGame = ((g.restarted target).post .info "New game started!").announceTarget := by
  have hnext := Session.newGame_of_pick hpick
  by_cases habandoned : (!g.session.isOver && !g.session.history.isEmpty) = true
  · simp only [newGame, restarted, if_pos habandoned, hnext]
  · simp only [newGame, restarted, if_neg habandoned, hnext]

/-- Apart from the messages, this is all. -/
theorem exists_newGame_eq {target : Equation}
    (hpick : g.session.options.selection.pick? g.session.corpus
      (g.session.draws g.session.drawn) = some target) :
    ∃ messages, g.newGame = { g.restarted target with messages } := by
  obtain ⟨messages, htold⟩ :=
    exists_announceTarget_eq ((g.restarted target).post .info "New game started!")
  exact ⟨messages, (newGame_of_pick hpick).trans htold⟩

/-- The screen game begins with a session and some messages. -/
theorem exists_start_eq (session : Session) : ∃ messages, start session = { session, messages } :=
  exists_announceTarget_eq _

/-! ### Mode and session -/

/-- The mode of the screen game goes with the state of its session, and the buffer fits into an
equation. -/
structure InStep (corpus : List Equation) (g : ScreenGame) : Prop where
  sound : Session.Sound corpus g.session
  mode_iff : g.mode = .gameOver ↔ g.session.isOver = true
  room : g.buffer.length ≤ equationLength

namespace InStep

theorem mode_eq_guessing_iff (h : InStep corpus g) :
    g.mode = .guessing ↔ g.session.isOver = false := by
  have hmode := h.mode_iff
  rw [← Bool.not_eq_true, ← hmode]
  cases g.mode <;> simp

theorem post (h : InStep corpus g) (tone : Tone) (text : String) :
    InStep corpus (g.post tone text) := ⟨h.sound, h.mode_iff, h.room⟩

theorem announceTarget (h : InStep corpus g) : InStep corpus g.announceTarget := by
  rw [ScreenGame.announceTarget]
  split
  · exact h.post _ _
  · exact h

theorem restarted (h : InStep corpus g) {target : Equation} (htarget : target ∈ corpus) :
    InStep corpus (g.restarted target) where
  sound := h.sound.restarted htarget
  mode_iff := iff_of_false (by simp [ScreenGame.restarted]) (by
    simp [ScreenGame.restarted, Session.restarted, Session.isOver, maxAttempts])
  room := Nat.zero_le _

theorem newGame (h : InStep corpus g) : InStep corpus g.newGame := by
  obtain ⟨target, htarget, hpick⟩ := h.sound.exists_pick?
  rw [newGame_of_pick hpick]
  exact ((h.restarted htarget).post _ _).announceTarget

theorem submit (h : InStep corpus g) : InStep corpus g.submit := by
  have hsubmitted := g.submitted_submit
  generalize g.submit = next at hsubmitted
  cases hsubmitted with
  | refused hover journal =>
    exact post (g := { g with journal }) ⟨h.sound, h.mode_iff, h.room⟩ _ _
  | @rejected reason hopen hreason journal =>
    have hsound := h.sound.transition (.stayed (some reason) g.session.observers)
    exact post (g := g.noted reason journal) ⟨hsound, h.mode_iff, h.room⟩ _ _
  | @won guess hopen hguess hstatus journal =>
    have hover : (g.session.play guess).isOver = true :=
      Session.isOver_iff_status.mpr (by simp [hstatus])
    exact ⟨h.sound.played hopen guess, iff_of_true rfl hover, Nat.zero_le _⟩
  | @lost guess hopen hguess hstatus journal =>
    have hover : (g.session.play guess).isOver = true :=
      Session.isOver_iff_status.mpr (by simp [hstatus])
    exact ⟨h.sound.played hopen guess, iff_of_true rfl hover, Nat.zero_le _⟩
  | @active guess hopen hguess hstatus journal =>
    have hover : ¬ (g.session.play guess).isOver = true := by
      simp [Session.isOver_iff_status, hstatus]
    have hmode : ¬ g.mode = .gameOver := by simp [h.mode_iff, hopen]
    exact post (g := g.played guess journal)
      ⟨h.sound.played hopen guess, iff_of_false hmode hover, Nat.zero_le _⟩ _ _

theorem type (h : InStep corpus g) (c : Char) : InStep corpus (g.type c) := by
  rw [ScreenGame.type]
  split
  · split
    case isTrue hroom =>
      refine ⟨h.sound, h.mode_iff, ?_⟩
      rw [List.length_append]
      exact hroom
    case isFalse => exact h
  · exact h

theorem typeText (h : InStep corpus g) (text : String) : InStep corpus (g.typeText text) := by
  rw [ScreenGame.typeText]
  induction text.toList generalizing g with
  | nil => exact h
  | cons c rest ih => exact ih (h.type c)

theorem erase (h : InStep corpus g) : InStep corpus g.erase := by
  refine ⟨h.sound, h.mode_iff, ?_⟩
  rw [ScreenGame.erase, List.length_dropLast]
  exact Nat.le_trans (Nat.sub_le _ _) h.room

/-- A screen game begins in step with its session. -/
theorem start {options : GameOptions} {draws : Draws} {session : Session}
    (hstart : Session.start corpus options draws = .ok session) :
    InStep corpus (ScreenGame.start session) := by
  obtain ⟨target, htarget, rfl⟩ := Session.exists_opened_of_start hstart
  have hbegin : InStep corpus
      { session := Session.opened corpus options draws target } :=
    ⟨Session.Sound.opened htarget, iff_of_false (by simp) (by
      simp [Session.opened, Session.isOver, maxAttempts]), Nat.zero_le _⟩
  exact (hbegin.post _ _).announceTarget

end InStep

end HiddenEquation.ScreenGame
