import HiddenEquation.LineGame.Turns
import HiddenEquation.Proofs.Game.Views
import HiddenEquation.Proofs.Text.Bytes
import HiddenEquation.Proofs.Text.Lines

/-!
# The rules of a game over lines

By its rules, a game over lines of text is a plain session and one case distinction for each line.
As long as a game goes on, a few words leave and every other line is submitted to the session. After
the end of a game, two answers start another one and every other line leaves. What the player has to
be told about guesses and games follows from the guess, the target and the history.

This file states the rules as a machine over plain sessions, on which nothing is subscribed. The
machine knows no prompts, judges no line in advance, and keeps nothing but the session. Its input
are the lines of a text, each without the blanks at its two ends.

## Main definitions

* `PlainGame.step` : what a line does by the rules, and what the player is told.
* `PlainGame.after`, `PlainGame.news`, `PlainGame.ending` : the machine over many lines.
* `PlainGame.Proper` : what holds of all sessions of the machine.
* `PlainGame.trimmedLines` : the input that the bytes of a text give.

## Main results

* `PlainGame.ofBytes_toUTF8` : the bytes of a text are read as its trimmed lines.
-/

namespace HiddenEquation

namespace PlainGame

variable {corpus : List Equation} {s : Session}

/-! ### The rules -/

/-- What the player is told about a game that has ended: with how many guesses it was won, or what
its target was. -/
def outcome (s : Session) : List Notice :=
  match s.status with
  | .won => [.victory s.history.length]
  | .lost => [.defeat s.target]
  | .active => []

/-- What the player is told about a line that is submitted while the game goes on. A guess that is
accepted gives hints: its feedback, and the symbols that no guess of this game holds. -/
def hints (s : Session) (line : String) : List Notice :=
  match Guess.validate line with
  | .error _ => []
  | .ok guess =>
    let row := feedback guess s.target
    .hints guess row (unusedIn (s.history ++ [(guess, row)])) :: outcome (s.submit line).session

/-- What a line does by the rules, to a session on which nothing was ever subscribed: the session
that waits for the next line, unless the player leaves, and what the player is told. -/
def step (s : Session) (line : String) : Option Session × List Notice :=
  if s.isOver then
    if line.toLower = "y" ∨ line.toLower = "yes" then (some s.newGame.session, [.restarted])
    else (none, [])
  else if line = "quit" ∨ line = "q" ∨ line = "exit" then (none, [])
  else (some (s.submit line).session, hints s line)

/-- The session that waits after some lines, unless the player has left. -/
def after (s : Session) : List String → Option Session
  | [] => some s
  | line :: rest => (step s line).1.bind fun next => after next rest

/-- What the player is told in the course of some lines. Nothing is read once the player has
left. -/
def news (s : Session) : List String → List Notice
  | [] => []
  | line :: rest =>
    (step s line).2 ++ match (step s line).1 with
      | some next => news next rest
      | none => []

/-- How a run over some lines ends: the player leaves, or there is no further line. -/
def ending (s : Session) (lines : List String) : Ending :=
  if (after s lines).isSome then .failed "input closed" else .left

/-! ### Sessions of the machine -/

/-- What holds of the sessions of the machine. -/
structure Proper (corpus : List Equation) (s : Session) : Prop where
  sound : s.Sound corpus
  upToDate : s.UpToDate
  observers_eq : s.observers = 0

namespace Proper

theorem played (h : Proper corpus s) {line : String} {guess : Equation}
    (hopen : s.isOver = false) (hguess : Guess.validate line = .ok guess) :
    Proper corpus (s.play guess) :=
  ⟨h.sound.played hopen guess, h.upToDate.played hguess, h.observers_eq⟩

theorem rejected (h : Proper corpus s) (reason : Rejection) :
    Proper corpus { s with lastError := some reason } :=
  ⟨h.sound.transition (.stayed (some reason) s.observers),
    h.upToDate.transition (.stayed (some reason) s.observers), h.observers_eq⟩

theorem restarted (h : Proper corpus s) {target : Equation} (htarget : target ∈ corpus) :
    Proper corpus (s.restarted target) :=
  ⟨h.sound.restarted htarget, .restarted s target, h.observers_eq⟩

/-- A session that is opened has no observers. -/
theorem opened (options : GameOptions) (draws : Draws) {target : Equation}
    (htarget : target ∈ corpus) : Proper corpus (Session.opened corpus options draws target) :=
  ⟨.opened htarget, .opened corpus options draws target, rfl⟩

end Proper

/-! ### Input -/

/-- The lines of a text, each without the blanks at its two ends. -/
def trimmedLines (text : String) : List String :=
  (Text.linesOf text.toList).map fun line => String.ofList (Text.trimChars line)

/-- Trimming leaves what stands between the blanks. -/
theorem isTrimmed_trimmedLines (text : String) :
    List.Forall₂ (fun line trimmed => Text.IsTrimmed line trimmed.toList)
      (Text.linesOf text.toList) (trimmedLines text) := by
  rw [trimmedLines, List.forall₂_map_right_iff, List.forall₂_same]
  intro line _
  rw [String.toList_ofList]
  exact Text.isTrimmed_trimChars line

/-- The bytes of a text are read as its trimmed lines. -/
theorem ofBytes_toUTF8 (text : String) :
    InputLine.ofBytes text.toUTF8 = (trimmedLines text).map .text := by
  rw [InputLine.ofBytes, Text.splitAfter_toUTF8, trimmedLines,
    ← Text.map_dropLineEnd_splitAfter, List.map_map, List.map_map, List.map_map]
  refine List.map_congr_left fun piece _ => ?_
  simp only [Function.comp_apply, Text.fromUTF8?_flatMap, Text.trimChars_dropLineEnd, Text.trim,
    String.toList_ofList]

end PlainGame

end HiddenEquation
