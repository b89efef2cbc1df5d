import HiddenEquation.Proofs.LineGame.Refinement

/-!
# What the journal tells about games

The journal of a line game tells a story: which guesses were accepted, what they scored, and how
each game came to its end. The line game writes an entry at the moment at which a guess is played,
out of counters that the session keeps. The story itself needs no counters. It follows from the
lines alone, which fall into games: a game has a target and the guesses that were accepted in it,
and it is over once the last guess is the target or six guesses have been made.

This file states the story of a game and proves that the journal tells the stories of all games of
a run, one after the other, and nothing else about guesses or games. A guess is judged before it is
submitted, so the journal never says that a guess was rejected. The proof follows the line game
from line to line. What has been told so far is the story of the game that goes on, and it grows
with the game.

## Main definitions

* `Event.tellsOfGames` : an entry has the title of an entry about a guess or the end of a game.
* `Chronicle.Game`, `Chronicle.Game.story` : a game, and what the journal has to tell of it.
* `Chronicle.games` : the games into which lines of input fall.
* `Chronicle.OutcomesFollowGuesses` : the end of a game is told directly after a guess.
* `Chronicle.Tells` : a journal tells the stories of some games and nothing else about games.
* `Chronicle.Continues` : a line continues the story from one state of a session to the next.

## Main results

* `Chronicle.Game.story_concat` : one more guess makes the story longer by one guess.
* `Chronicle.regular_of_mem_games` : a game has at most six guesses, and none after the target.
* `LineGame.journal_answer` : a line writes into the journal what the rules say.
* `LineGame.play_tells_games` : the journal of a line game tells the stories of its games.
-/

namespace HiddenEquation

/-- Whether an entry has one of the titles of entries about guesses and the end of a game. -/
def Event.tellsOfGames (e : Event) : Bool :=
  ["guess played", "guess rejected", "game won", "game lost"].contains e.title

/-- Whether an entry tells how a game ended. -/
def Event.isOutcome (e : Event) : Bool := ["game won", "game lost"].contains e.title

theorem Event.isOutcome_eq_false {e : Event} (h : e.tellsOfGames = false) :
    e.isOutcome = false := by
  simp only [tellsOfGames, isOutcome, List.contains_eq_mem, List.mem_cons, List.not_mem_nil,
    decide_eq_false_iff_not] at h ⊢
  tauto

namespace Chronicle

/-! ### Games and their stories -/

/-- A game: its target, and the guesses that were accepted in it, oldest first. -/
structure Game where
  target : Equation
  guesses : List Equation
  deriving DecidableEq

namespace Game

/-- A game is won if its last guess is the target. -/
def IsWon (g : Game) : Prop := g.guesses.getLast? = some g.target

instance : DecidablePred IsWon := fun g =>
  inferInstanceAs (Decidable (g.guesses.getLast? = some g.target))

/-- A game is over if it is won or six guesses have been made. -/
def IsOver (g : Game) : Prop := g.IsWon ∨ g.guesses.length = 6

instance : DecidablePred IsOver := fun g =>
  inferInstanceAs (Decidable (g.IsWon ∨ g.guesses.length = 6))

/-- The game with one more guess. -/
def concat (g : Game) (guess : Equation) : Game := ⟨g.target, g.guesses ++ [guess]⟩

/-- How the journal tells the end of a game: with how many guesses it was won, or, if six guesses
did not win it, what its target was. -/
def ending (g : Game) : List Event :=
  if g.IsWon then [.gameWon g.guesses.length]
  else if g.guesses.length = 6 then [.gameLost g.target]
  else []

/-- The story of a game: each guess with its feedback and the attempts that it left, in order, and
then the end of the game, if it is over. -/
def story (g : Game) : List Event :=
  (g.guesses.mapIdx fun earlier guess =>
    .guessPlayed guess (feedback guess g.target) (6 - (earlier + 1))) ++ g.ending

/-- A game keeps the rules: six guesses at most, and none after the target. -/
structure Regular (g : Game) : Prop where
  length_le : g.guesses.length ≤ 6
  target_not_mem : g.target ∉ g.guesses.dropLast

theorem ending_of_not_isOver {g : Game} (h : ¬g.IsOver) : g.ending = [] := by
  rw [IsOver, not_or] at h
  rw [ending, if_neg h.1, if_neg h.2]

theorem story_new (target : Equation) : story ⟨target, []⟩ = [] := by
  simp [story, ending, IsWon]

/-- One more guess makes the story of a game longer by that guess, and by the end of the game if
this was the last one. -/
theorem story_concat {g : Game} (h : ¬g.IsOver) (guess : Equation) :
    (g.concat guess).story = g.story ++
      .guessPlayed guess (feedback guess g.target) (6 - (g.guesses.length + 1)) ::
        (g.concat guess).ending := by
  rw [story, story, ending_of_not_isOver h, List.append_nil, concat, List.mapIdx_concat,
    List.append_assoc]
  rfl

/-- A guess that is not accepted is no part of a story. -/
theorem guessRejected_not_mem_story (g : Game) (text : String) (reason : Rejection) :
    .guessRejected text reason ∉ g.story := by
  rw [story, List.mem_append, not_or]
  refine ⟨by simp, ?_⟩
  rw [ending]
  split
  · simp
  · split <;> simp

theorem Regular.concat {g : Game} (hg : g.Regular) (h : ¬g.IsOver) (guess : Equation) :
    (g.concat guess).Regular := by
  rw [IsOver, not_or] at h
  refine ⟨?_, ?_⟩
  · have hlength := hg.length_le
    simp only [Game.concat, List.length_append, List.length_singleton]
    omega
  · simp only [Game.concat, List.dropLast_concat]
    intro hmem
    -- the target is no earlier guess, so it would be the last one
    obtain hnil | ⟨earlier, last, hguesses⟩ := List.eq_nil_or_concat' g.guesses
    · simp [hnil] at hmem
    · have hearlier := hg.target_not_mem
      rw [hguesses, List.dropLast_concat] at hearlier
      rw [hguesses, List.mem_append, List.mem_singleton] at hmem
      rcases hmem with hmem | hlast
      · exact hearlier hmem
      · exact h.1 (by rw [IsWon, hguesses, List.getLast?_concat, hlast])

end Game

/-! ### The games of a run -/

/-- The games into which lines of input fall, from the game that goes on. Lines that are no guesses
do not count. A line after the end of a game starts another game or leaves. Nothing is read behind a
line that leaves, nor behind bytes that are no text. The targets of the games to come are given by
their numbers, and `next` is the number of the next one. -/
def games (target? : Nat → Option Equation) (next : Nat) (g : Game) : List InputLine → List Game
  | [] => [g]
  | .garbled :: _ => [g]
  | .text line :: rest =>
    if g.IsOver then
      if line.toLower = "y" ∨ line.toLower = "yes" then
        match target? next with
        | some target => g :: games target? (next + 1) ⟨target, []⟩ rest
        | none => [g]
      else [g]
    else if line = "quit" ∨ line = "q" ∨ line = "exit" then [g]
    else
      match Guess.validate line with
      | .ok guess => games target? next (g.concat guess) rest
      | .error _ => games target? next g rest

/-- The games of a run on a corpus. There are none if the corpus has no target. -/
def gamesOn (corpus : List Equation) (selection : Selection) (draws : Draws)
    (lines : List InputLine) : List Game :=
  match selection.pick? corpus (draws 0) with
  | some target => games (fun k => selection.pick? corpus (draws k)) 1 ⟨target, []⟩ lines
  | none => []

/-- Every game of a run keeps the rules. -/
theorem regular_of_mem_games {target? : Nat → Option Equation} {next : Nat} {g : Game}
    (hg : g.Regular) {lines : List InputLine} :
    ∀ played ∈ games target? next g lines, played.Regular := by
  induction lines generalizing next g with
  | nil => simpa [games] using hg
  | cons line rest ih =>
    cases line with
    | garbled => simpa [games] using hg
    | text line =>
      rw [games]
      split
      · split
        · split
          · exact List.forall_mem_cons.mpr ⟨hg, ih ⟨by simp, by simp⟩⟩
          · simpa using hg
        · simpa using hg
      · next hopen =>
        split
        · simpa using hg
        · split
          · exact ih (hg.concat hopen _)
          · exact ih hg

theorem regular_of_mem_gamesOn {corpus : List Equation} {selection : Selection} {draws : Draws}
    {lines : List InputLine} : ∀ g ∈ gamesOn corpus selection draws lines, g.Regular := by
  rw [gamesOn]
  split
  · exact regular_of_mem_games ⟨by simp, by simp⟩
  · simp

/-! ### Where the end of a game is told -/

/-- The end of a game is told directly after a guess. -/
def OutcomesFollowGuesses (journal : List Event) : Prop :=
  ∀ before e after, journal = before ++ e :: after → e.isOutcome = true →
    ∃ earlier guess row left, before = earlier ++ [.guessPlayed guess row left]

namespace OutcomesFollowGuesses

theorem of_silent {journal : List Event} (h : ∀ e ∈ journal, e.tellsOfGames = false) :
    OutcomesFollowGuesses journal := by
  rintro before e after rfl houtcome
  rw [Event.isOutcome_eq_false (h e (by simp))] at houtcome
  cases houtcome

theorem append {journal later : List Event} (h : OutcomesFollowGuesses journal)
    (hlater : OutcomesFollowGuesses later) : OutcomesFollowGuesses (journal ++ later) := by
  intro before e after hsplit houtcome
  obtain ⟨middle, rfl, hright⟩ | ⟨middle, hleft, hright⟩ := List.append_eq_append_iff.mp hsplit
  · obtain ⟨earlier, guess, row, left, rfl⟩ := hlater middle e after hright houtcome
    exact ⟨journal ++ earlier, guess, row, left, (List.append_assoc ..).symm⟩
  · cases middle with
    | nil =>
      obtain ⟨earlier, guess, row, left, hnil⟩ := hlater [] e after hright.symm houtcome
      simp at hnil
    | cons e' middle =>
      obtain ⟨rfl, -⟩ := List.cons.inj hright
      exact h before _ middle hleft houtcome

/-- After one guess, at most one end of a game is told. -/
theorem guessPlayed {guess : Equation} {row : Row} {left : Nat} {outcome : List Event}
    (hone : outcome.length ≤ 1) :
    OutcomesFollowGuesses (.guessPlayed guess row left :: outcome) := by
  rintro (_ | ⟨first, before⟩) e after hsplit houtcome
  · obtain ⟨rfl, -⟩ := List.cons.inj hsplit
    cases houtcome
  · obtain ⟨rfl, rfl⟩ := List.cons.inj hsplit
    have hlength : (before ++ e :: after).length ≤ 1 := hone
    rw [List.length_append, List.length_cons] at hlength
    obtain rfl : before = [] := List.length_eq_zero_iff.mp (by omega)
    exact ⟨[], guess, row, left, rfl⟩

end OutcomesFollowGuesses

/-- A journal tells of some games: its entries about guesses and games are the stories of these
games, one after the other, and it tells the end of a game directly after a guess. -/
structure Tells (journal : List Event) (played : List Game) : Prop where
  stories : journal.filter Event.tellsOfGames = played.flatMap Game.story
  follows : OutcomesFollowGuesses journal

theorem filter_eq_nil_of_silent {told : List Event} (h : ∀ e ∈ told, e.tellsOfGames = false) :
    told.filter Event.tellsOfGames = [] := by
  rw [List.filter_eq_nil_iff]
  intro e he
  simp [h e he]

namespace Tells

theorem of_silent {journal : List Event} (h : ∀ e ∈ journal, e.tellsOfGames = false) :
    Tells journal [] :=
  ⟨filter_eq_nil_of_silent h, .of_silent h⟩

theorem append {journal later : List Event} {played next : List Game} (h : Tells journal played)
    (hlater : Tells later next) : Tells (journal ++ later) (played ++ next) := by
  refine ⟨?_, h.follows.append hlater.follows⟩
  rw [List.filter_append, h.stories, hlater.stories, List.flatMap_append]

/-- No story has a rejected guess in it. -/
theorem guessRejected_not_mem {journal : List Event} {played : List Game} (h : Tells journal played)
    (text : String) (reason : Rejection) : .guessRejected text reason ∉ journal := by
  intro hmem
  have htold : Event.guessRejected text reason ∈ played.flatMap Game.story :=
    h.stories ▸ List.mem_filter.mpr ⟨hmem, rfl⟩
  obtain ⟨g, -, hstory⟩ := List.mem_flatMap.mp htold
  exact Game.guessRejected_not_mem_story g text reason hstory

end Tells

/-! ### The game of a session -/

variable {corpus : List Equation} {s : Session}

/-- The current game of a session. -/
def current (s : Session) : Game := ⟨s.target, s.history.map Prod.fst⟩

theorem current_isWon_iff (h : s.Sound corpus) : (current s).IsWon ↔ s.won = true := by
  rw [h.won_iff_target, Game.IsWon, current, List.getLast?_map, Option.map_eq_some_iff]
  constructor
  · rintro ⟨⟨guess, row⟩, hlast, rfl⟩
    exact ⟨row, hlast⟩
  · rintro ⟨row, hlast⟩
    exact ⟨_, hlast, rfl⟩

theorem current_isOver_iff (h : s.Sound corpus) : (current s).IsOver ↔ s.isOver = true := by
  rw [Game.IsOver, current_isWon_iff h, Session.isOver, Bool.or_eq_true, beq_iff_eq,
    h.remaining_eq_zero_iff, current, List.length_map]

theorem current_play (s : Session) (guess : Equation) :
    current (s.play guess) = (current s).concat guess := by
  simp [current, Session.play, Game.concat]

/-- The session tells the end of a game as the story does. -/
theorem outcome_eq_ending (h : s.Sound corpus) : s.outcome = (current s).ending := by
  have hlength : (current s).guesses.length = s.history.length := List.length_map ..
  rw [Session.outcome, Game.ending, hlength]
  cases hstatus : s.status with
  | won => rw [if_pos ((current_isWon_iff h).mpr (Session.status_eq_won_iff.mp hstatus))]
  | lost =>
    obtain ⟨hwon, hzero⟩ := Session.status_eq_lost_iff.mp hstatus
    rw [if_neg (mt (current_isWon_iff h).mp (by simp [hwon])),
      if_pos (h.remaining_eq_zero_iff.mp hzero)]
    rfl
  | active =>
    obtain ⟨hwon, hzero⟩ := Session.status_eq_active_iff.mp hstatus
    rw [if_neg (mt (current_isWon_iff h).mp (by simp [hwon])),
      if_neg (mt h.remaining_eq_zero_iff.mpr hzero)]

/-! ### What one line adds to the story -/

/-- What a line adds to the journal by the rules. -/
def added (s : Session) (line : String) : List Event :=
  if s.isOver then
    if line.toLower = "y" ∨ line.toLower = "yes" then [.gameStarted] else []
  else if line = "quit" ∨ line = "q" ∨ line = "exit" then []
  else
    match Guess.validate line with
    | .ok guess =>
      .guessPlayed guess (feedback guess s.target) (s.remaining - 1) :: (s.play guess).outcome
    | .error _ => Guess.events line

/-- The supply of targets of a session. -/
def targets (s : Session) (k : Nat) : Option Equation :=
  s.options.selection.pick? s.corpus (s.draws k)

/-- A line leads from the current game of a session to that of the next one. What it adds to the
journal continues the story from the one to the other, and tells of the games that are finished
between them. -/
structure Continues (s : Session) (line : String) (next : Session) : Prop where
  targets_eq : targets next = targets s
  follows : OutcomesFollowGuesses (added s line)
  stories : ∃ finished : List Event,
    (current s).story ++ (added s line).filter Event.tellsOfGames =
      finished ++ (current next).story ∧
    ∀ rest, (games (targets s) s.drawn (current s) (.text line :: rest)).flatMap Game.story =
      finished ++ (games (targets s) next.drawn (current next) rest).flatMap Game.story

/-- Judging a text tells nothing of games. -/
theorem tellsOfGames_events (text : String) :
    ∀ e ∈ Guess.events text, e.tellsOfGames = false := by
  rw [Guess.events]
  cases Guess.checkForm text with
  | error => simp
  | ok =>
    cases Guess.balance text with
    | error => simp [Event.tellsOfGames, Event.title]
    | ok sides =>
      dsimp only
      split
      · simp
      · simp [Event.tellsOfGames, Event.title]

theorem tellsOfGames_ending (g : Game) : ∀ e ∈ g.ending, e.tellsOfGames = true := by
  rw [Game.ending]
  split
  · simp [Event.tellsOfGames, Event.title]
  · split
    · simp [Event.tellsOfGames, Event.title]
    · simp

theorem length_ending_le (g : Game) : g.ending.length ≤ 1 := by
  rw [Game.ending]
  split
  · simp
  · split <;> simp

/-- An accepted guess adds to the journal what it adds to the story of its game. -/
theorem continues_of_guess (h : s.Sound corpus) (hopen : s.isOver = false) {line : String}
    (hstays : ¬(line = "quit" ∨ line = "q" ∨ line = "exit")) {guess : Equation}
    (hguess : Guess.validate line = .ok guess) : Continues s line (s.play guess) := by
  have hover : ¬s.isOver = true := Bool.eq_false_iff.mp hopen
  have hcurrent : ¬(current s).IsOver := mt (current_isOver_iff h).mp hover
  have hbudget := h.budget
  have hleft : s.remaining - 1 = 6 - ((current s).guesses.length + 1) := by
    simp only [current, List.length_map, maxAttempts] at hbudget ⊢
    omega
  have hadded : added s line = .guessPlayed guess (feedback guess s.target) (s.remaining - 1) ::
      ((current s).concat guess).ending := by
    rw [added, if_neg hover, if_neg hstays, hguess]
    simp only [outcome_eq_ending (h.played hopen guess), current_play]
  refine ⟨rfl, hadded ▸ .guessPlayed (length_ending_le _), [], ?_, fun rest => ?_⟩
  · rw [hadded, current_play, Game.story_concat hcurrent, hleft, List.filter_cons_of_pos (by rfl),
      List.filter_eq_self.mpr (tellsOfGames_ending _)]
    rfl
  · rw [games, if_neg hcurrent, if_neg hstays, hguess, current_play]
    rfl

/-- A line that is no guess adds nothing to the story. -/
theorem continues_of_rejection (h : s.Sound corpus) (hopen : s.isOver = false) {line : String}
    (hstays : ¬(line = "quit" ∨ line = "q" ∨ line = "exit")) {reason : Rejection}
    (hreason : Guess.validate line = .error reason) :
    Continues s line { s with lastError := some reason } := by
  have hover : ¬s.isOver = true := Bool.eq_false_iff.mp hopen
  have hcurrent : ¬(current s).IsOver := mt (current_isOver_iff h).mp hover
  have hadded : added s line = Guess.events line := by
    rw [added, if_neg hover, if_neg hstays, hreason]
  have hsilent := tellsOfGames_events line
  refine ⟨rfl, hadded ▸ .of_silent hsilent, [], ?_, fun rest => ?_⟩
  · rw [hadded, filter_eq_nil_of_silent hsilent, List.append_nil]
    rfl
  · rw [games, if_neg hcurrent, if_neg hstays, hreason]
    rfl

/-- The start of another game finishes the story of the current one. -/
theorem continues_of_replay (h : s.Sound corpus) (hover : s.isOver = true) {line : String}
    (haccepts : line.toLower = "y" ∨ line.toLower = "yes") {target : Equation}
    (hpick : targets s s.drawn = some target) : Continues s line (s.restarted target) := by
  have hadded : added s line = [.gameStarted] := by rw [added, if_pos hover, if_pos haccepts]
  have hsilent : ∀ e ∈ added s line, e.tellsOfGames = false := by
    simp [hadded, Event.tellsOfGames, Event.title]
  refine ⟨rfl, .of_silent hsilent, (current s).story, ?_, fun rest => ?_⟩
  · rw [filter_eq_nil_of_silent hsilent]
    exact congrArg _ (Game.story_new target).symm
  · rw [games, if_pos ((current_isOver_iff h).mpr hover), if_pos haccepts, hpick]
    exact List.flatMap_cons

/-- A line after which the rules go on continues the story. -/
theorem continues_of_step (h : s.Sound corpus) {line : String} {next : Session}
    (hstep : (PlainGame.step s line).1 = some next) : Continues s line next := by
  rw [PlainGame.step] at hstep
  by_cases hover : s.isOver = true
  · rw [if_pos hover] at hstep
    by_cases haccepts : line.toLower = "y" ∨ line.toLower = "yes"
    · obtain ⟨target, -, hpick⟩ := h.exists_pick?
      rw [if_pos haccepts, Session.newGame_of_pick hpick] at hstep
      obtain rfl := Option.some.inj hstep
      exact continues_of_replay h hover haccepts hpick
    · rw [if_neg haccepts] at hstep
      cases hstep
  · have hopen : s.isOver = false := Bool.eq_false_iff.mpr hover
    rw [if_neg hover] at hstep
    by_cases hquit : line = "quit" ∨ line = "q" ∨ line = "exit"
    · rw [if_pos hquit] at hstep
      cases hstep
    · rw [if_neg hquit, Session.submit, if_neg hover] at hstep
      cases hguess : Guess.validate line with
      | error reason =>
        rw [hguess] at hstep
        obtain rfl := Option.some.inj hstep
        exact continues_of_rejection h hopen hquit hguess
      | ok guess =>
        rw [hguess] at hstep
        obtain rfl := Option.some.inj hstep
        exact continues_of_guess h hopen hquit hguess

/-- A line with which the player leaves adds nothing, and the current game is the last one. -/
theorem last_of_step (h : s.Sound corpus) {line : String}
    (hstep : (PlainGame.step s line).1 = none) :
    added s line = [] ∧
      ∀ rest, games (targets s) s.drawn (current s) (.text line :: rest) = [current s] := by
  rw [PlainGame.step] at hstep
  by_cases hover : s.isOver = true
  · rw [if_pos hover] at hstep
    by_cases haccepts : line.toLower = "y" ∨ line.toLower = "yes"
    · rw [if_pos haccepts] at hstep
      cases hstep
    · rw [added, if_pos hover, if_neg haccepts]
      refine ⟨rfl, fun rest => ?_⟩
      rw [games, if_pos ((current_isOver_iff h).mpr hover), if_neg haccepts]
  · rw [if_neg hover] at hstep
    by_cases hquit : line = "quit" ∨ line = "q" ∨ line = "exit"
    · rw [added, if_neg hover, if_pos hquit]
      refine ⟨rfl, fun rest => ?_⟩
      rw [games, if_neg (mt (current_isOver_iff h).mp hover), if_pos hquit]
    · rw [if_neg hquit] at hstep
      cases hstep

end Chronicle

/-! ### The journal of a run -/

namespace LineGame

open Chronicle

variable {corpus : List Equation} {s : Session} {game : LineGame} {turn : Turn}

theorem journal_preceded (notices : List Notice) (journal : List Event) (turn : Turn) :
    (preceded notices journal turn).journal = journal ++ turn.journal := rfl

theorem journal_nextTurn (session : Session) (observer : Nat) :
    (nextTurn session observer).journal = [] := by
  rw [nextTurn]
  split <;> rfl

theorem journal_firstTurn (session : Session) (observer : Nat) :
    (firstTurn session observer).journal = [] :=
  journal_nextTurn session observer

theorem journal_answerReplay (h : Waits corpus s game) (hover : s.isOver = true) (line : String) :
    (game.answerReplay line).journal = added s line := by
  rw [answerReplay, added, if_pos hover]
  by_cases haccepts : line.toLower = "y" ∨ line.toLower = "yes"
  · obtain ⟨target, -, hpick⟩ := h.proper.sound.exists_pick?
    have hstarted := Session.newGame_of_pick (s := s.subscribe.session) hpick
    rw [if_pos (acceptsReplay_iff.mpr haccepts), if_pos haccepts, h.session_eq, hstarted]
    simp only [journal_preceded, journal_firstTurn, List.append_nil]
  · rw [if_neg (mt acceptsReplay_iff.mp haccepts), if_neg haccepts]
    rfl

theorem journal_answerGuess (h : Waits corpus s game) (hopen : s.isOver = false) (line : String) :
    (game.answerGuess line).journal = added s line := by
  rw [added, if_neg (Bool.eq_false_iff.mp hopen)]
  by_cases hquit : line = "quit" ∨ line = "q" ∨ line = "exit"
  · rw [answerGuess, if_pos (isQuit_iff.mpr hquit), if_pos hquit]
    rfl
  · have hstays : ¬isQuit line = true := mt isQuit_iff.mp hquit
    have hopen' : game.session.isOver = false := h.session_eq ▸ hopen
    rw [if_neg hquit]
    cases hguess : Guess.validate line with
    | error reason =>
      rw [answerGuess_of_error hstays hguess]
      exact List.append_nil _
    | ok guess =>
      rw [answerGuess_of_ok hstays hopen' hguess, journal_preceded, journal_nextTurn,
        List.append_nil, h.session_eq]
      rfl

/-- The answer to a line writes into the journal what the rules say. -/
theorem journal_answer (h : Waits corpus s game) (line : String) :
    (game.answer line).journal = added s line := by
  rw [answer]
  cases hasking : game.asking with
  | guess | guessAgain => exact journal_answerGuess h (h.isOver_eq_false (by simp [hasking])) line
  | replay => exact journal_answerReplay h (h.asking_iff.mp hasking) line

/-- What is told while some lines are read: it continues the story of the current game, and then it
tells the stories of the games to come. -/
structure TellsOn (s : Session) (lines : List InputLine) (later : List Event) : Prop where
  follows : OutcomesFollowGuesses later
  stories : (current s).story ++ later.filter Event.tellsOfGames =
    (games (targets s) s.drawn (current s) lines).flatMap Game.story

/-- Nothing more is told if the current game is the last one and gets no further guess. -/
theorem tellsOn_nil {lines : List InputLine}
    (h : games (targets s) s.drawn (current s) lines = [current s]) : TellsOn s lines [] := by
  refine ⟨.of_silent (by simp), ?_⟩
  simp [h]

/-- What a line adds is told before what the lines behind it add. -/
theorem TellsOn.preceded {next : Session} {line : String} {rest : List InputLine}
    {later : List Event} (h : TellsOn next rest later) (hline : Continues s line next) :
    TellsOn s (.text line :: rest) (added s line ++ later) := by
  obtain ⟨finished, hstory, hgames⟩ := hline.stories
  refine ⟨hline.follows.append h.follows, ?_⟩
  rw [List.filter_append, ← List.append_assoc, hstory, List.append_assoc, h.stories, hgames,
    hline.targets_eq]

/-- The journal of a line game that waits: what the last turn told, and then the stories of the
games into which the lines fall. -/
theorem follow_tells_games (hprogress : turn.progress = .waiting game) (h : Waits corpus s game)
    (lines : List InputLine) : ∃ later,
      (follow turn lines).journal = turn.journal ++ later ∧ TellsOn s lines later := by
  induction lines generalizing turn s game with
  | nil =>
    refine ⟨[], ?_, tellsOn_nil rfl⟩
    simp only [follow, hprogress, lastTurn, List.append_nil]
  | cons line rest ih =>
    cases line with
    | garbled =>
      refine ⟨[], ?_, tellsOn_nil rfl⟩
      simp only [follow, hprogress, lastTurn, List.append_nil]
    | text line =>
      have hfollow : (follow turn (.text line :: rest)).journal =
          turn.journal ++ (follow (game.answer line) rest).journal := by
        simp only [follow, hprogress]
      have hjournal := journal_answer h line
      obtain ⟨hbrings, -⟩ := brings_answer h line
      rw [hfollow]
      generalize hstep : (PlainGame.step s line).1 = next at hbrings
      cases hbrings with
      | waits hwaiting hnext =>
        obtain ⟨later, hlater, htells⟩ := ih hwaiting hnext
        refine ⟨added s line ++ later, by rw [hlater, hjournal], ?_⟩
        exact htells.preceded (continues_of_step h.proper.sound hstep)
      | leaves hleft =>
        obtain ⟨hnothing, hlast⟩ := last_of_step h.proper.sound hstep
        refine ⟨[], ?_, tellsOn_nil (hlast rest)⟩
        rw [follow_of_ended hleft, lastTurn, hjournal, hnothing]

/-- The journal of a line game that is played from the opening of its session tells the stories of
the games into which the lines fall. -/
theorem play_tells_games {options : GameOptions} {draws : Draws} {session : Session}
    (hstart : Session.start corpus options draws = .ok session) (lines : List InputLine) :
    Tells (play session lines).journal (gamesOn corpus options.selection draws lines) := by
  have hpick : ∃ target, options.selection.pick? corpus (draws 0) = some target ∧
      session = Session.opened corpus options draws target := by
    rw [Session.start] at hstart
    split at hstart
    · cases hstart
    · next target hpick => exact ⟨target, hpick, (Except.ok.inj hstart).symm⟩
  obtain ⟨target, hpick, rfl⟩ := hpick
  obtain ⟨hbrings, -⟩ := brings_opening hstart
  cases hbrings with
  | waits hwaiting h =>
    obtain ⟨later, hjournal, htells⟩ := follow_tells_games hwaiting h lines
    have hopening : (opening (Session.opened corpus options draws target)).journal = [] :=
      journal_firstTurn _ _
    have hplay : (play (Session.opened corpus options draws target) lines).journal = later := by
      rw [play, hjournal, hopening, List.nil_append]
    have hstory : (current (Session.opened corpus options draws target)).story = [] :=
      Game.story_new target
    rw [hplay, gamesOn, hpick]
    refine ⟨?_, htells.follows⟩
    rw [← List.nil_append (later.filter _), ← hstory]
    exact htells.stories

end LineGame

end HiddenEquation
