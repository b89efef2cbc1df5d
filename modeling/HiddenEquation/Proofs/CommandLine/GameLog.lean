import HiddenEquation.Proofs.CommandLine.ExitCodes
import HiddenEquation.Proofs.CommandLine.FileTree
import HiddenEquation.Proofs.LineGame.Chronicle

/-!
# The log of a line game

A run that plays over lines can keep its journal in a file. Before its first guess the journal tells
of the corpus and of the session. From then on it tells the stories of the games that the lines of
input make up, if there is a corpus to take targets from. From verbosity two on no entry is held
back, so that the file grows by one line for each entry, in the order of the entries.

The file is followed from its opening to the end of the run: what it held when the run began, then
the lines. The part of the story that is about guesses and games is given word for word.

## Main definitions

* `Chronicle.Game.log` : the lines about a game in a journal of verbosity two.
* `Program.gamesPlayed` : the games of a run, read off its corpus and its lines of input.

## Main results

* `Journal.lines_of_two_le` : a journal of verbosity two keeps all entries.
* `Chronicle.Game.map_line_story` : the story of a game, written line by line.
* `Program.tells_outcome` : the journal of a run over lines tells of its games.
* `Program.journal_tells_games` : so does the file in which it is kept.
-/

namespace HiddenEquation

/-- From verbosity two on, a journal keeps all entries. -/
theorem Journal.lines_of_two_le {verbosity : Nat} (h : 2 ≤ verbosity) (events : List Event) :
    Journal.lines verbosity events = events.map (Event.line verbosity) := by
  have hleast : 2 ≤ (Level.ofVerbosity verbosity).rank := by
    match verbosity, h with
    | 2, _ => decide
    | _ + 3, _ => exact Nat.le_succ 2
  have hkeeps : ∀ e : Event, (Level.ofVerbosity verbosity).keeps e.level = true := by
    intro e
    have hrank : e.level.rank ≤ 2 := by cases e <;> simp [Event.level, Level.rank]
    exact decide_eq_true (hrank.trans hleast)
  rw [Journal.lines, List.filter_eq_self.mpr fun e _ => hkeeps e]

/-! ### The lines about games -/

/-- At verbosity two an entry is written with its level, its origin, its title and its fields. -/
theorem Event.line_two (e : Event) {tag : String} (h : padLeft 5 e.level.tag = tag) :
    e.line 2 = tag ++ " " ++ e.origin ++ ": " ++ e.title ++
      String.join (e.fields.map fun field => " " ++ field.1 ++ "=" ++ field.2) := by
  simp [line, h, String.append_assoc]

namespace Chronicle.Game

/-- What a journal of verbosity two has to say of a game, line by line: each guess with its feedback
and the attempts that it left, and then the end of the game, if it is over. -/
def log (g : Game) : List String :=
  (g.guesses.mapIdx fun earlier guess =>
    "DEBUG numberle::game::session: guess played guess=" ++ guess.text ++
      " feedback=" ++ (feedback guess g.target).emoji ++
      " remaining=" ++ toString (6 - (earlier + 1))) ++
  if g.IsWon then
    [" INFO numberle::game::session: game won attempts=" ++ toString g.guesses.length]
  else if g.guesses.length = 6 then
    [" INFO numberle::game::session: game lost target=" ++ g.target.text]
  else []

theorem line_guessPlayed (guess : Equation) (row : Row) (remaining : Nat) :
    (Event.guessPlayed guess row remaining).line 2 =
      "DEBUG numberle::game::session: guess played guess=" ++ guess.text ++
        " feedback=" ++ row.emoji ++ " remaining=" ++ toString remaining := by
  have htag : padLeft 5 Level.debug.tag = "DEBUG" := by decide
  rw [Event.line_two (.guessPlayed guess row remaining) htag, ← String.toList_inj]
  simp [Event.origin, Event.title, Event.fields]

theorem line_gameWon (attempts : Nat) : (Event.gameWon attempts).line 2 =
    " INFO numberle::game::session: game won attempts=" ++ toString attempts := by
  have htag : padLeft 5 Level.info.tag = " INFO" := by decide
  rw [Event.line_two (.gameWon attempts) htag, ← String.toList_inj]
  simp [Event.origin, Event.title, Event.fields]

theorem line_gameLost (target : Equation) : (Event.gameLost target).line 2 =
    " INFO numberle::game::session: game lost target=" ++ target.text := by
  have htag : padLeft 5 Level.info.tag = " INFO" := by decide
  rw [Event.line_two (.gameLost target) htag, ← String.toList_inj]
  simp [Event.origin, Event.title, Event.fields]

/-- The story of a game as it is written at verbosity two. -/
theorem map_line_story (g : Game) : g.story.map (Event.line 2) = g.log := by
  rw [story, log, List.map_append]
  congr 1
  · refine (List.mapIdx_eq_iff.mpr fun k => ?_).symm
    simp only [List.getElem?_map, List.getElem?_mapIdx, Option.map_map, Function.comp_def,
      line_guessPlayed]
  · rw [ending]
    split
    · rw [List.map_singleton, line_gameWon]
    · split
      · rw [List.map_singleton, line_gameLost]
      · rfl

end Chronicle.Game

/-! ### Before the first guess -/

namespace Invocation

variable {inv : Invocation} {contents : Except FileError ByteArray} {supply : Draws.Supply}

/-- Loading a corpus tells nothing of games. -/
theorem tellsOfGames_loadCorpus :
    ∀ e ∈ (inv.loadCorpus contents).2, e.tellsOfGames = false := by
  rw [loadCorpus]
  split
  · simp
  · split
    · simp
    · next sheet _ =>
      have hrepeated : ∀ e ∈ (Corpus.repetitions [] (Corpus.read sheet).equations).map
          fun found => Event.duplicateEquation found.1 found.2, e.tellsOfGames = false :=
        List.forall_mem_map.mpr fun _ _ => rfl
      dsimp only
      split
      · exact hrepeated
      · exact List.forall_mem_append.mpr ⟨hrepeated, List.forall_mem_singleton.mpr rfl⟩

end Invocation

namespace Program

open Chronicle

variable {words : List String} {inv : Invocation} {tree files : FileTree} {supply : Draws.Supply}
  {elapsed rate path : String} {stamps : Nat → String}

/-- The games of a run over lines: those into which the lines fall, on the corpus of the run. There
are none if no corpus can be loaded. -/
def gamesPlayed (inv : Invocation) (files : FileTree) (supply : Draws.Supply)
    (lines : List InputLine) : List Game :=
  match (inv.loadCorpus (contents inv files)).1 with
  | .ok corpus =>
    gamesOn corpus inv.options.selection (supply inv.seed) lines
  | .error _ => []

theorem regular_of_mem_gamesPlayed {lines : List InputLine} :
    ∀ g ∈ gamesPlayed inv files supply lines, g.Regular := by
  rw [gamesPlayed]
  split
  · exact regular_of_mem_gamesOn
  · simp

/-- The journal of a line game follows what was told before it. -/
theorem journal_ofTranscript (opening : List Event) (t : Transcript) :
    (Outcome.ofTranscript opening t).journal = opening ++ t.journal := by
  rw [Outcome.ofTranscript]
  cases t.ending <;> rfl

/-- Without a target there is no session, and no game is played. -/
theorem gamesOn_of_start_error {corpus : List Equation} {options : GameOptions} {draws : Draws}
    {reason : SessionError} (hstart : Session.start corpus options draws = .error reason)
    (lines : List InputLine) : gamesOn corpus options.selection draws lines = [] := by
  rw [Session.start] at hstart
  rw [gamesOn]
  cases hpick : options.selection.pick? corpus (draws 0) with
  | none => rfl
  | some target =>
    rw [hpick] at hstart
    cases hstart

/-- An invocation to play over lines opens a session, whose games are then played, or fails and
plays none. What it tells before that is not about games. -/
theorem stage_simple (hcommand : inv.command = .simple) (files : FileTree)
    (supply : Draws.Supply) (lines : List InputLine) :
    ∃ told : List Event, (∀ e ∈ told, e.tellsOfGames = false) ∧
      ((∃ failure,
        inv.stage (contents inv files) supply = .finished (.failed failure [] told) ∧
        gamesPlayed inv files supply lines = []) ∨
      ∃ corpus draws session, Session.start corpus inv.options draws = .ok session ∧
        inv.stage (contents inv files) supply = .lineGame session told ∧
        gamesPlayed inv files supply lines = gamesOn corpus inv.options.selection draws lines) := by
  have hloading : ∀ e ∈ (inv.loadCorpus (contents inv files)).2, e.tellsOfGames = false :=
    inv.tellsOfGames_loadCorpus
  obtain ⟨⟨answer, events⟩, hload⟩ : ∃ loaded, inv.loadCorpus (contents inv files) = loaded :=
    ⟨_, rfl⟩
  rw [hload] at hloading
  cases answer with
  | error failure =>
    refine ⟨events, hloading, .inl ⟨failure, ?_, ?_⟩⟩
    · simp only [Invocation.stage, hcommand, Invocation.openSession, hload]
    · simp only [gamesPlayed, hload]
  | ok corpus =>
    have hloaded : ∀ e ∈ events ++ [.corpusLoaded corpus.length inv.equations],
        e.tellsOfGames = false :=
      List.forall_mem_append.mpr ⟨hloading, List.forall_mem_singleton.mpr rfl⟩
    have hplayed : gamesPlayed inv files supply lines =
        gamesOn corpus inv.options.selection (supply inv.seed) lines := by
      simp only [gamesPlayed, hload]
    cases hstart : Session.start corpus inv.options (supply inv.seed) with
    | error reason =>
      refine ⟨_, hloaded, .inl ⟨.ofSession reason, ?_, ?_⟩⟩
      · simp only [Invocation.stage, hcommand, Invocation.openSession, hload, hstart]
      · rw [hplayed, gamesOn_of_start_error hstart]
    | ok session =>
      have htold : ∀ e ∈ events ++ [.corpusLoaded corpus.length inv.equations] ++ [session.opening],
          e.tellsOfGames = false :=
        List.forall_mem_append.mpr ⟨hloaded, List.forall_mem_singleton.mpr rfl⟩
      refine ⟨_, htold, .inr ⟨corpus, _, session, hstart, ?_, hplayed⟩⟩
      simp only [Invocation.stage, hcommand, Invocation.openSession, hload, hstart]

/-- The journal of a run over lines whose journal is open tells of its games. -/
theorem tells_outcome (hread : Arguments.read words = .ok inv) (hcommand : inv.command = .simple)
    (hopened : opened inv tree = .ok files) :
    Tells (runLines words tree supply elapsed rate stamps).1.journal
      (gamesPlayed inv files supply (linesLeft words tree)) := by
  have hstage : (prepare words tree supply).1 = inv.stage (contents inv files) supply :=
    stage_of_opened hread hopened
  obtain ⟨told, hsilent, hfails | hplays⟩ :=
    stage_simple hcommand files supply (linesLeft words tree)
  · obtain ⟨failure, hfinished, hnone⟩ := hfails
    rw [outcome_of_finished (hstage.trans hfinished), hnone]
    exact .of_silent hsilent
  · obtain ⟨corpus, draws, session, hstart, hgame, hplayed⟩ := hplays
    have houtcome : (runLines words tree supply elapsed rate stamps).1.journal =
        told ++ (LineGame.play session (linesLeft words tree)).journal := by
      rw [outcome_eq, hstage, hgame]
      exact journal_ofTranscript ..
    rw [houtcome, hplayed]
    exact (Tells.of_silent hsilent).append (LineGame.play_tells_games hstart _)

/-- A run whose journal cannot be opened has nothing to tell and changes no file. -/
theorem runLines_of_create_error (hread : Arguments.read words = .ok inv)
    (hlog : inv.logFile = some path) {reason : FileError}
    (hcreate : tree.create path = .error reason) :
    (runLines words tree supply elapsed rate stamps).1.journal = [] ∧
      (runLines words tree supply elapsed rate stamps).2 = tree := by
  simp only [runLines, prepare, hread, hlog, hcreate]
  exact ⟨rfl, rfl⟩

/-- A run appends the entries that its verbosity keeps to the journal that it has opened. -/
theorem files_runLines (hread : Arguments.read words = .ok inv) (hlog : inv.logFile = some path)
    (hcreate : tree.create path = .ok files) :
    (runLines words tree supply elapsed rate stamps).2 =
      files.append path (stamped stamps (Journal.lines inv.verbosity
        (runLines words tree supply elapsed rate stamps).1.journal)) := by
  simp only [runLines, prepare, hread, hlog, hcreate, writeJournal]

/-- The journal as text has one line for each entry, from verbosity two on. -/
theorem stamped_lines {verbosity : Nat} (h : 2 ≤ verbosity) (stamps : Nat → String)
    (journal : List Event) :
    stamped stamps (Journal.lines verbosity journal) =
      String.join (journal.mapIdx fun k e => stamps k ++ " " ++ e.line verbosity ++ "\n") := by
  rw [stamped, Journal.lines_of_two_le h]
  congr 1
  refine List.mapIdx_eq_iff.mpr fun k => ?_
  simp only [List.getElem?_map, List.getElem?_mapIdx, Option.map_map, Function.comp_def]

/-- **The log tells the truth about the games.** However targets are drawn, the journal of a line
game tells the stories of the games into which its lines fall: each accepted guess with its feedback
and the attempts that it leaves, and then the end of the game, if it is over. So does the log of
every run that plays over lines at verbosity two or more. In it the stories of the games follow each
other, and nothing else is told about guesses or games; the end of a game is told directly after its
last guess; no game has more than six guesses or one after its target; and no guess is rejected. At
verbosity two these are the lines of the log about games, word for word.

If the log cannot be opened, nothing is played. Otherwise the file can be read after the run, unless
its path leads to a device: behind what it held before stands one line for each thing told, in order
and with its stamp. No other file changes. -/
theorem journal_tells_games :
    (∀ corpus options draws session, Session.start corpus options draws = .ok session →
      ∀ lines, Tells (LineGame.play session lines).journal
        (gamesOn corpus options.selection draws lines)) ∧
    ∀ words inv path tree supply elapsed rate stamps, Arguments.read words = .ok inv →
      inv.command = .simple → inv.logFile = some path → 2 ≤ inv.verbosity →
      let run := runLines words tree supply elapsed rate stamps
      (∀ reason, tree.create path = .error reason → run.1.journal = [] ∧ run.2 = tree) ∧
      ∀ files, tree.create path = .ok files →
        let played := gamesPlayed inv files supply (linesLeft words tree)
        let text := String.join (run.1.journal.mapIdx fun k e =>
          stamps k ++ " " ++ e.line inv.verbosity ++ "\n")
        Tells run.1.journal played ∧
        (∀ g ∈ played, g.Regular) ∧
        (∀ text reason, .guessRejected text reason ∉ run.1.journal) ∧
        (inv.verbosity = 2 → (run.1.journal.filter Event.tellsOfGames).map (Event.line 2) =
          played.flatMap Game.log) ∧
        (files.Keeps path → ∃ before : ByteArray,
          (tree.read path = .ok before ∨ tree.read path = .error .notFound ∧ before = .empty) ∧
          run.2.read path = .ok (before ++ text.toUTF8)) ∧
        ∀ other, files.find other ≠ files.find path → run.2.read other = files.read other := by
  refine ⟨fun corpus options draws session hstart => LineGame.play_tells_games hstart, ?_⟩
  intro words inv path tree supply elapsed rate stamps hread hcommand hlog hverbose run
  refine ⟨fun reason => runLines_of_create_error hread hlog, ?_⟩
  intro files hcreate played text
  have hopened : opened inv tree = .ok files := by simp only [opened, hlog, hcreate]
  have htells : Tells run.1.journal played := tells_outcome hread hcommand hopened
  have hfiles : run.2 = files.append path text := by
    rw [files_runLines hread hlog hcreate, stamped_lines hverbose]
  have hlines : (run.1.journal.filter Event.tellsOfGames).map (Event.line 2) =
      played.flatMap Game.log := by
    rw [htells.stories, List.map_flatMap]
    simp only [Game.map_line_story]
  rw [hfiles]
  exact ⟨htells, regular_of_mem_gamesPlayed, htells.guessRejected_not_mem, fun _ => hlines,
    fun hkeeps => FileTree.read_append_of_create hcreate hkeeps text,
    fun other => FileTree.read_append_of_ne⟩

/-- A game that the second guess wins after a line that is no guess, and another one that is
lost. -/
theorem journal_tells_games_two_games :
    let target : Equation := ⟨[.digit 1, .operator .add, .digit 2, .operator .add, .digit 3,
      .equals, .digit 6], rfl⟩
    let guess : Equation := ⟨[.digit 1, .digit 2, .operator .add, .digit 3, .equals, .digit 1,
      .digit 5], rfl⟩
    let words := ["simple", "-vv", "--fixed", "--log-file", "a", "-e", "b"]
    let text := "12+3=15\n1+2+3=7\n1+2+3=6\nyes\n" ++
      String.join (List.replicate 6 "12+3=15\n")
    let tree : FileTree :=
      { files := [(["tmp", "work", "b"], "1+2+3=6\n".toUTF8)], input := text.toUTF8 }
    let run := runLines words tree (fun _ => id) "" "" fun k => "line " ++ toString k
    let missed := "DEBUG numberle::game::session: guess played guess=12+3=15 feedback=🟩🟧🟧🟧🟧⬜⬜"
    let hit := "DEBUG numberle::game::session: guess played guess=1+2+3=6 feedback=🟩🟩🟩🟩🟩🟩🟩"
    Tells run.1.journal [⟨target, [guess, target]⟩, ⟨target, List.replicate 6 guess⟩] ∧
      (run.1.journal.filter Event.tellsOfGames).map (Event.line 2) =
        [missed ++ " remaining=5", hit ++ " remaining=4",
          " INFO numberle::game::session: game won attempts=2"] ++
        ["5", "4", "3", "2", "1", "0"].map (missed ++ " remaining=" ++ ·) ++
        [" INFO numberle::game::session: game lost target=1+2+3=6"] ∧
      run.2.read "a" = .ok (String.join (run.1.journal.mapIdx fun k e =>
        "line " ++ toString k ++ " " ++ e.line 2 ++ "\n")).toUTF8 := by
  intro target guess words text tree run missed hit
  let inv : Invocation :=
    { command := .simple, equations := "b", fixed := true, verbosity := 2, logFile := some "a" }
  let files : FileTree := { tree with files := tree.files ++ [(["tmp", "work", "a"], .empty)] }
  have hread : Arguments.read words = .ok inv := by decide +kernel
  have hcreate : tree.create "a" = .ok files := by
    rw [FileTree.create, namesOf_letter "a" (by simp)]
    rfl
  have hfind : files.find "a" = .ok ["tmp", "work", "a"] := by
    rw [FileTree.find, namesOf_letter "a" (by simp)]
    rfl
  have hnew : tree.read "a" = .error .notFound := by
    rw [FileTree.read, FileTree.find, namesOf_letter "a" (by simp)]
    rfl
  have hkeeps : files.Keeps "a" := by
    intro route hroute
    obtain rfl := Except.ok.inj (hfind.symm.trans hroute)
    decide
  have hcorpus : (inv.loadCorpus (contents inv files)).1 = .ok [target] := by
    have hcontents : contents inv files = .ok "1+2+3=6\n".toUTF8 := by
      rw [contents]
      change files.read "b" = _
      rw [FileTree.read, FileTree.find, namesOf_letter "b" (by simp)]
      rfl
    rw [Invocation.loadCorpus_eq_ok_iff rfl, hcontents, Corpus.load_toUTF8]
    decide +kernel
  have hlines : linesLeft words tree = (PlainGame.trimmedLines text).map .text := by
    have hinput : tree.readsInput "b" = false := by
      rw [FileTree.readsInput, FileTree.find, namesOf_letter "b" (by simp)]
      rfl
    rw [linesLeft, hread]
    change (if tree.readsInput "b" = true then _ else _) = _
    rw [hinput]
    exact PlainGame.ofBytes_toUTF8 text
  have hplayed : gamesPlayed inv files (fun _ => id) (linesLeft words tree) =
      [⟨target, [guess, target]⟩, ⟨target, List.replicate 6 guess⟩] := by
    rw [gamesPlayed, hcorpus, hlines]
    decide +kernel
  obtain ⟨-, hopened⟩ := journal_tells_games.2 words inv "a" tree (fun _ => id) "" ""
    (fun k => "line " ++ toString k) hread rfl rfl (Nat.le_refl 2)
  obtain ⟨htells, -, -, hlog, hfile, -⟩ := hopened files hcreate
  rw [hplayed] at htells hlog
  refine ⟨htells, (hlog rfl).trans (by decide +kernel), ?_⟩
  obtain ⟨before, hbefore | ⟨-, rfl⟩, hheld⟩ := hfile hkeeps
  · rw [hnew] at hbefore
    cases hbefore
  · rwa [ByteArray.empty_append] at hheld

end Program

end HiddenEquation
