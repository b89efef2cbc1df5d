import HiddenEquation.Proofs.Screen.Panels
import HiddenEquation.Proofs.ScreenGame.Runs
import HiddenEquation.ScreenGame.Layout

/-!
# What the board shows

The board has one line for each of the six attempts: the guesses of the current game in their order,
then the buffer as long as the game goes on, then lines that are not in use. Every line has seven
places, and every place is three columns wide, with a blank column behind it. Before the first line
and after each one there is an empty row, and the frame takes one more row above and below, so that
a board needs fifteen rows and thirty columns.

The three kinds of lines differ in the colour of their glyphs, so nobody takes one for another. A
place tells its glyph and its style, and no symbol of an equation is written as the low line that
fills up the buffer. So a board from which nothing was cut off tells the history, the mode and the
buffer.

## Main definitions

* `Attempt`, `Attempt.places`, `Attempt.cells` : a line of the board, its seven places, and its
  columns.
* `boardOf` : a board with these lines, of which nothing is cut off.
* `ScreenGame.attempts` : the lines of the board of a game.
* `ScreenGame.boardOnScreen` : the part of the screen where the board is.
* `ScreenGame.Agrees` : two games agree on what a board shows.

## Main results

* `Attempt.eq_of_cells_eq`, `eq_of_boardOf_eq` : lines are read off a board.
* `ScreenGame.agrees_of_attempts_eq` : what the lines tell about a game.
* `ScreenGame.InStep.length_attempts`, `Attempt.length_places` : six lines with seven places.
* `ScreenGame.InStep.board_eq_boardOf` : a board with enough room has the lines of its game.
* `ScreenGame.board_shows_game` : what the screen shows of every game that can be reached.
-/

namespace HiddenEquation

/-! ### The lines of a board -/

/-- What a line of the board shows. -/
inductive Attempt where
  /-- A guess and the row that it earned. -/
  | guessed (guess : Equation) (row : Row)
  /-- The symbols typed so far. -/
  | typing (buffer : List Symbol)
  /-- Nothing yet. -/
  | unused
  deriving DecidableEq, Repr

/-- The colour behind a symbol that has earned a colour. -/
def Color.ink : Color → Ink
  | green => .green
  | orange => .orange
  | grey => .darkGray

theorem Color.ink_injective : Function.Injective ink := by
  intro c c' h
  cases c <;> cases c' <;> first | rfl | cases h

example : [Color.green, .orange, .grey].map (·.ink.name) = ["Green", "#FF8700", "DarkGray"] := rfl

namespace Attempt

/-- The places of a line, each with its glyph and its style. -/
def places : Attempt → List (Char × Style)
  | guessed guess row => (guess.symbols.zip row.colors).map fun earned =>
      (earned.1.toChar, { foreground := .black, background := earned.2.ink, bold := true })
  | typing buffer => (buffer.map Symbol.toChar ++ List.replicate (7 - buffer.length) '_').map
      fun glyph => (glyph, { foreground := .yellow, bold := true })
  | unused => List.replicate 7 ('·', { foreground := .darkGray })

/-- The columns of a place: a glyph between two blanks, all in the style of the place, and one more
blank without a style. -/
def placeCells (place : Char × Style) : Strip :=
  [Cell.blank place.2, Cell.ofChar place.2 place.1, Cell.blank place.2, Cell.blank .plain]

/-- The columns of a line. -/
def cells (a : Attempt) : Strip := a.places.flatMap placeCells

/-- A buffer that is shown has no more symbols than there are places. -/
def HasRoom : Attempt → Prop
  | typing buffer => buffer.length ≤ 7
  | guessed _ _ | unused => True

/-- The guess and the row of a line, if it has them. -/
def guess? : Attempt → Option (Equation × Row)
  | guessed guess row => some (guess, row)
  | typing _ | unused => none

/-- The buffer of a line, if it is the one being typed. -/
def buffer? : Attempt → Option (List Symbol)
  | typing buffer => some buffer
  | guessed _ _ | unused => none

theorem length_places {a : Attempt} (h : a.HasRoom) : a.places.length = 7 := by
  cases a with
  | guessed guess row =>
    simp [places, guess.length_symbols, row.length_colors, equationLength]
  | typing buffer =>
    simp only [places, List.length_map, List.length_append, List.length_replicate]
    exact Nat.add_sub_cancel' h
  | unused => rfl

theorem length_placeCells (place : Char × Style) : (placeCells place).length = 4 := rfl

theorem length_cells {a : Attempt} (h : a.HasRoom) : a.cells.length = 28 := by
  simp only [cells, List.length_flatMap, length_placeCells, List.map_const',
    List.sum_replicate_nat, length_places h]

/-- The line of a guess is drawn like this. -/
theorem cells_guessed (guess : Equation) (row : Row) :
    (guessed guess row).cells = ScreenGame.guessLine guess row := by
  rw [cells, places, List.flatMap_map]
  rfl

theorem cells_typing (g : ScreenGame) : (typing g.buffer).cells = g.typingLine := by
  rw [cells, places, List.flatMap_map, ScreenGame.typingLine, List.length_map]
  rfl

theorem cells_unused : unused.cells = ScreenGame.unusedLine := by
  rfl

/-! ### Reading a line -/

theorem placeCells_injective : Function.Injective placeCells := by
  rintro ⟨glyph, style⟩ ⟨glyph', style'⟩ h
  simp only [placeCells, List.cons.injEq, Cell.ofChar, Cell.mk.injEq] at h
  obtain ⟨-, ⟨hglyph, hstyle, -⟩, -⟩ := h
  exact Prod.ext (by simpa using congrArg String.toList hglyph) hstyle

/-- The places of a line can be read off its columns. -/
theorem places_eq_of_cells_eq {a b : Attempt} (ha : a.HasRoom) (hb : b.HasRoom)
    (h : a.cells = b.cells) : a.places = b.places :=
  eq_of_flatMap_eq length_placeCells (fun _ _ _ _ heq => placeCells_injective heq)
    ((length_places ha).trans (length_places hb).symm) h

/-- The colour of the glyphs of a line. -/
def glyphInk : Attempt → Ink
  | guessed _ _ => .black
  | typing _ => .yellow
  | unused => .darkGray

theorem foreground_of_mem_places {a : Attempt} {place : Char × Style} (h : place ∈ a.places) :
    place.2.foreground = a.glyphInk := by
  cases a with
  | guessed guess row =>
    obtain ⟨earned, -, rfl⟩ := List.mem_map.mp h
    rfl
  | typing buffer =>
    obtain ⟨glyph, -, rfl⟩ := List.mem_map.mp h
    rfl
  | unused =>
    rw [List.eq_of_mem_replicate h]
    rfl

/-- Lines with the same places have glyphs of the same colour. -/
theorem glyphInk_eq_of_places_eq {a b : Attempt} (ha : a.HasRoom) (h : a.places = b.places) :
    a.glyphInk = b.glyphInk := by
  obtain ⟨place, hplace⟩ : ∃ place, place ∈ a.places :=
    List.exists_mem_of_length_pos (length_places ha ▸ Nat.succ_pos 6)
  rw [← foreground_of_mem_places hplace, foreground_of_mem_places (h ▸ hplace)]

/-- What was typed can be read off the places, because no symbol is written as a low line. -/
theorem filterMap_ofChar?_typed (buffer : List Symbol) (n : Nat) :
    (buffer.map Symbol.toChar ++ List.replicate n '_').filterMap Symbol.ofChar? = buffer := by
  have hread : (Symbol.ofChar? ∘ Symbol.toChar) = some :=
    funext fun s => Symbol.ofChar?_eq_some_iff.mpr rfl
  have hlow : Symbol.ofChar? '_' = none := rfl
  rw [List.filterMap_append, List.filterMap_map, hread, List.filterMap_some,
    List.filterMap_replicate_of_none hlow, List.append_nil]

theorem eq_of_places_typing_eq {buffer buffer' : List Symbol}
    (h : (typing buffer).places = (typing buffer').places) : buffer = buffer' := by
  have hglyphs := List.map_injective_iff.mpr (fun _ _ h => (Prod.mk.inj h).1) h
  rw [← filterMap_ofChar?_typed buffer, hglyphs, filterMap_ofChar?_typed]

/-- A guess and its row can be read off the places, one symbol and one colour at each. -/
theorem eq_of_places_guessed_eq {guess guess' : Equation} {row row' : Row}
    (h : (guessed guess row).places = (guessed guess' row').places) :
    guess = guess' ∧ row = row' := by
  have hzip : guess.symbols.zip row.colors = guess'.symbols.zip row'.colors := by
    refine List.map_injective_iff.mpr ?_ h
    rintro ⟨s, c⟩ ⟨s', c'⟩ hplace
    simp only [Prod.mk.injEq, Style.mk.injEq] at hplace
    exact Prod.ext (Symbol.toChar_inj.mp hplace.1) (Color.ink_injective hplace.2.2.1)
  have hlength (guess : Equation) (row : Row) : guess.symbols.length = row.colors.length :=
    guess.length_symbols.trans row.length_colors.symm
  have hunzip := congrArg List.unzip hzip
  rw [List.unzip_zip (hlength guess row), List.unzip_zip (hlength guess' row')] at hunzip
  obtain ⟨hsymbols, hcolors⟩ := Prod.mk.inj hunzip
  exact ⟨Equation.mk.injEq .. ▸ hsymbols, Row.mk.injEq .. ▸ hcolors⟩

/-- A line can be read off its columns. -/
theorem eq_of_cells_eq {a b : Attempt} (ha : a.HasRoom) (hb : b.HasRoom)
    (h : a.cells = b.cells) : a = b := by
  have hplaces := places_eq_of_cells_eq ha hb h
  have hink := glyphInk_eq_of_places_eq ha hplaces
  cases a with
  | guessed guess row =>
    cases b with
    | guessed guess' row' =>
      obtain ⟨rfl, rfl⟩ := eq_of_places_guessed_eq hplaces
      rfl
    | typing buffer | unused => cases hink
  | typing buffer =>
    cases b with
    | typing buffer' =>
      obtain rfl := eq_of_places_typing_eq hplaces
      rfl
    | guessed guess row | unused => cases hink
  | unused =>
    cases b with
    | unused => rfl
    | guessed guess row | typing buffer => cases hink

end Attempt

/-! ### A board with these lines -/

/-- The rows of a line: the line between its margins, and an empty row. -/
def lineRows (width : Nat) (a : Attempt) : Panel :=
  [Strip.between .plain width a.cells, Strip.blank .plain width]

theorem length_lineRows (width : Nat) (a : Attempt) : (lineRows width a).length = 2 := rfl

/-- The rows of all lines, and an empty row before them. -/
def boardRows (attempts : List Attempt) (width : Nat) : Panel :=
  Strip.blank .plain width :: attempts.flatMap (lineRows width)

/-- A board of which nothing is cut off. All the room that is left is below the lines. -/
def boardOf (attempts : List Attempt) (width height : Nat) : Panel :=
  let inner := width - 2
  let rows := boardRows attempts inner ++
    List.replicate (height - 2 - (boardRows attempts inner).length) (Strip.blank .plain inner)
  let side := Cell.ofChar .plain '│'
  Border.rounded.top .plain " Board " inner ::
    (rows.map (fun strip => side :: (strip ++ [side])) ++ [Border.rounded.bottom .plain inner])

theorem length_boardRows {attempts : List Attempt} {width : Nat} :
    (boardRows attempts width).length = 1 + 2 * attempts.length := by
  simp only [boardRows, List.length_cons, List.length_flatMap, length_lineRows, List.map_const',
    List.sum_replicate_nat]
  omega

theorem length_of_mem_boardRows {attempts : List Attempt} {width : Nat} (hwidth : 28 ≤ width)
    (hroom : ∀ a ∈ attempts, a.HasRoom) {strip : Strip} (h : strip ∈ boardRows attempts width) :
    strip.length = width := by
  rw [boardRows, List.mem_cons, List.mem_flatMap] at h
  rcases h with rfl | ⟨a, ha, hstrip⟩
  · exact Strip.length_blank _ _
  · rw [lineRows, List.mem_cons, List.mem_singleton] at hstrip
    rcases hstrip with rfl | rfl
    · exact Strip.length_between (Attempt.length_cells (hroom a ha) ▸ hwidth)
    · exact Strip.length_blank _ _

/-- Lines in the middle of the rows of a board stand between their margins. -/
theorem map_center_eq_boardRows {attempts : List Attempt} {width : Nat} (hwidth : 28 ≤ width)
    (hroom : ∀ a ∈ attempts, a.HasRoom) :
    ([] :: (attempts.map Attempt.cells).flatMap fun line => [line, []]).map
      (Strip.center .plain width) = boardRows attempts width := by
  have hempty : Strip.center .plain width [] = Strip.blank .plain width := by
    rw [Strip.center_of_le (Nat.zero_le width), Strip.between_nil]
  have hline : ∀ a ∈ attempts,
      [a.cells, []].map (Strip.center .plain width) = lineRows width a := by
    intro a ha
    rw [List.map_cons, List.map_singleton, hempty,
      Strip.center_of_le (Attempt.length_cells (hroom a ha) ▸ hwidth), lineRows]
  rw [boardRows, List.map_cons, hempty, List.flatMap_map, List.map_flatMap,
    List.flatMap_congr hline]

/-- The lines can be read off a board of which nothing is cut off. -/
theorem eq_of_boardOf_eq {attempts later : List Attempt} {width height : Nat}
    (hroom : ∀ a ∈ attempts, a.HasRoom) (hroom' : ∀ a ∈ later, a.HasRoom)
    (hlength : attempts.length = later.length)
    (h : boardOf attempts width height = boardOf later width height) : attempts = later := by
  -- The frame and the rows below the lines are the same in both boards.
  have hrows : boardRows attempts (width - 2) = boardRows later (width - 2) := by
    simp only [boardOf, List.cons.injEq, true_and] at h
    have hinside := List.append_cancel_right h
    rw [List.map_inj_right fun _ _ hside =>
      List.append_cancel_right (List.cons.inj hside).2] at hinside
    exact List.append_inj_left hinside (by rw [length_boardRows, length_boardRows, hlength])
  refine eq_of_flatMap_eq (length_lineRows (width - 2)) ?_ hlength (List.cons.inj hrows).2
  intro a ha b hb hline
  have hcells := Strip.eq_of_between_eq
    ((Attempt.length_cells (hroom a ha)).trans (Attempt.length_cells (hroom' b hb)).symm)
    (List.cons.inj hline).1
  exact Attempt.eq_of_cells_eq (hroom a ha) (hroom' b hb) hcells

namespace ScreenGame

variable {g g' : ScreenGame} {corpus corpus' : List Equation}

/-- The lines of the board of a game: the guesses, then the buffer if the game goes on, then as many
unused lines as are missing. -/
def attempts (g : ScreenGame) : List Attempt :=
  let history := g.session.history.map fun entry => Attempt.guessed entry.1 entry.2
  let typing := if g.mode = .guessing then [Attempt.typing g.buffer] else []
  history ++ typing ++ List.replicate (6 - (history ++ typing).length) .unused

/-- The width of the left half of a screen, to which a middle column belongs. -/
def leftHalf (width : Nat) : Nat := (width + 1) / 2

/-- The part of the screen where the board is: the left half between the header and the input
box. -/
def boardOnScreen (g : ScreenGame) (width height : Nat) : Panel :=
  (g.picture width height).window 0 3 (leftHalf width) (height - 7)

/-- Two games agree on what a board shows. -/
structure Agrees (g g' : ScreenGame) : Prop where
  history : g.session.history = g'.session.history
  mode : g.mode = g'.mode
  /-- The buffer counts as long as the games go on. -/
  buffer : g.mode = .guessing → g.buffer = g'.buffer

/-! ### The lines of a game -/

theorem filterMap_guess?_attempts (g : ScreenGame) :
    g.attempts.filterMap Attempt.guess? = g.session.history := by
  have hguess : Attempt.guess? ∘ (fun entry => .guessed entry.1 entry.2) = some := rfl
  have hunused : Attempt.guess? .unused = none := rfl
  simp only [attempts, List.filterMap_append, List.filterMap_map, hguess, List.filterMap_some,
    List.filterMap_replicate_of_none hunused, List.append_nil]
  split <;> simp [Attempt.guess?]

theorem filterMap_buffer?_attempts (g : ScreenGame) :
    g.attempts.filterMap Attempt.buffer? = if g.mode = .guessing then [g.buffer] else [] := by
  have hguess : Attempt.buffer? ∘ (fun entry : Equation × Row => .guessed entry.1 entry.2) =
    fun _ => none := rfl
  have hunused : Attempt.buffer? .unused = none := rfl
  simp only [attempts, List.filterMap_append, List.filterMap_map, hguess, List.filterMap_none,
    List.filterMap_replicate_of_none hunused, List.append_nil, List.nil_append]
  split <;> rfl

/-- The lines tell the history, the mode, and the buffer of a game that goes on. -/
theorem agrees_of_attempts_eq (h : g.attempts = g'.attempts) : g.Agrees g' := by
  have hhistory : g.session.history = g'.session.history := by
    rw [← filterMap_guess?_attempts, h, filterMap_guess?_attempts]
  have hbuffer := g.filterMap_buffer?_attempts
  rw [h, filterMap_buffer?_attempts] at hbuffer
  cases hmode : g.mode with
  | guessing =>
    cases hmode' : g'.mode with
    | guessing =>
      rw [if_pos hmode, if_pos hmode', List.singleton_inj] at hbuffer
      exact ⟨hhistory, hmode.trans hmode'.symm, fun _ => hbuffer.symm⟩
    | gameOver => simp [hmode, hmode'] at hbuffer
  | gameOver =>
    cases hmode' : g'.mode with
    | guessing => simp [hmode, hmode'] at hbuffer
    | gameOver => exact ⟨hhistory, hmode.trans hmode'.symm, fun h => by simp [hmode] at h⟩

namespace InStep

theorem length_history_le (h : InStep corpus g) : g.session.history.length ≤ 6 := by
  have hbudget := h.sound.budget
  rw [maxAttempts] at hbudget
  omega

/-- While a game goes on, an attempt is left. -/
theorem length_history_lt (h : InStep corpus g) (hmode : g.mode = .guessing) :
    g.session.history.length < 6 := by
  have hbudget := h.sound.budget
  have hopen := h.mode_eq_guessing_iff.mp hmode
  rw [maxAttempts] at hbudget
  simp [Session.isOver] at hopen
  omega

/-- There are six lines. -/
theorem length_attempts (h : InStep corpus g) : g.attempts.length = 6 := by
  have hle := h.length_history_le
  simp only [attempts]
  split
  case isTrue hmode =>
    have hlt := h.length_history_lt hmode
    simp only [List.length_append, List.length_map, List.length_singleton, List.length_replicate]
    omega
  case isFalse =>
    simp only [List.length_append, List.length_map, List.length_nil, List.length_replicate]
    omega

theorem hasRoom (h : InStep corpus g) : ∀ a ∈ g.attempts, a.HasRoom := by
  intro a ha
  simp only [attempts, List.mem_append] at ha
  rcases ha with (ha | ha) | ha
  · obtain ⟨entry, -, rfl⟩ := List.mem_map.mp ha
    trivial
  · split at ha
    · rw [List.mem_singleton.mp ha]
      exact h.room
    · cases ha
  · rw [List.eq_of_mem_replicate ha]
    trivial

/-- The lines are those that are drawn. -/
theorem boardLines_eq (h : InStep corpus g) : g.boardLines = g.attempts.map Attempt.cells := by
  have hlength : g.boardLines.length = (g.attempts.map Attempt.cells).length := by
    rw [List.length_map, h.length_attempts]
    rfl
  refine List.ext_getElem hlength fun k hk hk' => ?_
  simp only [boardLines, List.getElem_map, List.getElem_range, boardLine]
  rcases Nat.lt_or_ge k g.session.history.length with hplayed | hnext
  · rw [List.getElem?_eq_getElem hplayed]
    simp only [attempts, List.append_assoc]
    rw [List.getElem_append_left (by simpa using hplayed), List.getElem_map,
      Attempt.cells_guessed]
  · rw [List.getElem?_eq_none hnext]
    by_cases hmode : g.mode = .guessing
    · simp only [attempts, hmode, if_true, and_true, List.append_assoc]
      rw [List.getElem_append_right (by simpa using hnext)]
      by_cases hturn : k = g.session.history.length
      · simp [hturn, Attempt.cells_typing]
      · have hlater : k - g.session.history.length ≠ 0 := by omega
        simp [hturn, hlater, List.getElem_cons, Attempt.cells_unused]
    · simp [attempts, hmode, List.getElem_append, Nat.not_lt.mpr hnext, Attempt.cells_unused]

/-- A board with enough room shows all lines of its game as a whole. -/
theorem board_eq_boardOf (h : InStep corpus g) {width height : Nat} (hwidth : 30 ≤ width)
    (hheight : 15 ≤ height) : g.board width height = boardOf g.attempts width height := by
  have hinner : 28 ≤ width - 2 := by omega
  have hrows : (boardRows g.attempts (width - 2)).length ≤ height - 2 := by
    rw [length_boardRows, h.length_attempts]
    omega
  have hwide : ∀ strip ∈ boardRows g.attempts (width - 2), strip.length = width - 2 :=
    fun _ => length_of_mem_boardRows hinner h.hasRoom
  simp only [board, h.boardLines_eq, map_center_eq_boardRows hinner h.hasRoom, framed,
    Panel.fit_of_le hwide hrows]
  rfl

end InStep

/-! ### The screen -/

theorem columnAt_fifty (width : Nat) : columnAt width 50 = leftHalf width := by
  rw [columnAt, leftHalf]
  omega

/-- The board stands on the screen as it was drawn. -/
theorem boardOnScreen_eq_board (g : ScreenGame) {width height : Nat} (hwidth : 3 ≤ width)
    (hheight : 15 ≤ height) :
    g.boardOnScreen width height = g.board (leftHalf width) (height - 7) := by
  have hheader : (header width).length = 3 := length_framed (by decide)
  have hboard : (g.board (leftHalf width) (height - 7)).length = height - 7 :=
    length_framed (by omega)
  have hwide : ∀ strip ∈ g.board (leftHalf width) (height - 7), strip.length = leftHalf width :=
    fun _ => length_of_mem_framed (by rw [leftHalf]; omega)
  -- The keyboard and the messages together are as high as the board.
  have hright : (g.board (leftHalf width) (height - 7)).length =
      (g.keyboardPanel (width - leftHalf width) keyboardHeight ++
        g.messagePanel (width - leftHalf width) (height - 7 - keyboardHeight)).length := by
    have hkeyboard : (g.keyboardPanel (width - leftHalf width) keyboardHeight).length = 6 :=
      length_framed (by decide)
    have hmessages :
        (g.messagePanel (width - leftHalf width) (height - 7 - keyboardHeight)).length =
          height - 7 - 6 := length_framed (by rw [keyboardHeight]; omega)
    rw [hboard, List.length_append, hkeyboard, hmessages]
    omega
  have hwindow := Panel.window_beside (header width) (g.inputBox width ++ [g.statusLine width])
    hwide hright
  rw [hheader, hboard, ← List.append_assoc] at hwindow
  rw [boardOnScreen, picture, columnAt_fifty]
  exact hwindow

/-- A screen with enough room shows all lines of its game as a whole. -/
theorem InStep.boardOnScreen_eq_boardOf (h : InStep corpus g) {width height : Nat}
    (hwidth : 60 ≤ width) (hheight : 22 ≤ height) :
    g.boardOnScreen width height = boardOf g.attempts (leftHalf width) (height - 7) := by
  rw [boardOnScreen_eq_board g (by omega) (by omega)]
  exact h.board_eq_boardOf (by rw [leftHalf]; omega) (by omega)

/-- **The board shows the game.** On every screen that has 60 columns and 22 rows at least, as those
with 80 and 24 or with 100 and 30 have, the board of a game that can be reached is there as a whole.
It has six lines of seven places: the guesses of the current game in their order, each symbol on the
colour of its place, then the buffer if the game goes on, then unused lines. Games with the same
board have the same history and the same mode and, while they go on, the same buffer. -/
theorem board_shows_game {options : GameOptions} {draws : Draws} {session : Session}
    (hstart : Session.start corpus options draws = .ok session) (actions : List Action)
    (width height : Nat) (hwidth : 60 ≤ width) (hheight : 22 ≤ height) :
    let g := (start session).performAll actions
    g.attempts.length = 6 ∧ (∀ a ∈ g.attempts, a.places.length = 7) ∧
      g.boardOnScreen width height = boardOf g.attempts (leftHalf width) (height - 7) ∧
      ∀ {corpus' options' draws' session'},
        Session.start corpus' options' draws' = .ok session' → ∀ actions' : List Action,
          let g' := (start session').performAll actions'
          g.boardOnScreen width height = g'.boardOnScreen width height → g.Agrees g' := by
  intro g
  have hstep : InStep corpus g := (InStep.start hstart).performAll actions
  refine ⟨hstep.length_attempts, fun a ha => Attempt.length_places (hstep.hasRoom a ha),
    hstep.boardOnScreen_eq_boardOf hwidth hheight, ?_⟩
  intro corpus' options' draws' session' hstart' actions' g' hsame
  have hstep' : InStep corpus' g' := (InStep.start hstart').performAll actions'
  rw [hstep.boardOnScreen_eq_boardOf hwidth hheight,
    hstep'.boardOnScreen_eq_boardOf hwidth hheight] at hsame
  exact agrees_of_attempts_eq (eq_of_boardOf_eq hstep.hasRoom hstep'.hasRoom
    (hstep.length_attempts.trans hstep'.length_attempts.symm) hsame)

/-- A guess was played and a second one is being typed. Another player sees the target in a message
and took a symbol back, and has the same board. -/
theorem board_shows_game_after_one_guess :
    let target : Equation := ⟨[.digit 1, .operator .add, .digit 2, .operator .add, .digit 3,
      .equals, .digit 6], rfl⟩
    let guess : Equation := ⟨[.digit 1, .digit 2, .operator .add, .digit 3, .equals, .digit 1,
      .digit 5], rfl⟩
    let options := { GameOptions.fixed with showTarget := true }
    let session := Session.opened [target] GameOptions.fixed id target
    let session' := Session.opened [target] options Nat.succ target
    let g := (start session).performAll [.guess "12+3=15", .type "1+2"]
    let g' := (start session').performAll [.type "12+3=15", .submit, .type "1+2+", .erase]
    g.attempts = .guessed guess (feedback guess target) ::
        .typing [.digit 1, .operator .add, .digit 2] :: List.replicate 4 .unused ∧
      g.boardOnScreen 100 30 = boardOf g.attempts 50 23 ∧
      g.boardOnScreen 80 24 = boardOf g.attempts 40 17 ∧
      g.boardOnScreen 80 24 = g'.boardOnScreen 80 24 ∧ g.Agrees g' := by
  intro target guess options session session' g g'
  have hstart : Session.start [target] GameOptions.fixed id = .ok session := rfl
  have hstart' : Session.start [target] options Nat.succ = .ok session' := rfl
  have hattempts : g.attempts = .guessed guess (feedback guess target) ::
      .typing [.digit 1, .operator .add, .digit 2] :: List.replicate 4 .unused := by decide +kernel
  have hattempts' : g'.attempts = g.attempts := by decide +kernel
  obtain ⟨-, -, hlarge, -⟩ :=
    board_shows_game hstart [.guess "12+3=15", .type "1+2"] 100 30 (by decide) (by decide)
  obtain ⟨-, -, hsmall, htells⟩ :=
    board_shows_game hstart [.guess "12+3=15", .type "1+2"] 80 24 (by decide) (by decide)
  obtain ⟨-, -, hsmall', -⟩ := board_shows_game hstart'
    [.type "12+3=15", .submit, .type "1+2+", .erase] 80 24 (by decide) (by decide)
  have hsame : g.boardOnScreen 80 24 = g'.boardOnScreen 80 24 := by
    rw [hsmall, hsmall', hattempts']
  exact ⟨hattempts, hlarge, hsmall, hsame,
    htells hstart' [.type "12+3=15", .submit, .type "1+2+", .erase] hsame⟩

end ScreenGame

end HiddenEquation
