import HiddenEquation.Print.Gauge
import HiddenEquation.Screen.Frame
import HiddenEquation.ScreenGame.State

/-!
# The picture of the screen game

From top to bottom the screen shows a header, the board beside the keyboard and the messages, the
input box, and a line of status. The board has one line for each attempt: the guesses of the current
game, then the line being typed, then empty places.

## Main definitions

* `ScreenGame.boardLine`, `ScreenGame.boardLines` : the attempt lines of the board.
* `ScreenGame.board`, `ScreenGame.keyboardPanel`, `ScreenGame.messagePanel`,
  `ScreenGame.inputBox`, `ScreenGame.statusLine` : the parts of the screen.
* `ScreenGame.picture` : the whole screen.
-/

namespace HiddenEquation

/-- The style of a symbol that has earned a colour. -/
def Color.style (c : Color) : Style :=
  { foreground := .black, bold := true
    background := match c with
      | .green => .green
      | .orange => .orange
      | .grey => .darkGray }

namespace ScreenGame

/-- A key or a place of the board: a glyph between two blanks of its style, then a plain blank. -/
def tile (style : Style) (glyph : Char) : Strip :=
  [Cell.blank style, Cell.ofChar style glyph, Cell.blank style, Cell.blank Style.plain]

/-- The style of the symbols being typed. -/
def typingStyle : Style := { foreground := .yellow, bold := true }

/-- The style of a place that is not in use. -/
def unusedStyle : Style := { foreground := .darkGray }

/-- The style of a key whose symbol has not been guessed. -/
def unseenStyle : Style := { foreground := .white, background := .black }

/-- The line of a guess: each symbol in the colour of its place. -/
def guessLine (guess : Equation) (row : Row) : Strip :=
  (guess.symbols.zip row.colors).flatMap fun earned => tile earned.2.style earned.1.toChar

/-- The line being typed: the buffer, then low lines up to the length of an equation. -/
def typingLine (g : ScreenGame) : Strip :=
  let typed := g.buffer.map Symbol.toChar
  (typed ++ List.replicate (equationLength - typed.length) '_').flatMap (tile typingStyle)

/-- The line of an attempt that is not in use. -/
def unusedLine : Strip := (List.replicate equationLength '·').flatMap (tile unusedStyle)

/-- The line of the attempt of this number, counted from zero. -/
def boardLine (g : ScreenGame) (attempt : Nat) : Strip :=
  match g.session.history[attempt]? with
  | some (guess, row) => guessLine guess row
  | none =>
    if attempt = g.session.history.length ∧ g.mode = .guessing then g.typingLine else unusedLine

/-- The lines of all attempts. -/
def boardLines (g : ScreenGame) : Panel := (List.range maxAttempts).map g.boardLine

/-- The board. An empty line stands before the first attempt and after each one. -/
def board (g : ScreenGame) (width height : Nat) : Panel :=
  let lines := [] :: g.boardLines.flatMap fun line => [line, []]
  framed .rounded .plain " Board " width height (lines.map (Strip.center .plain (width - 2)))

/-- A row of keys in the colours that their symbols have earned. -/
def keyRow (keyboard : Keyboard) (symbols : List Symbol) : Strip :=
  symbols.flatMap fun s =>
    tile (((keyboard.color? s).map Color.style).getD unseenStyle) s.toChar

/-- The keyboard: the digits, and below them the signs. -/
def keyboardPanel (g : ScreenGame) (width height : Nat) : Panel :=
  let rows := [[], keyRow g.session.keyboard Symbol.digits, [],
    keyRow g.session.keyboard Symbol.signs]
  framed .rounded .plain " Keyboard " width height (rows.map (Strip.center .plain (width - 2)))

/-- The style of a message. -/
def messageStyle : Tone → Style
  | .info => { foreground := .white }
  | .success => { foreground := .green }
  | .error => { foreground := .red }

/-- The rows of a message, one for each line of its text and one at least, in the style of its tone
over the whole width. -/
def messageRows (width : Nat) (message : Message) : Panel :=
  let style := messageStyle message.tone
  let lines := if message.text.isEmpty then [""] else Text.lines message.text
  lines.map fun line => Strip.fit style width (Strip.ofString style .plain width line)

/-- The messages, newest first, up to the first one for which there are not enough rows left. -/
def messagePanel (g : ScreenGame) (width height : Nat) : Panel :=
  framed .square .plain " Messages " width height
    (Panel.stack (height - 2) (g.messages.reverse.map (messageRows (width - 2))))

/-- The header. -/
def header (width : Nat) : Panel :=
  let style : Style := { foreground := .cyan, bold := true }
  framed .rounded style "" width 3
    [Strip.center style (width - 2)
      (Strip.ofString style style (width - 2) "🔢 NUMBERLE - Guess the Equation")]

/-- The input box: the buffer, or what to do after the end of a game. -/
def inputBox (g : ScreenGame) (width : Nat) : Panel :=
  match g.mode with
  | .gameOver =>
    framed .double { foreground := .green, bold := true }
      " Game over | Press 'n' for new game or 'q' to quit " width 3 []
  | .guessing =>
    let style : Style := { foreground := .yellow, bold := true }
    framed .double style " Enter Equation (0-9 + - * / =) | Enter: Submit | Backspace: Delete "
      width 3 [Strip.ofString style style (width - 2) g.bufferText]

/-- The column at a percentage of a width, rounded to the nearest one. -/
def columnAt (width percent : Nat) : Nat := (width * percent + 50) / 100

/-- The status line: the attempts left, the statistics, and two keys. -/
def statusLine (g : ScreenGame) (width : Nat) : Strip :=
  let first := columnAt width 34
  let second := columnAt width 67
  let part (style : Style) (width : Nat) (text : String) : Strip :=
    Strip.center style width (Strip.ofString style style width text)
  part .plain first ("Attempts: " ++ toString g.session.remaining ++ " "
      ++ attemptsGauge g.session.remaining maxAttempts)
    ++ part .plain (second - first) ("Games: " ++ toString g.statistics.totalGames
      ++ " | Win Rate: " ++ Decimal.fixed 0 g.statistics.winRate ++ "%")
    ++ part unusedStyle (width - second) "Esc: Quit | Ctrl-N: New Game"

/-- The height of the keyboard. -/
def keyboardHeight : Nat := 6

/-- The whole screen. The board takes the left half of the middle; on the right the keyboard stands
above the messages. -/
def picture (g : ScreenGame) (width height : Nat) : Panel :=
  let middle := height - 7
  let left := columnAt width 50
  let right := width - left
  header width
    ++ Panel.beside (g.board left middle)
      (g.keyboardPanel right keyboardHeight ++ g.messagePanel right (middle - keyboardHeight))
    ++ g.inputBox width
    ++ [g.statusLine width]

end ScreenGame

end HiddenEquation
