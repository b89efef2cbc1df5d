import HiddenEquation.ScreenGame.State

/-!
# Keys of the screen game

## Main definitions

* `Key`, `Key.ofAscii` : a key press, and the one that a terminal reports by a code.
* `ScreenGame.press` : what a key does.
* `ScreenGame.playKeys` : the state that the screen shows when the game is left.
-/

namespace HiddenEquation

/-- The key of a key press. -/
inductive KeyCode where
  | char (c : Char)
  | enter
  | backspace
  | escape
  /-- Any other key. -/
  | other
  deriving DecidableEq, Repr

/-- A key press. No other modifier than control matters. -/
structure Key where
  code : KeyCode
  control : Bool := false
  deriving DecidableEq, Repr

/-- The key whose press a terminal reports by one ASCII code. Codes below the blank are letters with
control, but for those that have keys of their own. -/
def Key.ofAscii (code : Nat) : Key :=
  if code = 0x0A ∨ code = 0x0D then { code := .enter }
  else if code = 0x1B then { code := .escape }
  else if code = 0x7F then { code := .backspace }
  else if code = 0x09 ∨ code = 0 then { code := .other }
  else if code < 0x1B then { code := .char (Char.ofNat (code + 0x60)), control := true }
  else if code < 0x20 then { code := .char (Char.ofNat (code + 0x18)), control := true }
  else { code := .char (Char.ofNat code) }

namespace ScreenGame

/-- Ask to leave. -/
def leave (g : ScreenGame) : ScreenGame := { g with leaving := true }

/-- What a key without control does, or one with which control does not matter. -/
def pressPlain (g : ScreenGame) (code : KeyCode) : ScreenGame :=
  match g.mode, code with
  | _, .escape => g.leave
  | .gameOver, .char 'q' => g.leave
  | .gameOver, .char 'n' => g.newGame
  | .gameOver, _ => g
  | .guessing, .char c => g.type c
  | .guessing, .backspace => g.erase
  | .guessing, .enter => g.submit
  | .guessing, .other => g

/-- What a key does. -/
def press (g : ScreenGame) (key : Key) : ScreenGame :=
  if key.control && key.code == .char 'c' then g.leave
  else if key.control && key.code == .char 'n' then g.newGame
  else g.pressPlain key.code

/-- The last state that was drawn: the one before the key that leaves, or the one after all keys. -/
def playKeys (g : ScreenGame) : List Key → ScreenGame
  | [] => g
  | key :: rest =>
    let next := g.press key
    if next.leaving then g else playKeys next rest

end ScreenGame

end HiddenEquation
