import HiddenEquation.Game.Session

/-!
# Runs of a session

## Main definitions

* `Move` : an operation on a session, as data.
* `Answer` : what an operation answers, as data.
* `Session.perform` : carrying out one move.
* `Session.run` : carrying out moves one after another.
-/

namespace HiddenEquation

/-- An operation on a session. -/
inductive Move where
  | submit (text : String)
  | process (text : String)
  | check (text : String)
  | newGame
  | subscribe
  deriving DecidableEq, Repr

/-- The answer to a move. -/
inductive Answer where
  | row (answer : Except SessionError Row)
  | done (answer : Except SessionError Unit)
  | verdict (accepted : Bool)

namespace Session

/-- Carry out one move. -/
def perform (s : Session) : Move → Effect Answer
  | .submit text => (s.submit text).map .row
  | .process text => (s.process text).map .done
  | .check text => (s.check text).map .verdict
  | .newGame => s.newGame.map .done
  | .subscribe => s.subscribe.map fun _ => .done (.ok ())

/-- The effects of moves carried out one after another. -/
def run (s : Session) : List Move → List (Effect Answer)
  | [] => []
  | move :: rest =>
    let effect := s.perform move
    effect :: run effect.session rest

/-- The session that moves leave. -/
def after (s : Session) (moves : List Move) : Session :=
  moves.foldl (fun s move => (s.perform move).session) s

end Session

end HiddenEquation
