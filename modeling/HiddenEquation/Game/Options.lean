import HiddenEquation.Equation

/-!
# Game options

## Main definitions

* `Selection` : how the target of a game is taken from a corpus.
* `Draws`, `Draws.Supply` : the numbers that random selection consumes, and where they come from.
* `GameOptions` : the options of a session.
-/

namespace HiddenEquation

/-- How the target of a game is taken from a corpus. -/
inductive Selection where
  | random
  | first
  deriving DecidableEq, Repr

/-- The name of a way of selection. -/
def Selection.name : Selection → String
  | random => "Random"
  | first => "First"

/-- The numbers that random selection consumes, one for each game. -/
abbrev Draws := Nat → Nat

/-- Where the numbers of random selection come from: those that belong to a seed, and those of a run
that has none. How they are generated is left open. -/
abbrev Draws.Supply := Option Nat → Draws

namespace Selection

/-- The target that a selection takes from a corpus, given one drawn number. An empty corpus has
none. -/
def pick? (selection : Selection) (corpus : List Equation) (draw : Nat) : Option Equation :=
  match selection with
  | first => corpus.head?
  | random => corpus[draw % corpus.length]?

end Selection

/-- The options of a session. -/
structure GameOptions where
  selection : Selection := .random
  /-- The seed of random selection; without one the numbers come from elsewhere. -/
  seed : Option Nat := none
  /-- Whether the target is shown to the player. -/
  showTarget : Bool := false
  /-- Whether the player is told why a guess is rejected. -/
  showErrors : Bool := true
  deriving DecidableEq, Repr

/-- The options under which every game has the first equation of the corpus as its target. -/
def GameOptions.fixed : GameOptions := { selection := .first }

end HiddenEquation
