/-!
# Small pieces of plain output

## Main definitions

* `attemptsGauge` : a dot for each attempt, filled if it is used.
* `spaced` : characters with a blank between neighbours.
* `padLeft` : a text moved to the right end of a column.
-/

namespace HiddenEquation

/-- A filled dot for each used attempt, then an open dot for each one left. More attempts than there
are in total cannot be left. -/
def attemptsGauge (remaining total : Nat) : String :=
  let left := min remaining total
  String.ofList (List.replicate (total - left) '●' ++ List.replicate left '○')

/-- Characters with a blank between neighbours. -/
def spaced (cs : List Char) : String := String.intercalate " " (cs.map Char.toString)

/-- A text with blanks put in front until it has the given length. -/
def padLeft (width : Nat) (text : String) : String :=
  String.ofList (List.replicate (width - text.length) ' ') ++ text

end HiddenEquation
