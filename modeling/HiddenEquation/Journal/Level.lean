/-!
# Levels of the journal

Every journal entry has a level. How many times the player asks for verbosity decides which levels
are kept.

## Main definitions

* `Level` : how much an entry matters.
* `Level.ofVerbosity` : the least important level that is kept.
* `Level.keeps` : whether entries of one level are kept under another.
-/

namespace HiddenEquation

/-- How much a journal entry matters, most important first. -/
inductive Level where
  | warn
  | info
  | debug
  | trace
  deriving DecidableEq, Repr

namespace Level

/-- The least important level that is kept under a verbosity. -/
def ofVerbosity : Nat → Level
  | 0 => warn
  | 1 => info
  | 2 => debug
  | _ => trace

/-- The name of a level as an option. -/
def name : Level → String
  | warn => "warn"
  | info => "info"
  | debug => "debug"
  | trace => "trace"

/-- The name of a level in front of an entry. -/
def tag : Level → String
  | warn => "WARN"
  | info => "INFO"
  | debug => "DEBUG"
  | trace => "TRACE"

/-- The place of a level among the levels, the most important one first. -/
def rank : Level → Nat
  | warn => 0
  | info => 1
  | debug => 2
  | trace => 3

/-- Whether entries of a level are kept when `least` is the least important level kept. -/
def keeps (least level : Level) : Bool := level.rank ≤ least.rank

end Level

end HiddenEquation
