import HiddenEquation.Game.Options

/-!
# Arguments of the command line

A command line is a row of words. A word that starts with two hyphens names an option, a word that
starts with one hyphen is a cluster of one-letter options, and the word `--` ends the options. Any
other word is a command, the value of the option before it, or the operand of a command. Options may
stand before and after the command; those after it prevail.

A word that starts with a hyphen is never a value nor an operand, unless `--` came before it.

## Main definitions

* `Invocation` : what a well-formed command line asks for.
* `Word`, `Word.ofString` : the kinds of words.
* `Reading`, `Reading.step` : reading word by word.
* `Arguments.read` : the invocation that the words give, or what happens in its place.
-/

namespace HiddenEquation

/-- What the program is asked to do. -/
inductive Command where
  /-- Play on a full screen. -/
  | play
  /-- Play over lines of text. -/
  | simple
  /-- Judge one text. -/
  | check (text : String)
  /-- Audit a corpus. -/
  | audit
  deriving DecidableEq, Repr

/-- What a well-formed command line asks for. -/
structure Invocation where
  command : Command
  /-- The corpus file, or `all` for the standard corpus. -/
  equations : String := "all"
  fixed : Bool := false
  seed : Option Nat := none
  showTarget : Bool := false
  quietErrors : Bool := false
  verbosity : Nat := 0
  logFile : Option String := none
  deriving DecidableEq, Repr

/-- The game options of an invocation. -/
def Invocation.options (inv : Invocation) : GameOptions :=
  { selection := if inv.fixed then .first else .random
    seed := inv.seed
    showTarget := inv.showTarget
    showErrors := !inv.quietErrors }

/-- The name of a command. -/
inductive CommandName where
  | play
  | simple
  | check
  | audit
  | help
  deriving DecidableEq, Repr

/-- The command that a word names. -/
def CommandName.ofWord? : String → Option CommandName
  | "play" => some play
  | "simple" => some simple
  | "check" => some check
  | "audit" => some audit
  | "help" => some help
  | _ => none

/-- What happens in place of an invocation. -/
inductive Diversion where
  /-- The words make no sense. -/
  | misuse
  /-- The help of a command is printed, or that of the program. -/
  | help (topic : Option CommandName)
  /-- The version is printed. -/
  | version
  deriving DecidableEq, Repr

/-- An option that takes no value. -/
inductive Flag where
  | fixed
  | showTarget
  | quietErrors
  | verbose
  | help
  | version
  deriving DecidableEq, Repr

/-- An option that takes a value. -/
inductive Setting where
  | equations
  | seed
  | logFile
  deriving DecidableEq, Repr

/-- A kind of option. -/
inductive OptionKind where
  | flag (flag : Flag)
  | setting (setting : Setting)
  deriving DecidableEq, Repr

/-- The option of a long name. -/
def OptionKind.ofName? : String → Option OptionKind
  | "equations" => some (.setting .equations)
  | "seed" => some (.setting .seed)
  | "log-file" => some (.setting .logFile)
  | "fixed" => some (.flag .fixed)
  | "show-target" => some (.flag .showTarget)
  | "quiet-errors" => some (.flag .quietErrors)
  | "verbose" => some (.flag .verbose)
  | "help" => some (.flag .help)
  | "version" => some (.flag .version)
  | _ => none

/-- The option of a letter. -/
def OptionKind.ofLetter? : Char → Option OptionKind
  | 'e' => some (.setting .equations)
  | 'v' => some (.flag .verbose)
  | 'h' => some (.flag .help)
  | 'V' => some (.flag .version)
  | _ => none

/-- A word of a command line by its hyphens. -/
inductive Word where
  /-- The end of the options. -/
  | separator
  /-- A long name, and the text after the first equals sign. -/
  | long (name : String) (value : Option String)
  /-- A cluster of letters. -/
  | cluster (letters : List Char)
  /-- A word that does not start with a hyphen, or a hyphen alone. -/
  | plain (text : String)
  deriving DecidableEq, Repr

/-- A long name and the value attached to it. -/
def Word.splitLong (cs : List Char) : Word :=
  let value := match cs.dropWhile (· != '=') with
    | [] => none
    | _ :: rest => some (String.ofList rest)
  .long (String.ofList (cs.takeWhile (· != '='))) value

/-- The kind of a word. -/
def Word.ofString (text : String) : Word :=
  match text.toList with
  | ['-', '-'] => .separator
  | '-' :: '-' :: cs => splitLong cs
  | '-' :: c :: cs => .cluster (c :: cs)
  | _ => .plain text

/-- The options given before a command, or after it. -/
structure Given where
  equations : Option String := none
  fixed : Bool := false
  seed : Option Nat := none
  showTarget : Bool := false
  quietErrors : Bool := false
  /-- How many times verbosity was asked for. -/
  verbosity : Nat := 0
  logFile : Option String := none
  deriving DecidableEq, Repr

/-- The greatest seed. -/
def maxSeed : Nat := 18446744073709551615

/-- The number that decimal digits write, one digit at least. -/
def readDigits (cs : List Char) : Option Nat :=
  if cs.isEmpty || !cs.all Char.isDigit then none
  else some (cs.foldl (fun n c => n * 10 + (c.toNat - '0'.toNat)) 0)

/-- The seed that a text writes: digits after at most one plus sign. -/
def readSeed (text : String) : Option Nat :=
  let digits := match text.toList with
    | '+' :: cs => cs
    | cs => cs
  (readDigits digits).filter (· ≤ maxSeed)

/-- The greatest verbosity that is counted. -/
def maxVerbosity : Nat := 255

namespace Given

/-- Give a flag behind a command or before it. Only verbosity may be asked for twice. -/
def raise (g : Given) (command : Option CommandName) : Flag → Except Diversion Given
  | .fixed => if g.fixed then .error .misuse else .ok { g with fixed := true }
  | .showTarget => if g.showTarget then .error .misuse else .ok { g with showTarget := true }
  | .quietErrors => if g.quietErrors then .error .misuse else .ok { g with quietErrors := true }
  | .verbose => .ok { g with verbosity := min (g.verbosity + 1) maxVerbosity }
  | .help => .error (.help command)
  | .version => .error .version

/-- Give a value. No setting may be given twice, a seed has to be a number, and the name of a log
file may not be empty. -/
def assign (g : Given) (setting : Setting) (value : String) : Except Diversion Given :=
  match setting with
  | .equations =>
    if g.equations.isSome then .error .misuse else .ok { g with equations := some value }
  | .seed =>
    match g.seed, readSeed value with
    | none, some n => .ok { g with seed := some n }
    | _, _ => .error .misuse
  | .logFile =>
    if g.logFile.isSome || value.isEmpty then .error .misuse
    else .ok { g with logFile := some value }

/-- The options before a command together with those after it, which prevail. -/
def merge (before after : Given) : Given :=
  { equations := after.equations <|> before.equations
    fixed := before.fixed || after.fixed
    seed := after.seed <|> before.seed
    showTarget := before.showTarget || after.showTarget
    quietErrors := before.quietErrors || after.quietErrors
    verbosity := if after.verbosity = 0 then before.verbosity else after.verbosity
    logFile := after.logFile <|> before.logFile }

/-- The invocation of a command with these options. -/
def invoke (g : Given) (command : Command) : Invocation :=
  { command
    equations := g.equations.getD "all"
    fixed := g.fixed
    seed := g.seed
    showTarget := g.showTarget
    quietErrors := g.quietErrors
    verbosity := g.verbosity
    logFile := g.logFile }

end Given

/-- What the words read so far say. -/
structure Reading where
  /-- The options before the command. -/
  before : Given := {}
  command : Option CommandName := none
  /-- The options after the command. -/
  after : Given := {}
  /-- The words after the command that are no options. -/
  operands : List String := []
  /-- The setting whose value is the next word. -/
  awaiting : Option Setting := none
  /-- Whether the options have ended. -/
  ended : Bool := false
  deriving DecidableEq, Repr

namespace Reading

/-- Change the options on the current side of the command. -/
def update (r : Reading) (change : Given → Except Diversion Given) : Except Diversion Reading :=
  if r.command.isSome then (change r.after).map fun given => { r with after := given }
  else (change r.before).map fun given => { r with before := given }

/-- Give a flag. The version can only be asked for before the command. -/
def raise (r : Reading) (flag : Flag) : Except Diversion Reading :=
  if flag = .version ∧ r.command.isSome then .error .misuse
  else r.update (·.raise r.command flag)

/-- Give a value to a setting. -/
def assign (r : Reading) (setting : Setting) (value : String) : Except Diversion Reading :=
  r.update (·.assign setting value)

/-- Read a long option. -/
def long (r : Reading) (name : String) (value : Option String) : Except Diversion Reading :=
  match OptionKind.ofName? name, value with
  | some (.flag flag), none => r.raise flag
  | some (.setting setting), some value => r.assign setting value
  | some (.setting setting), none => .ok { r with awaiting := some setting }
  | _, _ => .error .misuse

/-- Read a cluster of letters. What follows the letter of a setting is its value, after one equals
sign if there is one. -/
def cluster (r : Reading) : List Char → Except Diversion Reading
  | [] => .ok r
  | c :: rest =>
    match OptionKind.ofLetter? c with
    | none => .error .misuse
    | some (.flag flag) => do
      let r ← r.raise flag
      r.cluster rest
    | some (.setting setting) =>
      match rest with
      | [] => .ok { r with awaiting := some setting }
      | '=' :: value => r.assign setting (String.ofList value)
      | value => r.assign setting (String.ofList value)

/-- Take an operand. Only `check` has one, and only one. -/
def operand (r : Reading) (text : String) : Except Diversion Reading :=
  if r.command = some .check ∧ r.operands = [] then .ok { r with operands := [text] }
  else .error .misuse

/-- Read a word that is no option: the command, or an operand. -/
def plain (r : Reading) (text : String) : Except Diversion Reading :=
  if r.command.isSome then r.operand text
  else
    match CommandName.ofWord? text with
    | some command => .ok { r with command := some command }
    | none => .error .misuse

/-- Read the next word. After the command `help` every word has to name a command. -/
def step (r : Reading) (text : String) : Except Diversion Reading :=
  if r.command = some .help then
    if r.operands = [] ∧ (CommandName.ofWord? text).isSome then .ok { r with operands := [text] }
    else .error .misuse
  else if r.ended then r.operand text
  else
    match r.awaiting, Word.ofString text with
    | some setting, .plain value => ({ r with awaiting := none } : Reading).assign setting value
    | some _, _ => .error .misuse
    | none, .separator => .ok { r with ended := true }
    | none, .long name value => r.long name value
    | none, .cluster letters => r.cluster letters
    | none, .plain word => r.plain word

/-- The invocation after the last word. Without a command the game is played on a full screen. -/
def finish (r : Reading) : Except Diversion Invocation :=
  let given := r.before.merge r.after
  if r.awaiting.isSome then .error .misuse
  else
    match r.command, r.operands with
    | none, _ | some .play, _ => .ok (given.invoke .play)
    | some .simple, _ => .ok (given.invoke .simple)
    | some .audit, _ => .ok (given.invoke .audit)
    | some .check, [text] => .ok (given.invoke (.check text))
    | some .check, _ => .error .misuse
    | some .help, operands => .error (.help (operands.head?.bind CommandName.ofWord?))

end Reading

/-- The invocation that the words of a command line give. -/
def Arguments.read (words : List String) : Except Diversion Invocation := do
  let reading ← words.foldlM Reading.step {}
  reading.finish

end HiddenEquation
