/-
Command lines: commands with options, and what is given on a line.

A command either does something or is a group of commands. Every level of
commands has options of its own; an option is given by its long name, by its
letter, or by a variable of the environment where the line leaves it out. The
first fault that the reading meets is reported: the words of the line come
first, from left to right, then the deepest level with its variables and its
rules, and then the levels above it. The value of an option is judged when the
next option or the end of the line is reached.
-/
import LanRelay.Text.Blank
import LanRelay.Text.Digits

namespace LanRelay.Cli

open LanRelay.Text

/-- Why a command line is not carried out. -/
inductive UsageFault where
  | helpAsked
  | versionAsked
  /-- Nothing but the name of a group is given. -/
  | helpForNothing
  | missingSubcommand
  | invalidSubcommand
  | unknownArgument
  /-- A value is missing, or is not one of those that are allowed. -/
  | invalidValue
  /-- A value cannot be read. -/
  | unreadableValue
  /-- A switch is given a value. -/
  | superfluousValue
  | conflict
  | missingRequired
deriving DecidableEq, Repr

/-- The kind of a usage failure, in one word. -/
def UsageFault.kind : UsageFault → String
  | helpAsked => "DisplayHelp"
  | versionAsked => "DisplayVersion"
  | helpForNothing => "DisplayHelpOnMissingArgumentOrSubcommand"
  | missingSubcommand => "MissingSubcommand"
  | invalidSubcommand => "InvalidSubcommand"
  | unknownArgument => "UnknownArgument"
  | invalidValue => "InvalidValue"
  | unreadableValue => "ValueValidation"
  | superfluousValue => "TooManyValues"
  | conflict => "ArgumentConflict"
  | missingRequired => "MissingRequiredArgument"

/-- A judgement of the text of a value. -/
abbrev Check := String → Option UsageFault

/-- What an option does. -/
inductive OptionKind where
  | help
  | version
  | switch
  /-- Given several times, it counts. -/
  | count
  | value (check : Check)

structure OptionSpec where
  long : String
  letter : Option Char := none
  kind : OptionKind
  /-- The variable that stands in for the option. -/
  environmentName : Option String := none
  required : Bool := false
  /-- The option that may not be given beside this one. -/
  excludes : Option String := none

/-- A command and its options. -/
inductive Command where
  | leaf (options : List OptionSpec)
  | group (options : List OptionSpec) (children : List (String × Command))

namespace Command

def options : Command → List OptionSpec
  | leaf options | group options _ => options

def children : Command → List (String × Command)
  | leaf _ => []
  | group _ children => children

def isGroup : Command → Bool
  | leaf _ => false
  | group .. => true

/-- The name of the command that explains a group. -/
def helpName : String := "help"

/-- A word that names a command of a group. -/
def isChild (command : Command) (word : String) : Bool :=
  command.isGroup &&
    (word == helpName || (command.children.lookup word).isSome)

def byLong? (command : Command) (name : String) : Option OptionSpec :=
  command.options.find? (·.long == name)

def byLetter? (command : Command) (letter : Char) : Option OptionSpec :=
  command.options.find? (·.letter == some letter)

end Command

/-- Where a value comes from; later sources are stronger. -/
inductive Source where
  | environment
  | line
deriving DecidableEq, Repr

/-- What is known of one level of commands. -/
structure Level where
  /-- The values given so far, a switch being `true`. -/
  given : List (String × Source × String) := []
  /-- The latest option with a value that is not yet judged, and its value if
  it has been read. -/
  pending : Option (OptionSpec × Option String) := none

namespace Level

def value? (level : Level) (name : String) : Option String :=
  (level.given.lookup name).map (·.2)

/-- How often an option is given so far. -/
def count (level : Level) (name : String) : Nat :=
  ((level.value? name).bind String.toNat?).getD 0

/-- The greatest count. -/
def maxCount : Nat := 255

/-- A text that is `true` or `false`. -/
def checkSwitch : Check := fun text =>
  if text = "true" ∨ text = "false" then none else some .invalidValue

/-- An integer text with an optional sign. -/
def integer? (text : String) : Option Int :=
  match text.toList with
  | '-' :: cs => (natural? 10 cs).map fun n => -(n : Int)
  | '+' :: cs => (natural? 10 cs).map fun n => (n : Int)
  | cs => (natural? 10 cs).map fun n => (n : Int)

/-- A text that is an integer from 0 to `greatest`. -/
def checkInteger (greatest : Nat) : Check := fun text =>
  match integer? text with
  | some n => if 0 ≤ n ∧ n ≤ greatest then none else some .unreadableValue
  | none => some .unreadableValue

/-- Note a value. Only a counter may be given twice. -/
def record (level : Level) (option : OptionSpec) (source : Source)
    (value : String) : Except UsageFault Level :=
  match option.kind with
  | .help => .error .helpAsked
  | .version => .error .versionAsked
  | .count =>
      match checkInteger maxCount value with
      | some fault => .error fault
      | none =>
          let given := level.given.filter (·.1 != option.long)
          .ok { level with given := given ++ [(option.long, source, value)] }
  | .switch => put checkSwitch
  | .value check => put check
where
  put (check : Check) : Except UsageFault Level :=
    if (level.given.lookup option.long).isSome then .error .conflict
    else
      match check value with
      | some fault => .error fault
      | none =>
          .ok { level with
            given := level.given ++ [(option.long, source, value)] }

/-- Judge the pending option. -/
def settle (level : Level) : Except UsageFault Level :=
  match level.pending with
  | none => .ok level
  | some (_, none) => .error .invalidValue
  | some (option, some value) =>
      record { level with pending := none } option .line value

/-- The latest option waits for its value. -/
def awaitsValue (level : Level) : Bool :=
  match level.pending with
  | some (_, none) => true
  | _ => false

/-- An option without a value stands on the line. -/
def use (level : Level) (option : OptionSpec) : Except UsageFault Level := do
  let level ← level.settle
  let value :=
    match option.kind with
    | .count => toString (min maxCount (level.count option.long + 1))
    | _ => "true"
  level.record option .line value

/-- An option with a value stands on the line, and the value beside it or in
the next word. -/
def expect (level : Level) (option : OptionSpec) (value : Option String) :
    Except UsageFault Level := do
  let level ← level.settle
  match value with
  | some value => level.record option .line value
  | none => return { level with pending := some (option, none) }

end Level

namespace Command

/-- Read letters that follow one hyphen. -/
def readLetters (command : Command) (level : Level) :
    List Char → Except UsageFault Level
  | [] => .ok level
  | c :: cs =>
      match command.byLetter? c with
      | none => .error .unknownArgument
      | some option =>
          match option.kind with
          | .value _ =>
              level.expect option <|
                match cs with
                | [] => none
                | '=' :: cs => some (String.ofList cs)
                | cs => some (String.ofList cs)
          | _ =>
              match level.use option with
              | .error fault => .error fault
              | .ok level => readLetters command level cs

/-- Read what follows two hyphens. -/
def readLong (command : Command) (level : Level) (word : List Char) :
    Except UsageFault Level :=
  let (name, value) :=
    match cutAt? '=' word with
    | some (name, value) => (name, some (String.ofList value))
    | none => (word, none)
  match command.byLong? (String.ofList name) with
  | none => .error .unknownArgument
  | some option =>
      match option.kind, value with
      | .value _, _ => level.expect option value
      | _, some _ => .error .superfluousValue
      | _, none => level.use option

/-- A word that has no place on the line. -/
def unexpected (command : Command) (literal : Bool) (word : String) :
    UsageFault :=
  if literal && command.isChild word then .unknownArgument
  else if command.isGroup then .invalidSubcommand
  else .unknownArgument

/-- Take the options that the line leaves out from the environment. -/
def readVariables (environment : String → Option String) :
    List OptionSpec → Level → Except UsageFault Level
  | [], level => .ok level
  | option :: options, level =>
      match level.given.lookup option.long, option.environmentName.bind environment with
      | none, some value =>
          match level.record option .environment value with
          | .error fault => .error fault
          | .ok level => readVariables environment options level
      | _, _ => readVariables environment options level

/-- The first rule that the options of a level break. -/
def checkLevel (command : Command) (level : Level) (isLast : Bool) :
    Except UsageFault Unit :=
  let isGiven (name : String) := (level.given.lookup name).isSome
  if command.isGroup ∧ isLast then
    .error (if level.given.isEmpty then .helpForNothing else .missingSubcommand)
  else if command.options.any fun option =>
      isGiven option.long && option.excludes.any isGiven then
    .error .conflict
  else if command.options.any fun option =>
      option.required && !isGiven option.long then
    .error .missingRequired
  else .ok ()

/-- Finish a level when all words have been read. -/
def finish (environment : String → Option String) (command : Command)
    (isLast : Bool) (level : Level) : Except UsageFault Level := do
  let level ← level.settle
  let level ← readVariables environment command.options level
  checkLevel command level isLast
  return level

/-- What a request to explain a command comes to. -/
def explain (command : Command) : List String → UsageFault
  | [] => .helpAsked
  | word :: words =>
      if word = helpName ∧ command.isGroup then explain (.leaf []) words
      else
        match command.children.lookup word with
        | some child => explain child words
        | none => .invalidSubcommand

/-- Read the words of a level and of those below it. Behind two bare hyphens
every word is taken literally. Gives the names of the commands and their
levels, the highest first. -/
def read (environment : String → Option String) (command : Command)
    (name : String) (level : Level) (literal : Bool) :
    List String → Except UsageFault (List (String × Level))
  | [] => do return [(name, ← command.finish environment true level)]
  | word :: words =>
      if literal then .error (command.unexpected true word)
      else if !level.awaitsValue && command.isChild word then
        match command.children.lookup word with
        | none => .error (command.explain words)
        | some child => do
            let below ← read environment child word {} false words
            return (name, ← command.finish environment false level) :: below
      else
        match word.toList with
        | ['-', '-'] => read environment command name level true words
        | '-' :: '-' :: cs => do
            read environment command name (← command.readLong level cs) false
              words
        | '-' :: c :: cs => do
            read environment command name
              (← command.readLetters level (c :: cs)) false words
        | _ =>
            match level.pending with
            | some (option, none) =>
                read environment command name
                  { level with pending := some (option, some word) } false words
            | _ => .error (command.unexpected false word)

end Command

/-- Of a value above and one below, the one below counts, unless the one above
has the stronger source. -/
def deeperValue (above below : Option (Source × String)) :
    Option (Source × String) :=
  match above, below with
  | some (.line, value), some (.environment, _) => some (.line, value)
  | _, some below => some below
  | above, none => above

/-- The value of an option that stands at several levels, the highest
first. -/
def globalValue? (levels : List Level) (name : String) : Option String :=
  (levels.foldl (fun above level =>
    deeperValue above (level.given.lookup name)) none).map (·.2)

end LanRelay.Cli
