import Expansion.Text.Split

/-!
# Arguments of a command line

How the arguments of a program are read: options with values, written behind an equals sign, as the
next argument or (for one letter) directly behind the letter, and subcommands, which have options of
their own.

* Reading stops at the first argument that is wrong, or that asks for the version or for help.
* **An argument that begins with a dash is a value only of an option that takes any value.** The
  lone dash and what stands behind an equals sign are always values.
* Of an option that repeats, all values count, in order. Any other option may be given once.
-/

namespace Expansion.CommandLine

/-- An option that takes a value. -/
structure OptionRule where
  name : String
  letter : Option Char
  /-- Whether the option may be given more than once. -/
  repeats : Bool
  /-- Whether the next argument is the value even if it begins with a dash. -/
  takesAny : Bool
  /-- Whether a value must not be empty. -/
  isPath : Bool
  /-- Whether a value is a list with commas. -/
  isList : Bool
  deriving DecidableEq, Repr

/-- What may be given at one level of a command line. -/
structure Grammar where
  options : List OptionRule
  subcommands : List String
  hasVersion : Bool

/-- Why arguments mean nothing. -/
inductive UsageError where
  | unexpected (argument : String)
  | missingValue (option : String)
  | emptyValue (option : String)
  | repeated (option : String)
  | missingOption (option : String)
  | missingSubcommand
  deriving DecidableEq, Repr

/-- The error in words. -/
def UsageError.message : UsageError → String
  | .unexpected argument => "unexpected argument '" ++ argument ++ "' found"
  | .missingValue option => "a value is required for '--" ++ option ++ "' but none was supplied"
  | .emptyValue option => "a value is required for '--" ++ option ++ "' but none was supplied"
  | .repeated option => "the argument '--" ++ option ++ "' cannot be used multiple times"
  | .missingOption option => "the argument '--" ++ option ++ "' was not provided"
  | .missingSubcommand => "a subcommand is required but one was not provided"

/-- How reading a level ends. -/
inductive Ending where
  | finished
  | subcommand (name : String) (rest : List String)
  | version
  | help
  deriving DecidableEq, Repr

/-- Values of options by name, in the order in which they were given. -/
abbrev Given := List (String × String)

namespace OptionRule

/-- The values that one text gives an option. -/
def values (o : OptionRule) (text : String) : List String :=
  if o.isList then Text.splitOn ',' text else [text]

/-- The values that a text gives an option, if it may have them. -/
def accept (o : OptionRule) (text : String) : Except UsageError Given :=
  if o.isPath && (o.values text).any String.isEmpty then .error (.emptyValue o.name)
  else .ok ((o.values text).map fun value => (o.name, value))

/-- What is given with one more value of an option. -/
def add (o : OptionRule) (text : String) (given : Given) : Except UsageError Given :=
  if !o.repeats && given.any fun (name, _) => name == o.name then .error (.repeated o.name)
  else (o.accept text).map fun more => given ++ more

end OptionRule

/-- What one argument means by itself. -/
inductive Reading where
  /-- An option whose value is the next argument. -/
  | opens (option : OptionRule)
  | gives (option : OptionRule) (value : String)
  | ends (ending : Ending)
  | wrong

/-- What an argument with two dashes means. -/
def readLong (g : Grammar) (body : String) : Reading :=
  let (name, value?) := match Text.splitOnce "=" body with
    | some (name, value) => (name, some value)
    | none => (body, none)
  match g.options.find? fun o => o.name == name with
  | some o =>
    match value? with
    | some value => .gives o value
    | none => .opens o
  | none =>
    if value?.isSome then .wrong
    else if name = "help" then .ends .help
    else if name = "version" && g.hasVersion then .ends .version
    else .wrong

/-- What an argument with one dash means. -/
def readShort (g : Grammar) (letter : Char) (rest : List Char) : Reading :=
  match g.options.find? fun o => o.letter == some letter with
  | some o =>
    match rest with
    | [] => .opens o
    | '=' :: value => .gives o (String.ofList value)
    | value => .gives o (String.ofList value)
  | none =>
    if letter = 'h' then .ends .help
    else if letter = 'V' && g.hasVersion then .ends .version
    else .wrong

/-- What an argument means where no option waits for a value. -/
def readOne (g : Grammar) (argument : String) : Reading :=
  match argument.toList with
  | '-' :: '-' :: body => readLong g (String.ofList body)
  | '-' :: letter :: rest => readShort g letter rest
  | _ => .wrong

/-- Whether an argument looks like an option. -/
def looksLikeOption (argument : String) : Bool :=
  argument.toList.head? == some '-' && argument != "-"

/-- Reads the arguments of a level: the option that waits for a value, and what has been given. -/
def readArguments (g : Grammar) : Option OptionRule → Given → List String →
    Except UsageError (Given × Ending)
  | some o, _, [] => .error (.missingValue o.name)
  | none, given, [] => .ok (given, .finished)
  | some o, given, argument :: rest =>
    if looksLikeOption argument && !o.takesAny then .error (.missingValue o.name)
    else
      match o.add argument given with
      | .ok given => readArguments g none given rest
      | .error e => .error e
  | none, given, argument :: rest =>
    -- A subcommand ends the level; what stands behind it is read by its own grammar.
    if g.subcommands.contains argument then .ok (given, .subcommand argument rest)
    else if argument = "--" then
      match rest with
      | [] => .ok (given, .finished)
      | next :: _ => .error (.unexpected next)
    else
      match readOne g argument with
      | .opens o => readArguments g (some o) given rest
      | .gives o value =>
        match o.add value given with
        | .ok given => readArguments g none given rest
        | .error e => .error e
      | .ends ending => .ok (given, ending)
      | .wrong => .error (.unexpected argument)

/-- The values that are given for an option. -/
def valuesOf (given : Given) (name : String) : List String :=
  given.filterMap fun (other, value) => if other = name then some value else none

/-- The value that is given for an option. -/
def valueOf? (given : Given) (name : String) : Option String := (valuesOf given name).head?

end Expansion.CommandLine
