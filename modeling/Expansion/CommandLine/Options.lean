import Expansion.CommandLine.Arguments
import Expansion.CommandLine.Toolchain
import Expansion.Log.Settings

/-!
# The options of the program

What the program can be asked to do, and how its command line and environment say so.

* The options of the toolchain and of the log may stand before or behind the subcommand; **behind it
  wins**, and either wins over the environment.
* A subcommand adds the options of its sources, and some of its own.
-/

namespace Expansion.CommandLine

/-- What to compile. -/
structure SourceOptions where
  sources : String
  exclude : Option FilePath
  references : List FilePath
  flags : List String
  deriving DecidableEq, Repr

/-- What the program is asked to do. -/
inductive Command where
  | generate (source : SourceOptions)
  | build (source : SourceOptions) (mode : String) (output : FilePath)
  | survey (source : SourceOptions) (format : String)
  deriving DecidableEq, Repr

/-- All that a command line says. -/
structure Options where
  toolchain : Toolchain
  logLevel : String
  logFormat : String
  command : Command
  deriving DecidableEq, Repr

/-- What a command line asks for. -/
inductive Request where
  | run (options : Options)
  | version
  | help

/-- An option with a text for its value. -/
def textOption (name : String) (letter : Option Char) : OptionRule where
  name := name
  letter := letter
  repeats := false
  takesAny := false
  isPath := false
  isList := false

/-- An option with a path for its value. -/
def pathOption (name : String) (letter : Option Char) : OptionRule :=
  { textOption name letter with isPath := true }

/-- The options that may stand on either side of the subcommand. -/
def globalOptions : List OptionRule :=
  [pathOption "compiler" none,
    { textOption "compiler-arg" none with repeats := true, takesAny := true },
    { pathOption "baseline-reference" none with repeats := true, isList := true },
    { textOption "source-ext" none with repeats := true, isList := true },
    textOption "artifact-ext" none,
    textOption "log-level" none,
    textOption "log-format" none]

/-- The options that name what to compile. -/
def sourceRules : List OptionRule :=
  [textOption "sources" (some 's'),
    pathOption "exclude" none,
    { pathOption "reference" (some 'r') with repeats := true },
    { textOption "flag" (some 'f') with repeats := true, takesAny := true }]

/-- The options of each subcommand. -/
def subcommandOptions : List (String × List OptionRule) :=
  [("generate", []),
    ("build", [textOption "mode" (some 'm'), pathOption "output" (some 'o')]),
    ("scan", [textOption "format" none])]

/-- What may stand before the subcommand. -/
def outerGrammar : Grammar := ⟨globalOptions, subcommandOptions.map Prod.fst ++ ["help"], true⟩

/-- What may stand behind a subcommand. -/
def innerGrammar (own : List OptionRule) : Grammar :=
  ⟨sourceRules ++ own ++ globalOptions, [], false⟩

/-- The variables of the environment that stand for options. -/
def environmentOptions : List (String × String) :=
  [("compiler", "TYPEXPAND_COMPILER"), ("baseline-reference", "TYPEXPAND_BASELINE_REFS")]

/-- What the environment gives, for the options that a level does not. -/
def environmentGiven (environment : List (String × String)) (given : Given) :
    Except UsageError Given :=
  environmentOptions.foldlM (fun found (name, key) =>
    match globalOptions.find? (fun o => o.name == name), environment.lookup key with
    | some o, some value =>
      if (valuesOf given name).isEmpty then (o.accept value).map fun more => found ++ more
      else .ok found
    | _, _ => .ok found) []

/-- The values of an option: from the inner level, or else from the outer one, or else from the
environment. -/
def resolve (inner outer environment : Given) (name : String) : List String :=
  match valuesOf inner name, valuesOf outer name with
  | [], [] => valuesOf environment name
  | [], values => values
  | values, _ => values

/-- The toolchain of resolved values. -/
def toolchainOf (values : String → List String) : Toolchain where
  compiler := (values "compiler").head?.map FilePath.mk
  compilerArguments := values "compiler-arg"
  baseline := (values "baseline-reference").map FilePath.mk
  sourceExtensions := values "source-ext"
  artifactExtension := (values "artifact-ext").head?

/-- The sources that a subcommand names. -/
def sourceOptionsOf (given : Given) : Except UsageError SourceOptions :=
  match valueOf? given "sources" with
  | none => .error (.missingOption "sources")
  | some sources =>
    .ok { sources,
          exclude := (valueOf? given "exclude").map FilePath.mk,
          references := (valuesOf given "reference").map FilePath.mk,
          flags := valuesOf given "flag" }

/-- The command of a subcommand's name and options. -/
def commandOf (name : String) (given : Given) : Except UsageError Command := do
  let source ← sourceOptionsOf given
  if name = "build" then
    .ok (.build source ((valueOf? given "mode").getD OutputMode.embed.name)
      ⟨(valueOf? given "output").getD "."⟩)
  else if name = "scan" then .ok (.survey source ((valueOf? given "format").getD "text"))
  else .ok (.generate source)

/-- Reads what stands behind a subcommand. -/
def parseInner (environment : List (String × String)) (outer : Given) (name : String)
    (own : List OptionRule) (arguments : List String) : Except UsageError Request := do
  match ← readArguments (innerGrammar own) none [] arguments with
  | (_, .version) => .ok .version
  | (_, .help) => .ok .help
  | (inner, _) =>
    let fallback ← environmentGiven environment inner
    let command ← commandOf name inner
    -- The environment is read for the outer level too, and a bad value there is an error there.
    let _ ← environmentGiven environment outer
    let values := resolve inner outer fallback
    let standard := Log.Settings.standard
    .ok (.run
      { toolchain := toolchainOf values,
        logLevel := (values "log-level").headD standard.level,
        logFormat := (values "log-format").headD standard.format.name,
        command })

/-- Reads what stands behind the subcommand for help: nothing, or one subcommand to be helped with.
No subcommand has any of its own. -/
def parseHelp : List String → Except UsageError Request
  | [] => .ok .help
  | [name] => if outerGrammar.subcommands.contains name then .ok .help else .error (.unexpected name)
  | _ :: extra :: _ => .error (.unexpected extra)

/-- Reads a command line. -/
def parse (environment : List (String × String)) (arguments : List String) :
    Except UsageError Request := do
  match ← readArguments outerGrammar none [] arguments with
  | (_, .version) => .ok .version
  | (_, .help) => .ok .help
  | (_, .finished) => .error .missingSubcommand
  | (outer, .subcommand name rest) =>
    match subcommandOptions.lookup name with
    | some own => parseInner environment outer name own rest
    | none => parseHelp rest

end Expansion.CommandLine
