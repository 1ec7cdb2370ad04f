import Expansion.CommandLine.Options
import Expansion.Survey.Report

/-!
# Running the program

What the program does with a command line: it sets the log up, finds its compiler, resolves the
configuration, and prints the generated text, the survey, or what was built.

* **A command line that means nothing exits with 2**, and every other failure with 1 and one
  message.
* The log is a list of events here; which of them are shown is part of the outcome.
-/

namespace Expansion.CommandLine

/-- What is left of a run of the program. -/
structure Outcome where
  code : Nat
  out : String
  err : String
  /-- For whom the log is. -/
  format : Log.Format
  /-- The events that the log shows. -/
  events : List Log.Event

/-- Why the program gives up. -/
inductive Error where
  | noCompiler
  | logFormat (text : String)
  | failure (f : Failure)

/-- The error in words. -/
def Error.message : Error → String
  | .noCompiler => "no compiler driver configured; pass --compiler or set TYPEXPAND_COMPILER"
  | .logFormat text => "invalid log format '" ++ text ++ "' (expected json or pretty)"
  | .failure f => f.message

/-- The version of the program. -/
def version : String := "typexpand 0.3.1"

/-- What the program says to one who asks for help. -/
def helpText : String :=
  "Generate code from expandable types\n\nUsage: typexpand [OPTIONS] <COMMAND>\n\n"
    ++ "Commands: generate, build, scan\n"

/-- What a command prints. -/
structure Printed where
  out : String
  err : String

/-- Work of the program that may fail. -/
abbrev Work (α : Type) := ExceptT Error (StateM Machine) α

/-- Work on the machine as work of the program. -/
def onMachine {α : Type} (work : Act α) : Work α := fun m =>
  match work m with
  | (.ok value, after) => (.ok value, after)
  | (.error f, after) => (.error (.failure f), after)

/-- The workbench of a toolchain. -/
def openWorkbench (runner : Runner) (t : Toolchain) : Work Workbench := do
  match t.compiler, t.workbench? runner with
  | some program, some w =>
    onMachine (t.announce program)
    pure w
  | _, _ => throw .noCompiler

/-- The configuration of what to compile. -/
def configure (w : Workbench) (source : SourceOptions) (mode : OutputMode) (output : FilePath) :
    Work Configuration := do
  let request : BuildRequest :=
    { sources := source.sources, exclude := source.exclude, references := source.references,
      flags := source.flags, mode, output }
  match request.configuration (← onMachine Act.disk) w.compiler.kinds with
  | .ok config => pure config
  | .error f => throw (.failure f)

/-- A text with a line feed. -/
def line (text : String) : String := text ++ "\n"

/-- Prints the generated text. -/
def generate (runner : Runner) (t : Toolchain) (source : SourceOptions) : Work Printed := do
  let w ← openWorkbench runner t
  let config ← configure w source .embed ⟨"."⟩
  let generated ← onMachine (w.generate config)
  pure ⟨if generated.isEmpty then "" else line generated, ""⟩

/-- What is said after a build. -/
def builtMessage (config : Configuration) (result : BuildResult) (image : Nat) : String :=
  let sources := "built " ++ toString config.sources.paths.length ++ " source(s)"
  match config.mode with
  | .embed =>
    sources ++ ": " ++ toString result.generated.utf8ByteSize ++ " byte(s) generated, module image "
      ++ toString image ++ " byte(s)"
  | .artifact => sources ++ " to " ++ config.output.text
  | .source => sources ++ " to " ++ config.output.text

/-- A build as work of the program: the result and the workbench after it. -/
def buildWith (w : Workbench) (config : Configuration) : Work (BuildResult × Workbench) := fun m =>
  match w.build config m with
  | ((.ok kept, w), after) => (.ok (kept.result, w), after)
  | ((.error f, _), after) => (.error (.failure f), after)

/-- Builds and says what was built. -/
def build (runner : Runner) (t : Toolchain) (source : SourceOptions) (mode : String)
    (output : FilePath) : Work Printed := do
  match OutputMode.parse? mode with
  | none => throw (.failure (.outputMode mode))
  | some mode =>
    let w ← openWorkbench runner t
    let config ← configure w source mode output
    let (result, w) ← buildWith w config
    let image := (w.latestImage?.map ByteArray.size).getD 0
    pure ⟨"", line (builtMessage config result image)⟩

/-- Prints what the sources offer. -/
def survey (runner : Runner) (t : Toolchain) (source : SourceOptions) (format : String) :
    Work Printed := do
  let w ← openWorkbench runner t
  let config ← configure w source .embed ⟨"."⟩
  let s ← onMachine (w.survey config)
  let report := SurveyReport.ofSurvey s
  pure ⟨if format = "json" then line report.toJsonText else report.toText, ""⟩

/-- Does what a command asks for. -/
def perform (runner : Runner) (t : Toolchain) : Command → Work Printed
  | .generate source => generate runner t source
  | .build source mode output => build runner t source mode output
  | .survey source format => survey runner t source format

/-- What is said about a directive of the log filter that is not understood. -/
def ignored (directive : String × Log.DirectiveFault) : String :=
  line ("ignoring `" ++ directive.1 ++ "`: " ++ directive.2.message)

/-- Runs the program with its options. -/
def runOptions (runner : Runner) (environment : List (String × String)) (o : Options) (d : Disk) :
    Outcome × Disk :=
  match Log.Format.parse? o.logFormat with
  | none =>
    (⟨1, "", line ("error: " ++ (Error.logFormat o.logFormat).message), .pretty, []⟩, d)
  | some format =>
    let settings : Log.Settings :=
      { Log.Settings.standard with level := o.logLevel, format }
    let (filter, unknown) := settings.filter (environment.lookup "RUST_LOG")
    let warnings := Text.join "" (unknown.map ignored)
    -- The first event tells that the log is set up, and is logged like any other.
    let m : Machine :=
      { Machine.ofDisk d with events := [settings.started], spans := [settings.rootSpan] }
    let (result, after) := perform runner o.toolchain o.command m
    let events := filter.apply after.events
    match result with
    | .ok printed => (⟨0, printed.out, warnings ++ printed.err, format, events⟩, after.disk)
    | .error e => (⟨1, "", warnings ++ line ("error: " ++ e.message), format, events⟩, after.disk)

/-- Runs the program. -/
def run (runner : Runner) (environment : List (String × String)) (arguments : List String)
    (d : Disk) : Outcome × Disk :=
  match parse environment arguments with
  | .error e => (⟨2, "", line ("error: " ++ e.message), .pretty, []⟩, d)
  | .ok .version => (⟨0, line version, "", .pretty, []⟩, d)
  | .ok .help => (⟨0, helpText, "", .pretty, []⟩, d)
  | .ok (.run o) => runOptions runner environment o d

end Expansion.CommandLine
