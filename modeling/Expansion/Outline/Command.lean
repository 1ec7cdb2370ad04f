import Expansion.DriverProgram.Process
import Expansion.Outline.Compile

/-!
# The compiler of outlines as a program

The arguments of the program and what it prints: the report of a compilation, or the text of a call.

* **Options end at two dashes**, so every source behind them is a source; of two artifacts the last
  one counts.
* A call looks for the first argument of each kind and for nothing else.
* The program exits with 1 if the sources have errors, with 2 if it cannot do its work, and with 3
  if a call fails.
-/

namespace Expansion.Outline

/-- What the program is asked to do. -/
inductive Command where
  | compile (arguments : CompileArguments)
  | invoke (arguments : InvokeArguments)
  deriving DecidableEq, Repr

namespace Command

/-- Reads the arguments of a compilation, with those that have been read. -/
def parseCompile : Option FilePath → List FilePath → List String → List String →
    Except Fault CompileArguments
  | out, references, flags, [] => finish out references flags []
  | out, references, flags, argument :: rest =>
    if argument = "--" then finish out references flags rest
    else
      match Text.stripPrefix? "--out=" argument, Text.stripPrefix? "--reference=" argument,
        Text.stripPrefix? "--flag=" argument with
      | some p, _, _ => parseCompile (some ⟨p⟩) references flags rest
      | none, some p, _ => parseCompile out (references ++ [⟨p⟩]) flags rest
      | none, none, some flag => parseCompile out references (flags ++ [flag]) rest
      | none, none, none => .error (.usage ("unexpected argument '" ++ argument ++ "'"))
where
  /-- The arguments once all options are read. -/
  finish (out : Option FilePath) (references : List FilePath) (flags sources : List String) :
      Except Fault CompileArguments :=
    match out with
    | some out => .ok { out, references, flags, sources := sources.map FilePath.mk }
    | none => .error (.usage "compile needs --out")

/-- What follows a mark in the first argument that begins with it. -/
def valueOf (mark : String) (arguments : List String) : Except Fault String :=
  match arguments.findSome? (Text.stripPrefix? mark) with
  | some value => .ok value
  | none => .error (.usage ("invoke needs " ++ mark))

/-- Reads the arguments of a call. -/
def parseInvoke (arguments : List String) : Except Fault InvokeArguments := do
  let artifact ← valueOf "--artifact=" arguments
  let function ← valueOf "--function=" arguments
  let typeName ← valueOf "--type=" arguments
  .ok { artifact := ⟨artifact⟩, function, typeName }

/-- Reads the arguments of the program. -/
def parse : List String → Except Fault Command
  | [] => .error (.usage "expected 'compile' or 'invoke'")
  | "compile" :: rest => (parseCompile none [] [] rest).map .compile
  | "invoke" :: rest => (parseInvoke rest).map .invoke
  | other :: _ => .error (.usage ("unknown command '" ++ other ++ "'"))

end Command

/-- The name of the program. -/
def programName : String := "typexpand-stubc"

/-- A program that exits after a message. -/
def exitWith (code : Nat) (message : String) : ProcessOutput :=
  ⟨.code code, ByteArray.empty, (message ++ "\n").toUTF8⟩

/-- A program that exits after it has printed a text. -/
def printAndExit (code : Nat) (text : String) : ProcessOutput :=
  ⟨.code code, text.toUTF8, ByteArray.empty⟩

/-- Runs the program. -/
def runProgram (arguments : List String) (d : Disk) : ProcessOutput × Disk :=
  match Command.parse arguments with
  | .error fault => (exitWith 2 (programName ++ ": " ++ fault.message), d)
  | .ok (.compile a) =>
    match compile d a with
    | .error fault => (exitWith 2 (programName ++ ": " ++ fault.message), d)
    | .ok (report, d) =>
      (printAndExit (if report.catalog.isSome then 0 else 1) (report.encode.compact ++ "\n"), d)
  | .ok (.invoke a) =>
    match invoke d a with
    | .ok text => (printAndExit 0 text, d)
    | .error fault => (exitWith 3 fault.message, d)

end Expansion.Outline
