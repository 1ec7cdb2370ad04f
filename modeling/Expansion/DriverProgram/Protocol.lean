import Expansion.Catalog.Wire
import Expansion.Compiler.Request
import Expansion.DriverProgram.Process
import Expansion.Json.Reader
import Expansion.Text.Blank
import Expansion.Text.Utf8

/-!
# The protocol of driver programs

A driver program compiles and calls functions when it is run with the arguments of this module, and
prints what came of it.

* `compileArguments` name the artifact, the references and the flags as options, and the sources
  behind two dashes, so that no source can be taken for an option.
* A compile prints a report; **`interpret` accepts a module only from a success**, and makes sure
  that every other exit has an error to show.
* A call prints the text that it makes; an exit that is no success is a fault of the function.
-/

namespace Expansion.DriverProgram

/-- The arguments that ask for a compilation into an artifact. -/
def compileArguments (artifact : FilePath) (request : CompileRequest) : List String :=
  ["compile", "--out=" ++ artifact.text]
    ++ request.references.map (fun p => "--reference=" ++ p.text)
    ++ request.flags.map (fun flag => "--flag=" ++ flag)
    ++ ["--"]
    ++ request.sources.map FilePath.text

/-- The arguments that ask for a call of a function of an artifact. -/
def invokeArguments (artifact : FilePath) (function typeName : String) : List String :=
  ["invoke", "--artifact=" ++ artifact.text, "--function=" ++ function, "--type=" ++ typeName]

/-- What a driver program printed instead of a report. -/
inductive Breach where
  | noReport
  | invalidReport (fault : Json.Fault)
  deriving DecidableEq, Repr

/-- The breach in words. -/
def Breach.message : Breach → String
  | .noReport => "driver printed no compile report"
  | .invalidReport fault => "invalid compile report: " ++ fault.message

/-- What printed bytes say, without the blanks around it, or else how the program ended. -/
def detail (fallback : String) (err : ByteArray) (status : ExitStatus) : String :=
  let said := Text.trim (Text.ofBytesLossy err)
  if said.isEmpty then fallback ++ " " ++ status.describe else said

/-- The report that was printed, `none` if nothing was. -/
def printedReport (out : ByteArray) : Except Json.Fault (Option Report) :=
  let text := Text.ofBytesLossy out
  if Text.isBlankText text then .ok none
  else (Json.decodeText Report.decode text).map some

/-- The diagnostics with an error among them. -/
def withError (message : String) (diagnostics : List Diagnostic) : List Diagnostic :=
  if diagnostics.any Diagnostic.isError then diagnostics
  else diagnostics ++ [Diagnostic.unlocated message]

/-- The report of a compilation. -/
def interpret (output : ProcessOutput) : Except Breach Report :=
  let printed := printedReport output.out
  if output.status.isSuccess then
    match printed with
    | .ok (some report) => .ok report
    | .ok none => .error .noReport
    | .error fault => .error (.invalidReport fault)
  else
    -- A program that fails is still believed in what it says about the sources.
    let report := (printed.toOption.bind id).getD Report.empty
    let message := detail "compiler driver exited with" output.err output.status
    .ok { report with diagnostics := withError message report.diagnostics, catalog := none }

/-- The text that a call made. -/
def interpretCall (output : ProcessOutput) : Except Fault String :=
  if output.status.isSuccess then
    match String.fromUTF8? output.out with
    | some text => .ok text
    | none => .error ⟨"output is not valid UTF-8"⟩
  else .error ⟨detail "exited with" output.err output.status⟩

end Expansion.DriverProgram
