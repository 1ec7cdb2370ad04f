import Expansion.Compiler.Basic
import Expansion.DriverProgram.Protocol

/-!
# Compiling with a driver program

The backend that runs a driver program for every compilation and for every call of a function.

* A module that is not written to a file is compiled into a scratch directory, which is gone when
  the compilation ends.
* **A module keeps its image**, and every call runs the program on a new scratch file with exactly
  these bytes, whatever has become of the artifact.
-/

namespace Expansion

/-- A driver program: how programs are run, which one it is, the arguments that come first, and the
extension of its artifacts. -/
structure DriverProgram where
  runner : Runner
  program : FilePath
  arguments : List String
  artifactExtension : String

namespace DriverProgram

/-- Why the program cannot be started, in words. -/
def startFailure (d : DriverProgram) (e : Disk.Error) : Failure :=
  .driver ("failed to run " ++ d.program.text ++ ": " ++ e.message)

/-- The error of arguments that cannot be passed to a program. -/
def argumentFault? (program : FilePath) (arguments : List String) : Option Disk.Error :=
  if (program.text :: arguments).any (Text.hasChar '\x00') then some .nullInArgument else none

/-- Runs the program with more arguments. -/
def run (d : DriverProgram) (arguments : List String) : Act ProcessOutput := fun m =>
  let all := d.arguments ++ arguments
  match argumentFault? d.program all with
  | some e => (.error (d.startFailure e), m)
  | none =>
    match d.runner d.program all m.disk with
    | (.ok output, disk) => (.ok output, { m with disk })
    | (.error e, disk) => (.error (d.startFailure e), { m with disk })

/-- A call of a function on a scratch copy of the image. -/
def call (d : DriverProgram) (image : ByteArray) (function typeName : String) : Act ProcessOutput :=
  Act.withScratchFile "typexpand-invoke-" ("." ++ d.artifactExtension) image fun artifact =>
    d.run (invokeArguments artifact function typeName)

/-- The failure of a call as a fault of the function. -/
def faultOf : Failure → Fault
  | .disk e p? => ⟨"cannot stage artifact: " ++ Failure.diskMessage e p?⟩
  | f => ⟨f.message⟩

/-- The entry point of a function. -/
def entry (d : DriverProgram) (image : ByteArray) (f : FunctionInfo) : Entry Machine
  | [.typeDescriptor type] => fun m =>
    match d.call image f.fullName type.fullName m with
    | (.ok output, after) => ((interpretCall output).map Value.string, after)
    | (.error failure, after) => (.error (faultOf failure), after)
  | _ => pure (.error
      ⟨f.fullName ++ ": driver functions take exactly one type descriptor"⟩)

/-- The module of a catalog and an artifact's image. -/
def load (d : DriverProgram) (artifact : FilePath) (catalog : Catalog) (image : ByteArray) :
    Module :=
  CompiledModule.ofCatalog (artifact.stem?.getD "module") catalog image (d.entry image)

/-- The image of an artifact that the program reported. -/
def readImage (artifact : FilePath) : Act ByteArray := do
  match (← Act.disk).readBytes artifact with
  | .ok image => pure image
  | .error e =>
    Act.fail (.driver ("driver reported success but artifact " ++ artifact.text
      ++ " is unreadable: " ++ e.message))

/-- What a report comes to. -/
def accept (d : DriverProgram) (artifact : FilePath) (report : Report) : Act CompileOutput := do
  match report.catalog with
  | none => pure ⟨report.diagnostics, none⟩
  | some catalog =>
    -- With an error among the diagnostics the artifact is not even looked at.
    if report.diagnostics.any Diagnostic.isError then pure ⟨report.diagnostics, none⟩
    else
      let image ← readImage artifact
      pure ⟨report.diagnostics, some (d.load artifact catalog image)⟩

/-- Compiles into an artifact. -/
def compileTo (d : DriverProgram) (artifact : FilePath) (request : CompileRequest) :
    Act CompileOutput := do
  let output ← d.run (compileArguments artifact request)
  match interpret output with
  | .ok report => d.accept artifact report
  | .error breach => Act.fail (.driver breach.message)

/-- The backend of a driver program. -/
def backend (d : DriverProgram) : Backend := fun request =>
  match request.target with
  | .file p => do
    let output ← d.compileTo p request
    pure { output with module? := output.module?.map fun m => m.locatedAt p }
  | .memory =>
    Act.withScratchDirectory "typexpand-module-" fun directory =>
      d.compileTo (directory.child ("module." ++ d.artifactExtension)) request

end DriverProgram

end Expansion
