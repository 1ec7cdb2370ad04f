import Expansion.Catalog.CompiledModule
import Expansion.FileKinds
import Expansion.Machine
import Expansion.Text.Blank

/-!
# Compilers

A backend turns requests into modules and diagnostics. A compiler stands in front of a backend and
settles what every caller wants settled in the same way.

* **Baseline references come first** in every request, and a reference that a caller names again is
  not sent twice (`Compiler.mergeReferences`).
* **Errors fail the compilation and warnings change nothing**: they are logged and forgotten.
* Generated text is compiled from a scratch file, which is gone when the compilation ends.
-/

namespace Expansion

/-- A module on the machine that builds it. -/
abbrev Module := CompiledModule Machine

/-- What a backend answers. -/
structure CompileOutput where
  diagnostics : List Diagnostic
  module? : Option Module

/-- What turns requests into modules. -/
abbrev Backend := CompileRequest → Act CompileOutput

/-- A backend, the references that every compilation needs, and the kinds of its files. -/
structure Compiler where
  backend : Backend
  baseline : List FilePath
  kinds : FileKinds

namespace Compiler

/-- The baseline, and those of the references that it does not have. -/
def mergeReferences (baseline references : List FilePath) : List FilePath :=
  baseline ++ references.filter fun p => !baseline.any fun b => b.same p

/-- The event of a request. -/
def announce (request : CompileRequest) : Act Unit :=
  Act.debug .compiler "invoking compiler"
    [("sources", .number request.sources.length), ("references", .number request.references.length),
      ("flags", .number request.flags.length)]

/-- The event of a warning. -/
def discard (warning : Diagnostic) : Act Unit :=
  Act.debug .compiler "discarding compiler warning" [("diagnostic", .text warning.describe)]

/-- The module of an answer without errors: a module that was to be written to a file has to be
there, and knows where it is. -/
def accept (target : CompileTarget) (module? : Option Module) : Act Module :=
  match module? with
  | none =>
    Act.fail (.compilationMessage "compiler reported no errors but produced no module")
  | some m =>
    match target with
    | .memory => pure m
    | .file p => do
      if (← Act.disk).isFile p then
        pure (if m.location.isSome then m else m.locatedAt p)
      else
        Act.fail (.compilationMessage
          ("compiler reported success but wrote no artifact at " ++ p.text))

/-- Compiles sources into a module. -/
def compile (c : Compiler) (sources references : List FilePath) (flags : List String)
    (target : CompileTarget) : Act Module := do
  let request : CompileRequest :=
    { sources, references := mergeReferences c.baseline references, flags, target }
  announce request
  Act.modify (Machine.record request)
  let output ← c.backend request
  (output.diagnostics.filter fun d => !d.isError).forM discard
  match output.diagnostics.filter Diagnostic.isError with
  | [] => accept target output.module?
  | errors => Act.fail (.compilation errors)

/-- Compiles sources together with generated text; blank text adds nothing. -/
def compileWithGenerated (c : Compiler) (sources : List FilePath) (generated : String)
    (references : List FilePath) (flags : List String) (target : CompileTarget) : Act Module :=
  if Text.isBlankText generated then c.compile sources references flags target
  else
    Act.withScratchDirectory "typexpand-" fun directory => do
      let p := directory.child ("generated." ++ c.kinds.primarySource)
      Act.onDisk none fun d => d.writeFile p generated.toUTF8
      c.compile (sources ++ [p]) references flags target

end Compiler

end Expansion
