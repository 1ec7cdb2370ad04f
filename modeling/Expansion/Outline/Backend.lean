import Expansion.Compiler.Basic
import Expansion.Outline.Compile

/-!
# Compiling outlines without a program

The backend that is the compiler of outlines itself. A module that is not written to a file is
compiled to a scratch file, which is gone when the compilation ends; its entry points work on the
image.
-/

namespace Expansion.Outline

/-- The name of every module that this backend makes. -/
def moduleName : String := "stub"

/-- Calls an expander of an artifact's bytes. -/
def callImage (image : ByteArray) (function typeName : String) : Except Fault String :=
  match String.fromUTF8? image with
  | none => .error (.disk .notText)
  | some content =>
    match Json.decodeText Artifact.decode content with
    | .ok a => a.call function typeName
    | .error fault => .error (.json fault)

/-- The entry point of a function. -/
def entry (image : ByteArray) (f : FunctionInfo) : Entry Machine
  | [.typeDescriptor type] =>
    match callImage image f.fullName type.fullName with
    | .ok text => pure (.ok (.string text))
    | .error fault => pure (.error ⟨fault.message⟩)
  | _ => pure (.error ⟨"bad arguments"⟩)

/-- The module of a report, if the sources compiled. -/
def moduleOf (catalog : Option Catalog) (image : ByteArray) : Option Module :=
  catalog.map fun catalog => CompiledModule.ofCatalog moduleName catalog image (entry image)

/-- A compilation as work on the machine. -/
def compileOn (a : CompileArguments) : Act Report := fun m =>
  match compile m.disk a with
  | .ok (report, disk) => (.ok report, { m with disk })
  | .error fault => (.error (.driver fault.message), m)

/-- Compiles to a file. -/
def compileTo (out : FilePath) (request : CompileRequest) : Act CompileOutput := do
  let report ← compileOn
    { out, references := request.references, flags := request.flags, sources := request.sources }
  let image := ((← Act.disk).readBytes out).toOption.getD ByteArray.empty
  pure ⟨report.diagnostics, moduleOf report.catalog image⟩

/-- The backend of outlines. -/
def backend : Backend := fun request =>
  match request.target with
  | .file p => compileTo p request
  | .memory =>
    Act.withScratchFile "typexpand-" "" ByteArray.empty fun p => compileTo p request

end Expansion.Outline
