import Expansion.DriverProgram.Backend
import Expansion.Workbench

/-!
# Toolchains

How to reach a compiler, what its files look like, and what to build. A toolchain makes a workbench,
and a request makes a configuration for it.
-/

namespace Expansion

/-- How to reach a compiler and what its files look like. -/
structure Toolchain where
  compiler : Option FilePath
  compilerArguments : List String
  baseline : List FilePath
  sourceExtensions : List String
  artifactExtension : Option String
  deriving DecidableEq, Repr

namespace Toolchain

/-- The kinds of files: the standard ones, but for what the toolchain says. -/
def kinds (t : Toolchain) : FileKinds :=
  let kinds :=
    if t.sourceExtensions.isEmpty then FileKinds.standard
    else FileKinds.standard.withSources t.sourceExtensions
  match t.artifactExtension with
  | some extension => kinds.withArtifact extension
  | none => kinds

/-- The driver program of a toolchain. -/
def driver? (runner : Runner) (t : Toolchain) : Option DriverProgram :=
  t.compiler.map fun program =>
    { runner, program, arguments := t.compilerArguments, artifactExtension := t.kinds.artifact }

/-- The workbench of a toolchain. -/
def workbench? (runner : Runner) (t : Toolchain) : Option Workbench :=
  (t.driver? runner).map fun driver =>
    Workbench.ofCompiler { backend := driver.backend, baseline := t.baseline, kinds := t.kinds }

/-- The event of a toolchain that has a compiler. -/
def announce (t : Toolchain) (program : FilePath) : Act Unit :=
  Act.debug .toolchain "compiler driver configured"
    [("compiler", .text program.text), ("baseline_references", .number t.baseline.length)]

end Toolchain

/-- What to build, as a user says it. -/
structure BuildRequest where
  sources : String
  exclude : Option FilePath
  references : List FilePath
  flags : List String
  mode : OutputMode
  output : FilePath
  deriving DecidableEq, Repr

namespace BuildRequest

/-- The configuration that a request asks for. -/
def configuration (d : Disk) (r : BuildRequest) (kinds : FileKinds) :
    Except Failure Configuration :=
  match Sources.resolve d r.sources r.exclude kinds with
  | .error problem => .error (.sources problem)
  | .ok sources =>
    match Configuration.withOutput sources r.mode r.output kinds with
    | .error extension => .error (.outputPath r.output r.mode extension)
    | .ok config => .ok ((config.addReferences r.references).addFlags r.flags)

end BuildRequest

end Expansion
