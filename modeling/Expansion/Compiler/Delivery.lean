import Expansion.Compiler.Basic

/-!
# Delivery

What becomes of generated text, by the output mode.

* `embed` compiles it with the sources, and the module is part of the result.
* `artifact` compiles it to a scratch file, and only a module that compiled is copied to the output
  path.
* `source` writes the text itself.

**The output path is touched last**, so a build that fails before has changed nothing there.
-/

namespace Expansion

/-- What a successful build makes. -/
structure BuildResult where
  /-- The module with the generated text, if the mode makes one. -/
  final? : Option Module
  /-- The module of the sources alone. -/
  scratch : Module
  generated : String

namespace BuildResult

/-- The module that a host program should load. -/
def hostModule (r : BuildResult) : OutputMode → Module
  | .embed => r.final?.getD r.scratch
  | .artifact => r.scratch
  | .source => r.scratch

end BuildResult

namespace Compiler

/-- The name of the scratch file of an artifact: the output path's stem and the artifact extension.
-/
def artifactName (output : FilePath) (kinds : FileKinds) : String :=
  output.stem?.getD "generated" ++ "." ++ kinds.artifact

/-- The event of a written file. -/
def announceOutput (message : String) (output : FilePath) (more : Log.Fields) : Act Unit :=
  Act.milestone .info .delivery .outputWritten message (("path", .text output.text) :: more)

/-- Compiles the sources with the generated text into a module that is handed back. -/
def deliverModule (c : Compiler) (config : Configuration) (generated : String) : Act Module :=
  c.compileWithGenerated config.sources.paths generated config.references config.flags .memory

/-- Compiles the sources with the generated text into the artifact at the output path. -/
def deliverArtifact (c : Compiler) (config : Configuration) (generated : String) : Act Unit :=
  Act.withScratchDirectory "typexpand-" fun directory => do
    let artifact := directory.child (artifactName config.output c.kinds)
    let _ ← c.compileWithGenerated config.sources.paths generated config.references config.flags
      (.file artifact)
    -- From here on the artifact is good, and the output path may be touched.
    Act.attempt none fun d => d.attemptParent config.output
    Act.onDisk none fun d => d.copyFile artifact config.output
    announceOutput "copied artifact" config.output []

/-- Writes the generated text to the output path. -/
def deliverSource (config : Configuration) (generated : String) : Act Unit := do
  Act.attempt none fun d => d.attemptParent config.output
  Act.onDisk none fun d => d.writeFile config.output generated.toUTF8
  announceOutput "wrote generated source" config.output [("bytes", .number generated.utf8ByteSize)]

/-- Does with generated text what the output mode asks for. -/
def deliver (c : Compiler) (config : Configuration) (generated : String) (scratch : Module) :
    Act BuildResult :=
  match config.mode with
  | .embed => do
    let final ← c.deliverModule config generated
    pure ⟨some final, scratch, generated⟩
  | .artifact => do
    c.deliverArtifact config generated
    pure ⟨none, scratch, generated⟩
  | .source => do
    deliverSource config generated
    pure ⟨none, scratch, generated⟩

end Compiler

end Expansion
