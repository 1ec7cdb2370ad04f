import Expansion.Disk.Access
import Expansion.Outline.Artifact

/-!
# Compiling and calling outlines

The compiler of outlines, and the calls of the expanders of an artifact.

* **A compilation reports every reference that is not there, then source by source what is wrong
  with it** (`diagnosticsOf`); with an error among them nothing is written.
* The text that a call makes is the expander's text with the names put in (`fill`), one mark after
  the other.
-/

namespace Expansion.Outline

/-- What a compilation is given. -/
structure CompileArguments where
  out : FilePath
  references : List FilePath
  flags : List String
  sources : List FilePath
  deriving DecidableEq, Repr

/-- What a call is given. -/
structure InvokeArguments where
  artifact : FilePath
  function : String
  typeName : String
  deriving DecidableEq, Repr

/-- Why the compiler of outlines gives up. -/
inductive Fault where
  /-- Arguments that mean nothing. -/
  | usage (message : String)
  | unknownFunction (name : String)
  /-- A failure that the outline asks for. -/
  | asked (function typeName : String)
  | disk (error : Disk.Error)
  | json (fault : Json.Fault)
  deriving DecidableEq, Repr

/-- The fault in words. -/
def Fault.message : Fault → String
  | .usage message => "usage: " ++ message
  | .unknownFunction name => "unknown function '" ++ name ++ "'"
  | .asked function typeName => function ++ " failed for " ++ typeName
  | .disk error => "I/O error: " ++ error.message
  | .json fault => "JSON error: " ++ fault.message

/-- The flag that makes errors of warnings. -/
def strictFlag : String := "werror"

/-- A source and what reading it gave. -/
structure ReadSource where
  path : FilePath
  content : Except Disk.Error String

/-- A source as it is on the disk. -/
def ReadSource.ofPath (d : Disk) (p : FilePath) : ReadSource := ⟨p, d.readText p⟩

/-- What the compiler says about one line. -/
def diagnosticOf? (strict : Bool) (p : FilePath) (number : Nat) (line : String) :
    Option Diagnostic :=
  (Line.remark? strict (Line.parse line)).map fun (severity, message) =>
    { severity, file := p.text, startLine := UInt32.ofNat number, startColumn := 1,
      endLine := UInt32.ofNat number, endColumn := UInt32.ofNat line.utf8ByteSize, message }

/-- What the compiler says about lines, the first of which has the number. -/
def diagnosticsOfLines (strict : Bool) (p : FilePath) : Nat → List String → List Diagnostic
  | _, [] => []
  | number, line :: rest =>
    (diagnosticOf? strict p number line).toList ++ diagnosticsOfLines strict p (number + 1) rest

/-- What the compiler says about a source. -/
def diagnosticsOf (strict : Bool) (source : ReadSource) : List Diagnostic :=
  match source.content with
  | .ok text => diagnosticsOfLines strict source.path 1 (Text.lines text)
  | .error e =>
    [Diagnostic.unlocated ("cannot read " ++ source.path.text ++ ": " ++ e.message)]

/-- What the compiler says about a reference. -/
def diagnosticOfReference? (d : Disk) (p : FilePath) : Option Diagnostic :=
  if d.leadsSomewhere p then none
  else some (Diagnostic.unlocated ("reference not found: " ++ p.text))

/-- All that the compiler says. -/
def diagnose (d : Disk) (strict : Bool) (references : List FilePath) (sources : List ReadSource) :
    List Diagnostic :=
  references.filterMap (diagnosticOfReference? d) ++ sources.flatMap (diagnosticsOf strict)

/-- The texts of the sources that could be read. -/
def textsOf (sources : List ReadSource) : List String :=
  sources.filterMap fun source => source.content.toOption

/-- Compiles sources: the report, and the disk with the artifact if there is no error. -/
def compile (d : Disk) (a : CompileArguments) : Except Fault (Report × Disk) :=
  let sources := a.sources.map (ReadSource.ofPath d)
  let diagnostics := diagnose d (a.flags.contains strictFlag) a.references sources
  -- With an error nothing is written, and an older artifact stays as it is.
  if diagnostics.any Diagnostic.isError then .ok (⟨diagnostics, none⟩, d)
  else
    let artifact := Artifact.ofTexts (textsOf sources)
    match d.writeFile a.out artifact.toText.toUTF8 with
    | .ok d => .ok (⟨diagnostics, some artifact.catalog⟩, d)
    | .error e => .error (.disk e)

/-- The artifact in a file. -/
def load (d : Disk) (p : FilePath) : Except Fault Artifact :=
  match d.readText p with
  | .error e => .error (.disk e)
  | .ok content =>
    match Json.decodeText Artifact.decode content with
    | .ok a => .ok a
    | .error fault => .error (.json fault)

/-- An expander's text with the names put in: the type's short name, its full name, and the
function's short name, in this order. -/
def fill (body function typeName : String) : String :=
  Text.replaceAll "\x7bname\x7d" (shortName function)
    (Text.replaceAll "\x7bfull_type\x7d" typeName
      (Text.replaceAll "\x7btype\x7d" (shortName typeName) body))

namespace Artifact

/-- The text that an expander of the artifact makes for a type. -/
def call (a : Artifact) (function typeName : String) : Except Fault String :=
  match a.bodies.lookup function with
  | none => .error (.unknownFunction function)
  | some body =>
    if a.failures.contains (function, typeName) then .error (.asked function typeName)
    else .ok (fill body function typeName)

end Artifact

/-- Calls an expander of an artifact file. -/
def invoke (d : Disk) (a : InvokeArguments) : Except Fault String :=
  match load d a.artifact with
  | .ok artifact => artifact.call a.function a.typeName
  | .error fault => .error fault

end Expansion.Outline
