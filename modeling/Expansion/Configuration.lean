import Expansion.Digest.Hex
import Expansion.Digest.Sha256
import Expansion.OutputMode
import Expansion.Sources.Basic

/-!
# Configurations

A configuration is everything that decides what a build does: sources, references, flags, and where
the generated text goes.

* **`same`** is the equality under which results are remembered. It compares paths by their
  components.
* **`fingerprint`** is a short digest for logs, of `fingerprintBytes`: the parts of the
  configuration as they are written, each ended by a null byte and marked by its kind.
* An output path must have the extension that the mode writes (`withOutput`); `embed` writes nothing
  and takes any path.
-/

namespace Expansion

/-- What a build is asked to do. -/
structure Configuration where
  sources : Sources
  references : List FilePath
  flags : List String
  mode : OutputMode
  output : FilePath
  deriving DecidableEq, Repr

namespace Configuration

/-- The extension that a mode asks an output path to have, unless the path has it. -/
def missingExtension? (mode : OutputMode) (output : FilePath) (kinds : FileKinds) : Option String :=
  match mode with
  | .embed => none
  | .artifact => if kinds.isArtifact output then none else some kinds.artifact
  | .source => if kinds.isSource output then none else some kinds.primarySource

/-- A configuration with the references that the sources bring and no flags, or the extension that
the output path lacks. -/
def withOutput (sources : Sources) (mode : OutputMode) (output : FilePath) (kinds : FileKinds) :
    Except String Configuration :=
  match missingExtension? mode output kinds with
  | some extension => .error extension
  | none => .ok { sources, references := sources.references, flags := [], mode, output }

/-- The configuration with more references behind those that it has. -/
def addReferences (c : Configuration) (references : List FilePath) : Configuration :=
  { c with references := c.references ++ references }

/-- The configuration with more flags behind those that it has. -/
def addFlags (c : Configuration) (flags : List String) : Configuration :=
  { c with flags := c.flags ++ flags }

/-- Whether two configurations ask for the same. -/
def same (c d : Configuration) : Bool :=
  c.sources.same d.sources && Sources.same.samePaths c.references d.references
    && c.flags == d.flags && c.mode == d.mode && c.output.same d.output

/-- The bytes of a text. -/
def bytesOf (s : String) : List UInt8 := s.toUTF8.data.toList

/-- Items of one kind, each between the kind's mark and a null byte. -/
def markedItems (mark : String) (items : List String) : List UInt8 :=
  items.flatMap fun item => bytesOf mark ++ bytesOf item ++ [0]

/-- The bytes that the fingerprint is the digest of. -/
def fingerprintBytes (c : Configuration) : List UInt8 :=
  bytesOf c.sources.form.name ++ [0]
    ++ markedItems "s:" (c.sources.paths.map FilePath.text)
    ++ markedItems "r:" (c.references.map FilePath.text)
    ++ markedItems "f:" c.flags
    ++ bytesOf c.mode.name ++ [0]
    ++ bytesOf c.output.text

/-- A short digest of the configuration. -/
def fingerprint (c : Configuration) : String :=
  Digest.hex ((Digest.sha256 c.fingerprintBytes).take 8)

end Configuration

end Expansion
