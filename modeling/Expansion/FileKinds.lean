import Expansion.Disk.FilePath
import Expansion.Text.Lowercase

/-!
# Kinds of files

What a file is for shows in its extension: a source, a compiled artifact, or a project manifest.

* **The extension of a path is compared in lower case** (`hasExtension`), with what the table holds
  as it is; `withSources` and `withArtifact` put extensions into the table without dots in front and
  in lower case.
* Scratch sources take the first source extension.
-/

namespace Expansion

/-- The extensions of the files that a build deals with, without the dot. -/
structure FileKinds where
  sources : List String
  artifact : String
  manifests : List String
  deriving DecidableEq, Repr

namespace FileKinds

/-- The extensions in use where nothing else is said. -/
def standard : FileKinds where
  sources := ["src"]
  artifact := "lib"
  manifests := ["yaml", "yml"]

/-- An extension without dots in front and in lower case. -/
def normalize (extension : String) : String :=
  Text.lowercase (String.ofList (extension.toList.dropWhile (· == '.')))

/-- The table with other source extensions. -/
def withSources (kinds : FileKinds) (extensions : List String) : FileKinds :=
  { kinds with sources := extensions.map normalize }

/-- The table with another artifact extension. -/
def withArtifact (kinds : FileKinds) (extension : String) : FileKinds :=
  { kinds with artifact := normalize extension }

/-- Whether a path has one of the extensions. -/
def hasExtension (extensions : List String) (p : FilePath) : Bool :=
  match p.extension? with
  | some e => extensions.contains (Text.lowercase e)
  | none => false

/-- Whether a path names a source. -/
def isSource (kinds : FileKinds) (p : FilePath) : Bool := hasExtension kinds.sources p

/-- Whether a path names an artifact. -/
def isArtifact (kinds : FileKinds) (p : FilePath) : Bool := hasExtension [kinds.artifact] p

/-- Whether a path names a manifest. -/
def isManifest (kinds : FileKinds) (p : FilePath) : Bool := hasExtension kinds.manifests p

/-- The extension of scratch sources. -/
def primarySource (kinds : FileKinds) : String := kinds.sources.headD "src"

end FileKinds

end Expansion
