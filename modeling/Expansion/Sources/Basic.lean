import Expansion.Disk.Access
import Expansion.FileKinds
import Expansion.Sources.Manifest
import Expansion.Text.Blank

/-!
# The sources of a build

A user names the sources of a build by one text, which is a source file, a list of source files with
commas between them, or a project manifest.

* **The form is decided by the text alone**: a comma makes it a list; else the extension tells a
  manifest from a source.
* `Sources.resolve` also takes a file to leave out of a list or manifest, so that a project may name
  the file that a build of it writes. It is left out under every name that leads to it
  (`Disk.sameFile`).
* A manifest's entries are relative to its directory; its references come along.
-/

namespace Expansion

/-- How the sources were named. -/
inductive Sources.Form where
  | file
  | list
  | manifest
  deriving DecidableEq, Repr

/-- The word for a form. -/
def Sources.Form.name : Sources.Form → String
  | .file => "file"
  | .list => "list"
  | .manifest => "manifest"

/-- The source files of a build, in order, and the references that their manifest declares. -/
structure Sources where
  form : Sources.Form
  paths : List FilePath
  references : List FilePath
  deriving DecidableEq, Repr

/-- Why a text names no sources. -/
inductive Sources.Problem where
  | blank
  | unknownForm (input : String) (kinds : FileKinds)
  | listEntry (entry : String)
  | emptyList (input : String)
  | manifestEntry (manifest entry : FilePath)
  | emptyManifest (manifest : FilePath)
  | unreadable (manifest : FilePath) (error : Disk.Error)
  | unparsable (manifest : FilePath) (problem : String)

namespace Sources

/-- Whether the problem is the manifest's text and not what it lists. -/
def Problem.isManifest : Problem → Bool
  | .unreadable _ _ => true
  | .unparsable _ _ => true
  | _ => false

/-- The problem in words. -/
def Problem.message : Problem → String
  | .blank => "source path is empty"
  | .unknownForm input kinds =>
    "'" ++ input ++ "' is not a source file (." ++ Text.join ", ." kinds.sources
      ++ "), a comma-separated list, or a project manifest (." ++ Text.join ", ." kinds.manifests
      ++ ")"
  | .listEntry entry => "list entry '" ++ entry ++ "' is not a source file"
  | .emptyList input => "'" ++ input ++ "' names no source files"
  | .manifestEntry manifest entry =>
    "manifest " ++ manifest.text ++ " lists '" ++ entry.text ++ "', which is not a source file"
  | .emptyManifest manifest => "manifest " ++ manifest.text ++ " declares no sources"
  | .unreadable manifest error => "failed to read " ++ manifest.text ++ ": " ++ error.message
  | .unparsable manifest problem => "failed to parse " ++ manifest.text ++ ": " ++ problem

/-- The manifest in a text that was read from a file. -/
def parseManifest (content : String) (p : FilePath) : Except Problem Manifest :=
  match Manifest.parse content with
  | .ok manifest => .ok manifest
  | .error problem => .error (.unparsable p problem)

/-- The manifest in a file. -/
def loadManifest (d : Disk) (p : FilePath) : Except Problem Manifest :=
  match d.readText p with
  | .error error => .error (.unreadable p error)
  | .ok content => parseManifest content p

/-- The paths of a manifest's entries, seen from the manifest's directory. -/
def entryPaths (base : FilePath) (entries : List String) : List FilePath :=
  entries.map fun entry => base.join ⟨Text.trim entry⟩

/-- The paths that are not the file to leave out. -/
def without (d : Disk) (exclude : Option FilePath) (paths : List FilePath) : List FilePath :=
  match exclude with
  | none => paths
  | some excluded => paths.filter fun p => !d.sameFile p excluded

/-- The entries of a list: what is between the commas, without blank entries. -/
def listEntries (input : String) : List String :=
  ((Text.splitOn ',' input).map Text.trim).filter fun entry => !entry.isEmpty

/-- The sources of a list. -/
def ofList (d : Disk) (input : String) (exclude : Option FilePath) (kinds : FileKinds) :
    Except Problem Sources :=
  let entries := listEntries input
  match entries.find? fun entry => !kinds.isSource ⟨entry⟩ with
  | some entry => .error (.listEntry entry)
  | none =>
    match without d exclude (entries.map FilePath.mk) with
    | [] => .error (.emptyList input)
    | paths => .ok { form := .list, paths, references := [] }

/-- The sources of a manifest. -/
def ofManifest (d : Disk) (p : FilePath) (exclude : Option FilePath) (kinds : FileKinds) :
    Except Problem Sources :=
  match loadManifest d p with
  | .error problem => .error problem
  | .ok manifest =>
    let base := p.parent?.getD ⟨""⟩
    let members := entryPaths base manifest.sources
    -- Every entry has to be a source, also the one that is left out below.
    match members.find? fun member => !kinds.isSource member with
    | some member => .error (.manifestEntry p member)
    | none =>
      match without d exclude members with
      | [] => .error (.emptyManifest p)
      | paths => .ok { form := .manifest, paths, references := entryPaths base manifest.references }

/-- The sources that a text names, without the file to leave out. -/
def resolve (d : Disk) (input : String) (exclude : Option FilePath) (kinds : FileKinds) :
    Except Problem Sources :=
  let input := Text.trim input
  if input.isEmpty then .error .blank
  else if Text.hasChar ',' input then ofList d input exclude kinds
  else
    let p : FilePath := ⟨input⟩
    if kinds.isManifest p then ofManifest d p exclude kinds
    else if kinds.isSource p then .ok { form := .file, paths := [p], references := [] }
    else .error (.unknownForm input kinds)

/-- Sources given as paths. -/
def ofPaths (paths : List FilePath) : Sources := { form := .list, paths, references := [] }

/-- The source files that are not there. -/
def missing (d : Disk) (s : Sources) : List FilePath := s.paths.filter fun p => !d.isFile p

/-- Whether two selections of sources are the same, path by path. -/
def same (s t : Sources) : Bool :=
  s.form == t.form && samePaths s.paths t.paths && samePaths s.references t.references
where
  /-- Whether two lists of paths name the same files in the same way. -/
  samePaths (ps qs : List FilePath) : Bool :=
    ps.map FilePath.components == qs.map FilePath.components

end Sources

end Expansion
