import Expansion.Configuration
import Expansion.Diagnostic
import Expansion.Text.Quoted

/-!
# Why a build fails

Each way in which a build may fail, with what is known about it. `Failure.message` puts it in words;
the kinds that a user can act on have a number in front.
-/

namespace Expansion

/-- Why a build fails. -/
inductive Failure where
  /-- The sources cannot be told, or their manifest cannot be read. -/
  | sources (problem : Sources.Problem)
  /-- Sources that are not there. -/
  | missingSources (paths : List FilePath)
  /-- What the compiler objects to. -/
  | compilation (diagnostics : List Diagnostic)
  /-- An output path without the extension that the mode writes. -/
  | outputPath (path : FilePath) (mode : OutputMode) (expected : String)
  /-- A text that names no output mode. -/
  | outputMode (text : String)
  /-- An expander that gave up on a type. -/
  | expansion (expander typeName message : String)
  /-- A driver program that cannot be run or does not keep to the protocol. -/
  | driver (reason : String)
  /-- An operation on files, and the scratch path that it was about, if any. -/
  | disk (error : Disk.Error) (path? : Option FilePath)

namespace Failure

/-- A compilation that fails with one message and no place. -/
def compilationMessage (message : String) : Failure := .compilation [Diagnostic.unlocated message]

/-- The error of an operation on files in words. -/
def diskMessage (error : Disk.Error) : Option FilePath → String
  | none => error.message
  | some p => error.message ++ " at path " ++ Text.quoted p.text

/-- The failure in words. -/
def message : Failure → String
  | .sources problem =>
    (if problem.isManifest then "manifest error: " else "E2001: cannot resolve sources: ")
      ++ problem.message
  | .missingSources paths =>
    "E2002: missing source files: " ++ Text.join ", " (paths.map FilePath.text)
  | .compilation diagnostics =>
    "E2010: compilation failed:\n" ++ Diagnostic.describeAll diagnostics
  | .outputPath path mode expected =>
    "E2020: output path '" ++ path.text ++ "' is not valid for " ++ mode.name
      ++ " mode (expected a ." ++ expected ++ " file)"
  | .outputMode text =>
    "E2021: unknown output mode '" ++ text ++ "' (expected embed, artifact, or source)"
  | .expansion expander typeName message =>
    "E2030: expander '" ++ expander ++ "' failed for type '" ++ typeName ++ "': " ++ message
  | .driver reason => "E2040: compiler driver error: " ++ reason
  | .disk error path? => "I/O error: " ++ diskMessage error path?

end Failure

end Expansion
