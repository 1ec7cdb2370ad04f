import Expansion.Text.Split

/-!
# Diagnostics

What a compiler says about a place in a source. Errors stop a build and warnings never do.
-/

namespace Expansion

/-- How grave a diagnostic is. -/
inductive Severity where
  | warning
  | error
  deriving DecidableEq, Repr

/-- What a compiler says about the text from a first to a last place. -/
structure Diagnostic where
  severity : Severity
  file : String
  startLine : UInt32
  startColumn : UInt32
  endLine : UInt32
  endColumn : UInt32
  message : String
  deriving DecidableEq, Repr

namespace Diagnostic

/-- An error that belongs to no place. -/
def unlocated (message : String) : Diagnostic where
  severity := .error
  file := "<unknown>"
  startLine := 0
  startColumn := 0
  endLine := 0
  endColumn := 0
  message := message

/-- Whether the diagnostic stops a build. -/
def isError (d : Diagnostic) : Bool := d.severity == .error

/-- A place in a text. -/
def showPlace (line column : UInt32) : String :=
  "(" ++ toString line.toNat ++ "," ++ toString column.toNat ++ ")"

/-- The diagnostic on one line, unless its message has more. -/
def describe (d : Diagnostic) : String :=
  d.file ++ " " ++ showPlace d.startLine d.startColumn ++ "-" ++ showPlace d.endLine d.endColumn
    ++ " " ++ d.message

/-- Diagnostics, each on a line of its own. -/
def describeAll (ds : List Diagnostic) : String := Text.join "\n" (ds.map Diagnostic.describe)

end Diagnostic

end Expansion
