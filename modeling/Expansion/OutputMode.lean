import Expansion.Text.Blank
import Expansion.Text.Lowercase

/-!
# Where generated text goes

* `embed` compiles it with the sources into a module that is handed back;
* `artifact` compiles it into a module that is written to a file;
* `source` writes the text itself to a file.

**`parse?` reads every mode's `name`**, and a short form of each, whatever the letter case and the
blanks around it.
-/

namespace Expansion

/-- Where generated text goes. -/
inductive OutputMode where
  | embed
  | artifact
  | source
  deriving DecidableEq, Repr

namespace OutputMode

/-- The full name of a mode. -/
def name : OutputMode → String
  | embed => "embed-in-host"
  | artifact => "external-artifact"
  | source => "external-source"

/-- The short name of a mode. -/
def shortName : OutputMode → String
  | embed => "embed"
  | artifact => "artifact"
  | source => "source"

/-- The modes. -/
def all : List OutputMode := [embed, artifact, source]

/-- The mode that a text names. -/
def parse? (s : String) : Option OutputMode :=
  let wanted := Text.lowercase (Text.trim s)
  all.find? fun mode => wanted == mode.shortName || wanted == mode.name

end OutputMode

end Expansion
