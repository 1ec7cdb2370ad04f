import Expansion.Log.Filter
import Expansion.Text.Lowercase

/-!
# Log settings

How a program logs: under which service name, from which level on, and for whom the lines are.
Nothing in the settings changes what a build does.
-/

namespace Expansion.Log

/-- For whom the lines of a log are. -/
inductive Format where
  /-- For a program: an object on each line. -/
  | json
  /-- For a reader. -/
  | pretty
  deriving DecidableEq, Repr

namespace Format

/-- The name of a format. -/
def name : Format → String
  | json => "json"
  | pretty => "pretty"

/-- The format that a text names; letter case does not matter. -/
def parse? (s : String) : Option Format :=
  [json, pretty].find? fun format => Text.lowercase s == format.name

end Format

/-- How a program logs. -/
structure Settings where
  service : String
  level : String
  format : Format
  deriving DecidableEq, Repr

namespace Settings

/-- The settings in use where nothing else is said. -/
def standard : Settings where
  service := "typexpand"
  level := "warn"
  format := .pretty

/-- The span of the whole run of a program. -/
def rootSpan (s : Settings) : Span where
  level := .info
  area := .rootSpan
  name := "typexpand"
  fields := [("service", .text s.service)]

/-- What a program logs first. -/
def started (s : Settings) : Event where
  level := .debug
  area := .start
  milestone := none
  message := "logging initialized"
  fields := [("service", .text s.service), ("level", .text s.level)]
  spans := []

/-- The filter for a run, and the directives that are not understood: the environment's filter if
there is one and all of it is understood, else the one that the level writes. -/
def filter (s : Settings) (environment : Option String) :
    Filter × List (String × DirectiveFault) :=
  match environment.bind Filter.parse? with
  | some f => (f, [])
  | none => Filter.parseKnown s.level

end Settings

end Expansion.Log
