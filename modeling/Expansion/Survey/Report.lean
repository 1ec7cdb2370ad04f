import Expansion.Json.Printer
import Expansion.Survey.Basic

/-!
# Reports of a survey

What a survey found, without the entry points, as lines for a reader or as JSON for a program.

* In lines, an exclamation mark stands behind an explicit template and behind an expander that works
  only when asked for.
* **The JSON says all that decides which pairs run**: templates with their marks, and expanders with
  their template and use.
-/

namespace Expansion

/-- A survey without its entry points. -/
structure SurveyReport where
  types : List (String × Templates)
  expanders : List (String × String × Bool)
  deriving DecidableEq, Repr

namespace SurveyReport

/-- The report of a survey. -/
def ofSurvey {σ : Type} (s : Survey σ) : SurveyReport where
  types := s.types.map fun t => (t.name, t.templates)
  expanders := s.expanders.map fun e => (e.name, e.template, e.explicitUse)

/-- A name, marked if the flag is set. -/
def marked (name : String) (flag : Bool) : String := if flag then name ++ "!" else name

/-- The report in lines. -/
def toText (r : SurveyReport) : String :=
  Text.join "" (
    ["types (" ++ toString r.types.length ++ "):\n"]
    ++ r.types.map (fun (name, templates) =>
      "  " ++ name ++ " [" ++ Text.join ", " (templates.map fun (t, explicit) => marked t explicit)
        ++ "]\n")
    ++ ["expanders (" ++ toString r.expanders.length ++ "):\n"]
    ++ r.expanders.map (fun (name, template, explicitUse) =>
      "  " ++ name ++ " -> " ++ marked template explicitUse ++ "\n"))

/-- The report as a JSON document. -/
def toJson (r : SurveyReport) : Json :=
  .object
    [("types", .array (r.types.map fun (name, templates) =>
        .object [("name", .string name),
          ("templates", .array (templates.map fun (template, explicit) =>
            .object [("name", .string template), ("explicit", .bool explicit)]))])),
      ("expanders", .array (r.expanders.map fun (name, template, explicitUse) =>
        .object [("name", .string name), ("template", .string template),
          ("explicit_use", .bool explicitUse)]))]

/-- The report as JSON, a line for every member. -/
def toJsonText (r : SurveyReport) : String := r.toJson.pretty

end SurveyReport

end Expansion
