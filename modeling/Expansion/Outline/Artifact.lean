import Expansion.Catalog.Wire
import Expansion.Json.Printer
import Expansion.Json.Reader
import Expansion.Outline.Line

/-!
# Artifacts of outlines

What the compiler of outlines writes: the catalog, the text of each expander, the pairs that fail,
and the sources. The file is a JSON document with a line for every member.

* An artifact is read off the lines of its sources (`ofTexts`), each part by itself, so a line that
  says nothing adds nothing but its text.
* **The texts of expanders are kept in the order of their names**, and the last one that is declared
  for a name counts.
-/

namespace Expansion.Outline

/-- Texts by name, in the order of names. -/
abbrev Bodies := List (String × String)

/-- The texts with one more, in the place of an earlier one for the name. -/
def Bodies.insert (name body : String) : Bodies → Bodies
  | [] => [(name, body)]
  | (other, old) :: rest =>
    if name = other then (name, body) :: rest
    else if name < other then (name, body) :: (other, old) :: rest
    else (other, old) :: Bodies.insert name body rest

/-- The texts of some declarations, where a later one counts. -/
def Bodies.ofList (declared : List (String × String)) : Bodies :=
  declared.foldl (fun bodies (name, body) => Bodies.insert name body bodies) []

/-- What the compiler of outlines writes. -/
structure Artifact where
  catalog : Catalog
  bodies : Bodies
  failures : List (String × String)
  sources : List String
  deriving DecidableEq, Repr

namespace Artifact

/-- The artifact of lines and the texts that they stand in. -/
def ofLines (lines : List Line) (texts : List String) : Artifact where
  catalog := ⟨lines.filterMap Line.type?, lines.filterMap Line.function?⟩
  bodies := Bodies.ofList (lines.filterMap Line.body?)
  failures := lines.filterMap Line.failure?
  sources := texts

/-- The lines of a text. -/
def linesOf (text : String) : List Line := (Text.lines text).map Line.parse

/-- The artifact of some sources. -/
def ofTexts (texts : List String) : Artifact := ofLines (texts.flatMap linesOf) texts

/-- The artifact as JSON. -/
def encode (a : Artifact) : Json :=
  .object
    [("catalog", a.catalog.encode),
      ("bodies", .object (a.bodies.map fun (name, body) => (name, .string body))),
      ("failures", encodeList (fun (f, t) => .array [.string f, .string t]) a.failures),
      ("sources", encodeList Json.string a.sources)]

/-- The text of an artifact file. -/
def toText (a : Artifact) : String := a.encode.pretty

open Json in
/-- The fields of an artifact. -/
def fields : List Field :=
  [.required "catalog" Catalog.decode, .required "bodies" (asMembers asText),
    .required "failures" (asList (asPair asText asText)), .required "sources" (asList asText)]

open Json in
/-- The artifact in a JSON document. -/
def decode : Decoder Artifact := fun j => do
  checkRecord fields j
  let catalog ← readField fields "catalog" Catalog.decode j
  let bodies ← readField fields "bodies" (asMembers asText) j
  let failures ← readField fields "failures" (asList (asPair asText asText)) j
  let sources ← readField fields "sources" (asList asText) j
  .ok { catalog, bodies := Bodies.ofList bodies, failures, sources }

end Artifact

end Expansion.Outline
