import Expansion.Yaml.Node

/-!
# Project manifests

A manifest is a YAML mapping with two lists of texts, the sources of a project and the references
that every build of it needs. Either may be left out, and so may the whole document.

* **Any scalar is a text**, whatever else YAML would take it for: `1` and `null` are file names
  here.
* A list may be left empty; a list given twice is refused, and members of other names are ignored.
-/

namespace Expansion

open Yaml

/-- The sources and references that a project declares, as they are written. -/
structure Manifest where
  sources : List String
  references : List String
  deriving DecidableEq, Repr

namespace Manifest

/-- The manifest that declares nothing. -/
def empty : Manifest := ⟨[], []⟩

/-- The text of a scalar. -/
def textOf? (d : Document) (node : Node) : Option String :=
  match d.target node with
  | .scalar text _ => some text
  | _ => none

/-- The texts of a list; nothing at all is an empty list. -/
def listOf? (d : Document) (node : Node) : Option (List String) :=
  match d.target node with
  | .sequence items => items.mapM (textOf? d)
  | .scalar text isPlain => if text.isEmpty && isPlain then some [] else none
  | _ => none

/-- The list of a name among pairs, which may have it at most once. -/
def listNamed? (d : Document) (name : String) (pairs : List (Node × Node)) :
    Option (List String) :=
  match pairs.filter fun (key, _) => textOf? d key == some name with
  | [] => some []
  | [(_, value)] => listOf? d value
  | _ => none

/-- The manifest in a document. -/
def ofDocument? (d : Document) : Option Manifest :=
  match d.target d.root with
  | .mapping pairs => do
    if pairs.all fun (key, _) => (textOf? d key).isSome then
      let sources ← listNamed? d "sources" pairs
      let references ← listNamed? d "references" pairs
      some { sources, references }
    else none
  | .scalar text isPlain => if text.isEmpty && isPlain then some empty else none
  | _ => none

/-- The manifest in a text, or why there is none. -/
def parse (content : String) : Except String Manifest :=
  match Document.ofText content with
  | .error problem => .error problem
  | .ok none => .ok empty
  | .ok (some document) =>
    match ofDocument? document with
    | some manifest => .ok manifest
    | none => .error "expected lists of texts named sources and references"

end Manifest

end Expansion
