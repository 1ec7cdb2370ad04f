import Expansion.Catalog.Basic
import Expansion.Diagnostic
import Expansion.Text.Blank

/-!
# Lines of an outline

An outline declares types and expanders line by line. The first word of a line says what the line
is, and a line that begins with no such word says nothing, so any text may stand in an outline.

* `type model.Person Show Eq!` is a type that asks for templates, explicitly where a mark follows;
* `expander gen.show Show = body` is an expander of a template with the text that it makes, and
  `expander!` is one that works only when asked for;
* `malformed gen.bad Show` is marked as an expander and has one parameter too many;
* `fail gen.show model.Person` makes an expander give up on a type;
* `error words` and `warning words` are what the compiler says about the line.
-/

namespace Expansion.Outline

/-- What a line says. -/
inductive Line where
  | type (name : String) (templates : List TemplateRequest)
  | expander (name template : String) (explicitUse : Bool) (body : Option String)
  | malformed (name template : String)
  | failure (function typeName : String)
  | error (message : String)
  | warning (message : String)
  /-- Any other line. -/
  | other
  deriving DecidableEq, Repr

/-- The text of an expander that declares none. -/
def defaultBody : String := "// \x7bname\x7d for \x7btype\x7d"

/-- The request that a word of a type's line makes. -/
def requestOf (word : String) : TemplateRequest :=
  match Text.stripSuffix? "!" word with
  | some name => ⟨name, true⟩
  | none => ⟨word, false⟩

namespace Line

/-- What a line with these words says, where `body` is what follows the equals sign. -/
def ofWords (words : List String) (body : Option String) : Line :=
  match words with
  | "type" :: name :: templates => .type name (templates.map requestOf)
  | ["expander", name, template] => .expander name template false body
  | ["expander!", name, template] => .expander name template true body
  | ["malformed", name, template] => .malformed name template
  | ["fail", function, typeName] => .failure function typeName
  | "error" :: message => .error (Text.join " " message)
  | "warning" :: message => .warning (Text.join " " message)
  | _ => .other

/-- What a line says. -/
def parse (text : String) : Line :=
  match Text.splitOnce " = " text with
  | some (head, body) => ofWords (Text.words head) (some body)
  | none => ofWords (Text.words text) none

/-- The type that a line declares. -/
def type? : Line → Option TypeInfo
  | .type name templates => some ⟨name, [.expandable templates]⟩
  | _ => none

/-- The function that a line declares. -/
def function? : Line → Option FunctionInfo
  | .expander name template explicitUse _ =>
    some (FunctionInfo.generator name [.expander template explicitUse])
  | .malformed name template =>
    let f := FunctionInfo.generator name [.expander template false]
    some { f with params := f.params ++ [⟨"extra", .string⟩] }
  | _ => none

/-- The text of the expander that a line declares. -/
def body? : Line → Option (String × String)
  | .expander name _ _ body => some (name, body.getD defaultBody)
  | _ => none

/-- The pair that a line makes fail. -/
def failure? : Line → Option (String × String)
  | .failure function typeName => some (function, typeName)
  | _ => none

/-- What the compiler says about a line. -/
def remark? (strict : Bool) : Line → Option (Severity × String)
  | .error message => some (.error, message)
  | .warning message => some (if strict then .error else .warning, message)
  | _ => none

end Line

end Expansion.Outline
