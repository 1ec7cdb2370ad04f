import Expansion.Catalog.CompiledModule

/-!
# Surveys

A survey of a module says which of its types may be expanded and which of its functions expand them.

* A type belongs to the survey if an attribute lets it be expanded. **Its templates are those of all
  such attributes together** (`templatesOf`): a template is explicit if one request for it is.
* A function belongs to it if its first expander attribute is on a function of the right shape
  (`misshape?`): in module scope, from the description of a type to a text.
* Both lists are in the order of full names, and equal names keep the catalog's order.
* **Nothing is called**: an expander is bound to its function's entry point (`bind`) and no more.
-/

namespace Expansion

/-- The templates that a type asks for, in the order of names, and whether each is explicit. -/
abbrev Templates := List (String × Bool)

/-- The templates with one more request. -/
def Templates.insert (name : String) (explicit : Bool) : Templates → Templates
  | [] => [(name, explicit)]
  | (other, old) :: rest =>
    if name = other then (other, old || explicit) :: rest
    else if name < other then (name, explicit) :: (other, old) :: rest
    else (other, old) :: Templates.insert name explicit rest

/-- A type that may be expanded. -/
structure ExpandableType where
  info : TypeInfo
  templates : Templates
  deriving DecidableEq, Repr

namespace ExpandableType

/-- The full name of the type. -/
def name (t : ExpandableType) : String := t.info.fullName

/-- Whether the type asks for a template. -/
def accepts (t : ExpandableType) (template : String) : Bool := (t.templates.lookup template).isSome

/-- Whether the type asks for a template explicitly. -/
def requests (t : ExpandableType) (template : String) : Bool :=
  (t.templates.lookup template).getD false

end ExpandableType

/-- A function that makes a text for a type. -/
structure Expander (σ : Type) where
  name : String
  template : String
  explicitUse : Bool
  call : TypeInfo → StateM σ (Except Fault String)

/-- What a module offers. -/
structure Survey (σ : Type) where
  types : List ExpandableType
  expanders : List (Expander σ)

/-- How a function differs from the shape of an expander. -/
inductive Misshape where
  | notModuleScope
  | notString
  | notDescriptor
  | notOneParameter
  deriving DecidableEq, Repr

/-- The difference in words. -/
def Misshape.message : Misshape → String
  | .notModuleScope => "not declared at module scope"
  | .notString => "does not return a string"
  | .notDescriptor => "parameter is not a type descriptor"
  | .notOneParameter => "does not take exactly one parameter"

namespace Survey

variable {σ : Type}

/-- The requests of the attributes that let a type be expanded, or `none` if there are no such
attributes. -/
def requestsOf? (attributes : List Attribute) : Option (List TemplateRequest) :=
  attributes.foldr (fun tag later =>
    match tag with
    | .expandable templates => some (templates ++ later.getD [])
    | _ => later) none

/-- The templates of some requests. -/
def templatesOf (requests : List TemplateRequest) : Templates :=
  requests.foldl (fun templates request => Templates.insert request.name request.explicit templates)
    []

/-- The type as one that may be expanded, if it is. -/
def expandable? (info : TypeInfo) : Option ExpandableType :=
  (requestsOf? info.attributes).map fun requests => ⟨info, templatesOf requests⟩

/-- The template and the use of the first expander attribute. -/
def expanderTag? (attributes : List Attribute) : Option (String × Bool) :=
  attributes.findSome? fun
    | .expander template explicitUse => some (template, explicitUse)
    | _ => none

/-- How a function differs from the shape of an expander, if it does. -/
def misshape? (f : FunctionInfo) : Option Misshape :=
  if f.scope ≠ .module then some .notModuleScope
  else if f.returns ≠ .string then some .notString
  else
    match f.params with
    | [param] => if param.type = .typeDescriptor then none else some .notDescriptor
    | _ => some .notOneParameter

/-- The text that an entry point makes for a type. -/
def bind (name : String) (entry : Entry σ) (type : TypeInfo) : StateM σ (Except Fault String) := do
  match ← entry [.typeDescriptor type] with
  | .ok (.string text) => pure (.ok text)
  | .ok other =>
    pure (.error ⟨name ++ " returned " ++ other.describe ++ " instead of a string"⟩)
  | .error fault => pure (.error fault)

/-- The function as an expander, if it is one. -/
def expander? (f : FunctionInfo × Entry σ) : Option (Expander σ) :=
  match expanderTag? f.1.attributes, misshape? f.1 with
  | some (template, explicitUse), none =>
    some { name := f.1.fullName, template, explicitUse, call := bind f.1.fullName f.2 }
  | _, _ => none

/-- The functions that would be expanders but for their shape. -/
def skipped (m : CompiledModule σ) : List (String × Misshape) :=
  m.functions.filterMap fun (f, _) =>
    match expanderTag? f.attributes, misshape? f with
    | some _, some misshape => some (f.fullName, misshape)
    | _, _ => none

/-- The survey of a module. -/
def ofModule (m : CompiledModule σ) : Survey σ where
  types := (m.types.filterMap expandable?).mergeSort fun s t => decide (s.name ≤ t.name)
  expanders := (m.functions.filterMap expander?).mergeSort fun e f => decide (e.name ≤ f.name)

end Survey

/-- The description of an expander. -/
def Expander.describe {σ : Type} (e : Expander σ) : String :=
  Text.join "" ["ExpanderFunction \x7b name: ", Text.quoted e.name, ", template: ",
    Text.quoted e.template, ", explicit_use: ", describeFlag e.explicitUse, ", .. \x7d"]

end Expansion
