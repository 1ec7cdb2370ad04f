import Expansion.Text.Quoted
import Expansion.Text.Split

/-!
# Catalogs

A catalog lists what a compiled module declares: its types and functions, each with the attributes
that were put on it.

* An attribute either says that a type may be expanded (`expandable`), or that a function expands
  types (`expander`), or it means nothing here (`other`).
* **A template is the meeting point**: a type asks for templates and an expander offers one.
* The short name of a declaration is what follows the last separator in its full name, where `.` and
  `::` separate (`shortName`).
-/

namespace Expansion

/-- A type in a signature. -/
inductive TypeRef where
  /-- The description of a type. -/
  | typeDescriptor
  | string
  | unit
  | named (name : String)
  deriving DecidableEq, Repr

/-- Where a function is declared. -/
inductive Scope where
  /-- In the module itself, so that it can be called without an instance. -/
  | module
  /-- In a type, whose instance it needs. -/
  | member
  deriving DecidableEq, Repr

/-- A template that a type may be expanded by. An explicit request also lets those expanders in that
work only when they are asked for. -/
structure TemplateRequest where
  name : String
  explicit : Bool
  deriving DecidableEq, Repr

/-- What is said about a type or a function. -/
inductive Attribute where
  | expandable (templates : List TemplateRequest)
  | expander (template : String) (explicitUse : Bool)
  | other (name : String)
  deriving DecidableEq, Repr

/-- A type of a module. -/
structure TypeInfo where
  fullName : String
  attributes : List Attribute
  deriving DecidableEq, Repr

/-- A parameter of a function. -/
structure Param where
  name : String
  type : TypeRef
  deriving DecidableEq, Repr

/-- A function of a module. -/
structure FunctionInfo where
  fullName : String
  scope : Scope
  params : List Param
  returns : TypeRef
  attributes : List Attribute
  deriving DecidableEq, Repr

/-- The types and functions of a module, in the compiler's order. -/
structure Catalog where
  types : List TypeInfo
  functions : List FunctionInfo
  deriving DecidableEq, Repr

/-- The catalog of a module that declares nothing. -/
def Catalog.empty : Catalog := ⟨[], []⟩

/-- The name without what qualifies it. -/
def shortName (fullName : String) : String := Text.afterLast "." (Text.afterLast "::" fullName)

/-- A type without attributes. -/
def TypeInfo.bare (fullName : String) : TypeInfo := ⟨fullName, []⟩

/-- A function that makes a text from the description of a type. -/
def FunctionInfo.generator (fullName : String) (attributes : List Attribute) : FunctionInfo where
  fullName := fullName
  scope := .module
  params := [⟨"ty", .typeDescriptor⟩]
  returns := .string
  attributes := attributes

/-- What a function of a module takes and gives. -/
inductive Value where
  | typeDescriptor (type : TypeInfo)
  | string (text : String)
  | unit
  deriving DecidableEq, Repr

/-- Why a call gives nothing. -/
structure Fault where
  message : String
  deriving DecidableEq, Repr

/-! ## Descriptions

How values are shown where one stands in the place of another: as a name with its fields in braces,
or with its argument in parentheses. -/

/-- A name with fields in braces. -/
def describeFields (name : String) (fields : List (String × String)) : String :=
  Text.join ""
    [name, " \x7b ", Text.join ", " (fields.map fun (key, value) => key ++ ": " ++ value), " \x7d"]

/-- Items in brackets. -/
def describeList (items : List String) : String := "[" ++ Text.join ", " items ++ "]"

/-- A truth value in words. -/
def describeFlag (b : Bool) : String := if b then "true" else "false"

/-- The description of a template request. -/
def TemplateRequest.describe (r : TemplateRequest) : String :=
  describeFields "TemplateRequest"
    [("name", Text.quoted r.name), ("explicit", describeFlag r.explicit)]

/-- The description of an attribute. -/
def Attribute.describe : Attribute → String
  | .expandable templates =>
    describeFields "Expandable"
      [("templates", describeList (templates.map TemplateRequest.describe))]
  | .expander template explicitUse =>
    describeFields "Expander"
      [("template", Text.quoted template), ("explicit_use", describeFlag explicitUse)]
  | .other name => describeFields "Other" [("name", Text.quoted name)]

/-- The description of a type. -/
def TypeInfo.describe (t : TypeInfo) : String :=
  describeFields "TypeInfo"
    [("full_name", Text.quoted t.fullName),
      ("attributes", describeList (t.attributes.map Attribute.describe))]

/-- The description of a value. -/
def Value.describe : Value → String
  | .typeDescriptor type => "TypeDescriptor(" ++ type.describe ++ ")"
  | .string text => "String(" ++ Text.quoted text ++ ")"
  | .unit => "Unit"

end Expansion
