import Expansion.Catalog.Basic
import Expansion.Diagnostic
import Expansion.Json.Decode

/-!
# The wire format

How a compiler's report travels: a JSON object with diagnostics and, if the compilation went well, a
catalog.

* Every `encode` writes all fields. **Every `decode` takes what its `encode` writes**, in any order
  of the members, without those that have a default and hold it, and with members of other names.
* What has several kinds (`TypeRef`, `Attribute`) has its kind as a member `kind`.
-/

namespace Expansion

open Json

/-- What a compiler reports: the catalog is there if the compilation went well. -/
structure Report where
  diagnostics : List Diagnostic
  catalog : Option Catalog
  deriving DecidableEq, Repr

/-- The report that says nothing. -/
def Report.empty : Report := ⟨[], none⟩

/-! ## Encoding -/

/-- A list of values. -/
def encodeList {α : Type} (encode : α → Json) (values : List α) : Json :=
  .array (values.map encode)

/-- A type in a signature, as JSON. -/
def TypeRef.encode : TypeRef → Json
  | .typeDescriptor => .object [(tagName, .string "type_descriptor")]
  | .string => .object [(tagName, .string "string")]
  | .unit => .object [(tagName, .string "unit")]
  | .named name => .object [(tagName, .string "named"), ("name", .string name)]

/-- The word for a scope. -/
def Scope.name : Scope → String
  | .module => "module"
  | .member => "instance"

/-- A template request, as JSON. -/
def TemplateRequest.encode (r : TemplateRequest) : Json :=
  .object [("name", .string r.name), ("explicit", .bool r.explicit)]

/-- An attribute, as JSON. -/
def Attribute.encode : Attribute → Json
  | .expandable templates =>
    .object [(tagName, .string "expandable"),
      ("templates", encodeList TemplateRequest.encode templates)]
  | .expander template explicitUse =>
    .object [(tagName, .string "expander"), ("template", .string template),
      ("explicit_use", .bool explicitUse)]
  | .other name => .object [(tagName, .string "other"), ("name", .string name)]

/-- A type, as JSON. -/
def TypeInfo.encode (t : TypeInfo) : Json :=
  .object [("full_name", .string t.fullName),
    ("attributes", encodeList Attribute.encode t.attributes)]

/-- A parameter, as JSON. -/
def Param.encode (p : Param) : Json :=
  .object [("name", .string p.name), ("ty", p.type.encode)]

/-- A function, as JSON. -/
def FunctionInfo.encode (f : FunctionInfo) : Json :=
  .object [("full_name", .string f.fullName), ("scope", .string f.scope.name),
    ("params", encodeList Param.encode f.params), ("returns", f.returns.encode),
    ("attributes", encodeList Attribute.encode f.attributes)]

/-- A catalog, as JSON. -/
def Catalog.encode (c : Catalog) : Json :=
  .object [("types", encodeList TypeInfo.encode c.types),
    ("functions", encodeList FunctionInfo.encode c.functions)]

/-- The word for a severity. -/
def Severity.name : Severity → String
  | .warning => "warning"
  | .error => "error"

/-- A diagnostic, as JSON. -/
def Diagnostic.encode (d : Diagnostic) : Json :=
  .object [("severity", .string d.severity.name), ("file", .string d.file),
    ("start_line", .natural d.startLine.toNat), ("start_column", .natural d.startColumn.toNat),
    ("end_line", .natural d.endLine.toNat), ("end_column", .natural d.endColumn.toNat),
    ("message", .string d.message)]

/-- A report, as JSON. -/
def Report.encode (r : Report) : Json :=
  .object [("diagnostics", encodeList Diagnostic.encode r.diagnostics),
    ("catalog", match r.catalog with | some c => c.encode | none => .null)]

/-! ## Decoding -/

/-- The fields of a template request. -/
def TemplateRequest.fields : List Field := [.required "name" asText, .defaulted "explicit" asFlag]

/-- A template request inside an attribute. -/
def TemplateRequest.decode : Decoder TemplateRequest := fun j => do
  checkContent fields j
  let name ← readField fields "name" asText j
  let explicit ← readFieldOr false fields "explicit" asFlag j
  .ok { name, explicit }

/-- The fields of the attribute that lets a type be expanded. -/
def Attribute.expandableFields : List Field :=
  [.required "templates" (asList TemplateRequest.decode)]

/-- The fields of the attribute that makes a function an expander. -/
def Attribute.expanderFields : List Field :=
  [.required "template" asText, .defaulted "explicit_use" asFlag]

/-- The fields of what has a name and nothing else. -/
def nameFields : List Field := [.required "name" asText]

/-- An attribute. -/
def Attribute.decode : Decoder Attribute := fun j => do
  let (kind, content) ← asTagged (fun kind => ["expandable", "expander", "other"].contains kind) j
  if kind == "expandable" then do
    checkContent expandableFields content
    let templates ← readField expandableFields "templates" (asList TemplateRequest.decode) content
    .ok (.expandable templates)
  else if kind == "expander" then do
    checkContent expanderFields content
    let template ← readField expanderFields "template" asText content
    let explicitUse ← readFieldOr false expanderFields "explicit_use" asFlag content
    .ok (.expander template explicitUse)
  else do
    checkContent nameFields content
    let name ← readField nameFields "name" asText content
    .ok (.other name)

/-- A type in a signature. -/
def TypeRef.decode : Decoder TypeRef := fun j => do
  let (kind, content) ←
    asTagged (fun kind => ["type_descriptor", "string", "unit", "named"].contains kind) j
  if kind == "named" then do
    checkContent nameFields content
    let name ← readField nameFields "name" asText content
    .ok (.named name)
  else do
    checkNoContent content
    .ok (if kind == "type_descriptor" then .typeDescriptor
      else if kind == "string" then .string
      else .unit)

/-- A scope. -/
def Scope.decode : Decoder Scope := asName [("module", .module), ("instance", .member)]

/-- The fields of a type. -/
def TypeInfo.fields : List Field :=
  [.required "full_name" asText, .defaulted "attributes" (asList Attribute.decode)]

/-- A type. -/
def TypeInfo.decode : Decoder TypeInfo := fun j => do
  checkRecord fields j
  let fullName ← readField fields "full_name" asText j
  let attributes ← readFieldOr [] fields "attributes" (asList Attribute.decode) j
  .ok { fullName, attributes }

/-- The fields of a parameter. -/
def Param.fields : List Field := [.required "name" asText, .required "ty" TypeRef.decode]

/-- A parameter. -/
def Param.decode : Decoder Param := fun j => do
  checkRecord fields j
  let name ← readField fields "name" asText j
  let type ← readField fields "ty" TypeRef.decode j
  .ok { name, type }

/-- The fields of a function. -/
def FunctionInfo.fields : List Field :=
  [.required "full_name" asText, .defaulted "scope" Scope.decode,
    .defaulted "params" (asList Param.decode), .required "returns" TypeRef.decode,
    .defaulted "attributes" (asList Attribute.decode)]

/-- A function. -/
def FunctionInfo.decode : Decoder FunctionInfo := fun j => do
  checkRecord fields j
  let fullName ← readField fields "full_name" asText j
  let scope ← readFieldOr .module fields "scope" Scope.decode j
  let params ← readFieldOr [] fields "params" (asList Param.decode) j
  let returns ← readField fields "returns" TypeRef.decode j
  let attributes ← readFieldOr [] fields "attributes" (asList Attribute.decode) j
  .ok { fullName, scope, params, returns, attributes }

/-- The fields of a catalog. -/
def Catalog.fields : List Field :=
  [.defaulted "types" (asList TypeInfo.decode), .defaulted "functions" (asList FunctionInfo.decode)]

/-- A catalog. -/
def Catalog.decode : Decoder Catalog := fun j => do
  checkRecord fields j
  let types ← readFieldOr [] fields "types" (asList TypeInfo.decode) j
  let functions ← readFieldOr [] fields "functions" (asList FunctionInfo.decode) j
  .ok { types, functions }

/-- A severity. -/
def Severity.decode : Decoder Severity := asName [("warning", .warning), ("error", .error)]

/-- The fields of a diagnostic. -/
def Diagnostic.fields : List Field :=
  [.required "severity" Severity.decode, .required "file" asText,
    .required "start_line" asPosition, .required "start_column" asPosition,
    .required "end_line" asPosition, .required "end_column" asPosition,
    .required "message" asText]

/-- A diagnostic. -/
def Diagnostic.decode : Decoder Diagnostic := fun j => do
  checkRecord fields j
  let severity ← readField fields "severity" Severity.decode j
  let file ← readField fields "file" asText j
  let startLine ← readField fields "start_line" asPosition j
  let startColumn ← readField fields "start_column" asPosition j
  let endLine ← readField fields "end_line" asPosition j
  let endColumn ← readField fields "end_column" asPosition j
  let message ← readField fields "message" asText j
  .ok { severity, file, startLine, startColumn, endLine, endColumn, message }

/-- The fields of a report. -/
def Report.fields : List Field :=
  [.defaulted "diagnostics" (asList Diagnostic.decode),
    .defaulted "catalog" (asOptional Catalog.decode)]

/-- A report. -/
def Report.decode : Decoder Report := fun j => do
  checkRecord fields j
  let diagnostics ← readFieldOr [] fields "diagnostics" (asList Diagnostic.decode) j
  let catalog ← readFieldOr none fields "catalog" (asOptional Catalog.decode) j
  .ok { diagnostics, catalog }

end Expansion
