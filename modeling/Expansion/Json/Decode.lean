import Expansion.Json.Reader

/-!
# Values out of JSON

Readers that take a tree to a value of the library, or to the first fault of the document.

* Scalars: `asText`, `asFlag`, `asPosition` (a number of 32 bits), `asName` (one of some names).
* `asList`, `asMembers` and `asPair` read items in order; **the first fault wins**.
* **`Field`** and `recordFault?` describe a record: an object of fields or an array of their values
  in order. A record is checked once from front to back; after that each field is looked up by name
  (`readField`, `readFieldOr`), so the order of an object's members cannot matter to its value.
* A tagged value (`asTagged`) is read into memory first, so inside it every wrong shape is a
  mismatch and nothing else.
-/

namespace Expansion.Json

/-- Reads a value of type `α` or reports the document's first fault. -/
abbrev Decoder (α : Type) := Json → Except Fault α

/-- A text. -/
def asText : Decoder String
  | .string s => .ok s
  | j => .error (otherShape j)

/-- A truth value. -/
def asFlag : Decoder Bool
  | .bool b => .ok b
  | j => .error (otherShape j)

/-- A number that 32 bits hold. -/
def asPosition : Decoder UInt32
  | .natural n => if n < UInt32.size then .ok (UInt32.ofNat n) else .error .mismatched
  | j => .error (otherShape j)

/-- Nothing, or a value. -/
def asOptional {α : Type} (decode : Decoder α) : Decoder (Option α)
  | .null => .ok none
  | j => (decode j).map some

/-- The values of items, in order, up to the first fault. -/
def decodeAll {α : Type} (decode : Decoder α) : List Json → Except Fault (List α)
  | [] => .ok []
  | item :: rest =>
    match decode item with
    | .error fault => .error fault
    | .ok value =>
      match decodeAll decode rest with
      | .error fault => .error fault
      | .ok values => .ok (value :: values)

/-- A list of values. -/
def asList {α : Type} (decode : Decoder α) : Decoder (List α)
  | .array items => decodeAll decode items
  | .arrayUpTo items stop =>
    match decodeAll decode items with
    | .error fault => .error fault
    | .ok _ => .error stop.reading
  | j => .error (otherShape j)

/-- The values of members, in order, up to the first fault. -/
def decodeMembers {α : Type} (decode : Decoder α) :
    List (String × Json) → Except Fault (List (String × α))
  | [] => .ok []
  | (key, item) :: rest =>
    match decode item with
    | .error fault => .error fault
    | .ok value =>
      match decodeMembers decode rest with
      | .error fault => .error fault
      | .ok values => .ok ((key, value) :: values)

/-- The members of an object of any keys, in document order. -/
def asMembers {α : Type} (decode : Decoder α) : Decoder (List (String × α))
  | .object members => decodeMembers decode members
  | .objectUpTo members stop =>
    match decodeMembers decode members with
    | .error fault => .error fault
    | .ok _ => .error stop.reading
  | j => .error (otherShape j)

/-- One of some names: the text of the name, or an object of the name and `null`. What is neither
text nor object is no value at all here. -/
def asName {α : Type} (names : List (String × α)) : Decoder α :=
  let named (name : String) : Except Fault α :=
    match names.lookup name with
    | some value => .ok value
    | none => .error .mismatched
  let nothing : Json → Except Fault Unit
    | .null => .ok ()
    | j => .error (otherShape j)
  fun
  | .string name => named name
  | .object [] => .error .malformed
  | .object [(name, content)] => do
    let value ← named name
    nothing content
    .ok value
  | .object ((name, content) :: _) => do
    let _ ← named name
    nothing content
    .error .malformed
  | .objectUpTo [] stop => .error stop.elsewhere
  | .objectUpTo ((name, content) :: rest) stop => do
    let _ ← named name
    nothing content
    .error (if rest.isEmpty then stop.elsewhere else .malformed)
  | .cut stop => .error stop.elsewhere
  | _ => .error .malformed

/-! ## Records -/

/-- A field of a record: its name, whether it may be missing, and the fault of a value for it. -/
structure Field where
  name : String
  mayMiss : Bool
  fault? : Json → Option Fault

/-- The fault of a value that a decoder refuses. -/
def faultOf {α : Type} (decode : Decoder α) (j : Json) : Option Fault :=
  match decode j with
  | .ok _ => none
  | .error fault => some fault

/-- A field that must be there. -/
def Field.required {α : Type} (name : String) (decode : Decoder α) : Field :=
  { name, mayMiss := false, fault? := faultOf decode }

/-- A field that has a default. -/
def Field.defaulted {α : Type} (name : String) (decode : Decoder α) : Field :=
  { name, mayMiss := true, fault? := faultOf decode }

/-- The first fault among members: a field given twice, a value that its field refuses, or a value
of no field that cannot be skipped. -/
def membersFault? (fields : List Field) : List String → List (String × Json) → Option Fault
  | _, [] => none
  | seen, (key, value) :: rest =>
    match fields.find? fun field => field.name == key with
    | none => (skipFault? value).or (membersFault? fields seen rest)
    | some field =>
      if seen.contains key then some .mismatched
      else (field.fault? value).or (membersFault? fields (key :: seen) rest)

/-- The fault of a record whose members end without a field that must be there. -/
def missingFault? (fields : List Field) (members : List (String × Json)) : Option Fault :=
  if fields.all fun field => field.mayMiss || members.any fun (key, _) => key == field.name
  then none
  else some .mismatched

/-- The first fault among the values of fields in order. `extra` is the fault of a value too many
and `ending` the place where the array cannot be read on. -/
def itemsFault? (extra : Fault) (ending : Option Stop) : List Field → List Json → Option Fault
  | [], [] => ending.map Stop.elsewhere
  | [], _ :: _ => some extra
  | field :: fields, [] =>
    match ending with
    | some stop => some stop.reading
    | none => if field.mayMiss then itemsFault? extra ending fields [] else some .mismatched
  | field :: fields, item :: rest =>
    (field.fault? item).or (itemsFault? extra ending fields rest)

/-- The first fault of a document that should be a record. -/
def recordFault? (extra : Fault) (fields : List Field) : Json → Option Fault
  | .object members => (membersFault? fields [] members).or (missingFault? fields members)
  | .objectUpTo members stop => (membersFault? fields [] members).or (some stop.reading)
  | .array items => itemsFault? extra none fields items
  | .arrayUpTo items stop => itemsFault? extra (some stop) fields items
  | j => some (otherShape j)

/-- Whether a document is a record of these fields, read as it goes. -/
def checkRecord (fields : List Field) (j : Json) : Except Fault Unit :=
  match recordFault? .malformed fields j with
  | some fault => .error fault
  | none => .ok ()

/-- The value of a field: the member of that name, or the item at the field's place. -/
def fieldValue? (fields : List Field) (name : String) : Json → Option Json
  | .object members => members.lookup name
  | .array items => items[fields.findIdx fun field => field.name == name]?
  | _ => none

/-- A field that must be there. -/
def readField {α : Type} (fields : List Field) (name : String) (decode : Decoder α) : Decoder α :=
  fun j =>
    match fieldValue? fields name j with
    | some value => decode value
    | none => .error .mismatched

/-- A field that has a default. -/
def readFieldOr {α : Type} (default : α) (fields : List Field) (name : String)
    (decode : Decoder α) : Decoder α :=
  fun j =>
    match fieldValue? fields name j with
    | some value => decode value
    | none => .ok default

/-- Exactly two values. -/
def asPair {α β : Type} (first : Decoder α) (second : Decoder β) : Decoder (α × β) := fun j => do
  let fields := [Field.required "0" first, Field.required "1" second]
  match j with
  | .array _ | .arrayUpTo _ _ =>
    checkRecord fields j
    let a ← readField fields "0" first j
    let b ← readField fields "1" second j
    .ok (a, b)
  | j => .error (otherShape j)

/-! ## Tagged values -/

/-- The member that names the kind of a tagged value. -/
def tagName : String := "kind"

/-- The first fault among the members of a tagged value: a tag given twice, a tag that is no kind,
or a member that cannot be read into memory. -/
def taggedMembersFault? (isKind : String → Bool) : Bool → List (String × Json) → Option Fault
  | _, [] => none
  | seen, (key, value) :: rest =>
    if key == tagName then
      if seen then some .mismatched
      else
        match value with
        | .string kind =>
          if isKind kind then taggedMembersFault? isKind true rest else some .mismatched
        | j => some (otherShape j)
    else (bufferFault? value).or (taggedMembersFault? isKind seen rest)

/-- The kind and the content of a tagged value that is read into memory: an object without its tag,
or an array without its first item. -/
def asTagged (isKind : String → Bool) : Decoder (String × Json)
  | .object members =>
    match taggedMembersFault? isKind false members with
    | some fault => .error fault
    | none =>
      match members.lookup tagName with
      | some (.string kind) => .ok (kind, .object (members.filter fun (key, _) => key != tagName))
      | _ => .error .mismatched
  | .objectUpTo members stop =>
    .error ((taggedMembersFault? isKind false members).getD stop.reading)
  | .array [] => .error .mismatched
  | .array (.string kind :: rest) =>
    if !isKind kind then .error .mismatched
    else
      match bufferFaultOfItems? rest with
      | some fault => .error fault
      | none => .ok (kind, .array rest)
  | .array (tag :: _) => .error (otherShape tag)
  | .arrayUpTo [] stop => .error stop.reading
  | .arrayUpTo (.string kind :: rest) stop =>
    .error (if isKind kind then (bufferFaultOfItems? rest).getD stop.reading else .mismatched)
  | .arrayUpTo (tag :: _) _ => .error (otherShape tag)
  | j => .error (otherShape j)

/-- Whether the content of a tagged value is a record of these fields. -/
def checkContent (fields : List Field) (j : Json) : Except Fault Unit :=
  match recordFault? .mismatched fields j with
  | some fault => .error fault
  | none => .ok ()

/-- Whether the content of a tagged value may stand for a kind that has no content. -/
def checkNoContent : Json → Except Fault Unit
  | .array (_ :: _) => .error .mismatched
  | _ => .ok ()

end Expansion.Json
