/-!
# JSON documents, whole and broken

A document is read in the order in which it is written, and whoever reads it complains about the
first thing that is wrong. What is wrong depends on the reader: one who skips a value minds less
than one who wants it. So a text that stops being JSON half way is not simply refused: what comes
before the fault is kept, and the tree ends in a `Stop`, which tells what each reader meets there.

* **`Json`** is the tree. `null` to `object` are the values of a well-formed text.
* **`cut`**, **`arrayUpTo`** and **`objectUpTo`** end the tree where the first reader cannot go on:
  at a fault of the text, but also at half of a surrogate pair, a number beyond every range or a
  nesting that is too deep, all of which may be skipped.
* **`skipFault?`** is the fault of a value that nobody wants; **`bufferFault?`** is the fault of a
  value that is read into memory whatever it means.
-/

namespace Expansion

/-- What is wrong with a text, for one who expects a certain shape. -/
inductive Json.Fault where
  /-- The text is not JSON. -/
  | malformed
  /-- The text ends too early. -/
  | truncated
  /-- The text is JSON of another shape. -/
  | mismatched
  deriving DecidableEq, Repr

/-- The fault in words. -/
def Json.Fault.message : Json.Fault → String
  | .malformed => "not a JSON text"
  | .truncated => "the JSON text ends too early"
  | .mismatched => "a JSON text of another shape"

/-- A place where a tree ends, and what readers meet there. -/
structure Json.Stop where
  /-- The fault of one who reads what stands there. -/
  reading : Json.Fault
  /-- The fault of one who wants something else there: the end of an array or object in the place of
  its next item, a text in the place of another scalar, a value in the place of a key. -/
  elsewhere : Json.Fault
  /-- The fault of one who skips the value that the place belongs to, if skipping meets one. -/
  skipping : Option Json.Fault
  deriving DecidableEq, Repr

/-- A place with one fault for all readers. -/
def Json.Stop.of (fault : Json.Fault) : Json.Stop := ⟨fault, fault, some fault⟩

/-- A JSON document, as far as its text could be read. -/
inductive Json where
  | null
  | bool (value : Bool)
  /-- A number written with digits alone, below two to the power of 64. -/
  | natural (value : Nat)
  /-- Any other number. -/
  | number (literal : String)
  | string (value : String)
  | array (items : List Json)
  | object (members : List (String × Json))
  /-- A value that cannot be read. -/
  | cut (stop : Json.Stop)
  /-- An array that can be read up to the end of these items, or into the last of them. -/
  | arrayUpTo (items : List Json) (stop : Json.Stop)
  /-- An object that can be read up to the end of these members, or into the last of them. -/
  | objectUpTo (members : List (String × Json)) (stop : Json.Stop)
  deriving Repr

namespace Json

/-- The fault that is met when the value is skipped. -/
def skipFault? : Json → Option Fault
  | .cut stop => stop.skipping
  | .arrayUpTo _ stop => stop.skipping
  | .objectUpTo _ stop => stop.skipping
  | _ => none

mutual

/-- The fault that is met first when all of the value is read. -/
def bufferFault? : Json → Option Fault
  | .cut stop => some stop.reading
  | .array items => bufferFaultOfItems? items
  | .object members => bufferFaultOfMembers? members
  | .arrayUpTo items stop => (bufferFaultOfItems? items).or (some stop.reading)
  | .objectUpTo members stop => (bufferFaultOfMembers? members).or (some stop.reading)
  | _ => none

/-- The first fault among the items of an array. -/
def bufferFaultOfItems? : List Json → Option Fault
  | [] => none
  | item :: rest => (bufferFault? item).or (bufferFaultOfItems? rest)

/-- The first fault among the members of an object. -/
def bufferFaultOfMembers? : List (String × Json) → Option Fault
  | [] => none
  | (_, value) :: rest => (bufferFault? value).or (bufferFaultOfMembers? rest)

end

end Json

end Expansion
