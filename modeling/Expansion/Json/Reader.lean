import Expansion.Json.Range
import Expansion.Json.Skip

/-!
# Reading JSON

`Json.read` turns a text into a tree, and never fails: where a value cannot be read the tree ends
(`Json.cut` and its kin), so that a reader of the tree can say which came first, a wrong shape or a
wrong character.

* **The tree goes on behind whatever can be skipped**: where reading stops, `skipString` and the
  other functions for skipping tell whether there is anything behind it.
* `readValue` and its two companions recurse on a budget that the text's length bounds: every call
  takes a character before the next one is made.
* Nesting beyond `nestingLimit` levels can only be skipped.
-/

namespace Expansion.Json

/-- The number of levels of arrays and objects that may be read into memory. -/
def nestingLimit : Nat := 127

/-- Whether the number is the first half of a surrogate pair. -/
def isHighSurrogate (n : Nat) : Bool := 0xd800 ≤ n && n ≤ 0xdbff

/-- Whether the number is the second half of a surrogate pair. -/
def isLowSurrogate (n : Nat) : Bool := 0xdc00 ≤ n && n ≤ 0xdfff

/-- The character of an escape whose letter `u` has been taken. A first half of a pair needs the
second one behind it. -/
def takeUnicodeEscape (cs : List Char) : Except Fault (Char × List Char) := do
  let (n, rest) ← takeHex4 cs
  if isLowSurrogate n then .error .malformed
  else if isHighSurrogate n then
    match rest with
    | [] => .error .truncated
    | ['\\'] => .error .truncated
    | '\\' :: 'u' :: digits => do
      let (low, rest) ← takeHex4 digits
      if isLowSurrogate low then
        .ok (Char.ofNat ((n - 0xd800) * 0x400 + (low - 0xdc00) + 0x10000), rest)
      else .error .malformed
    | _ => .error .malformed
  else .ok (Char.ofNat n, rest)

/-- The rest of a text in quotes after the opening one; `acc` has its characters so far, last first.
-/
def readStringFrom : Nat → List Char → List Char → Except Fault (String × List Char)
  | _, _, [] => .error .truncated
  | 0, _, _ => .error .truncated
  | budget + 1, acc, c :: rest =>
    if c = '"' then .ok (String.ofList acc.reverse, rest)
    else if c.toNat < 0x20 then .error .malformed
    else if c = '\\' then
      match rest with
      | [] => .error .truncated
      | e :: rest =>
        if e = 'u' then
          match takeUnicodeEscape rest with
          | .error fault => .error fault
          | .ok (value, rest) => readStringFrom budget (value :: acc) rest
        else
          match plainEscape? e with
          | some value => readStringFrom budget (value :: acc) rest
          | none => .error .malformed
    else readStringFrom budget (c :: acc) rest

/-- The text in quotes whose opening quote has been taken, and the rest. -/
def takeString (cs : List Char) : Except Fault (String × List Char) :=
  readStringFrom cs.length [] cs

/-- The fault that skipping meets, and the text behind what has been skipped. -/
def skipped : Except Fault (List Char) → Option Fault × List Char
  | .ok rest => (none, rest)
  | .error fault => (some fault, [])

/-- A text as a value. -/
def readString (cs : List Char) : Json × List Char :=
  match takeString cs with
  | .ok (text, rest) => (.string text, rest)
  | .error fault =>
    let (skipping, rest) := skipped (skipString cs)
    (.cut { reading := fault, elsewhere := fault, skipping }, rest)

/-- A number as a value. -/
def readNumber (cs : List Char) : Json × List Char :=
  match takeNumeral cs with
  | .error fault =>
    (.cut { reading := fault, elsewhere := .malformed, skipping := some .malformed }, [])
  | .ok (numeral, rest) =>
    if numeral.scaled.isTooGreat then
      (.cut { reading := .malformed, elsewhere := .malformed, skipping := none }, rest)
    else
      match numeral.natural? with
      | some n => (.natural n, rest)
      | none => (.number (String.ofList (cs.take (cs.length - rest.length))), rest)

/-- A word as a value, of which the first letter has been taken. -/
def readWord (value : Json) (letters cs : List Char) : Json × List Char :=
  match skipWord letters cs with
  | .ok rest => (value, rest)
  | .error fault => (.cut { reading := fault, elsewhere := .malformed, skipping := some fault }, [])

/-- An array that can be read to its end, or not. -/
def arrayOf (items : List Json) : Option Stop → Json
  | none => .array items
  | some stop => .arrayUpTo items stop

/-- An object that can be read to its end, or not. -/
def objectOf (members : List (String × Json)) : Option Stop → Json
  | none => .object members
  | some stop => .objectUpTo members stop

/-- A value at a level that is too deep for all who do not skip it. -/
def tooDeep (value : Json) : Json :=
  .cut { reading := .malformed, elsewhere := .malformed, skipping := skipFault? value }

/-- The fault of one who expects another shape than the one that stands there. -/
def otherShape : Json → Fault
  | .cut stop => stop.reading
  | _ => .mismatched

mutual

/-- The value at the front of a text inside `level` arrays and objects, and the rest. -/
def readValue : Nat → Nat → List Char → Json × List Char
  | 0, _, _ => (.cut (.of .truncated), [])
  | budget + 1, level, cs =>
    match skipGap cs with
    | [] => (.cut (.of .truncated), [])
    | c :: rest =>
      if c = '"' then readString rest
      else if c = '[' then
        let (items, stop, rest) := readItems budget (level + 1) true rest
        let value := arrayOf items stop
        (if level < nestingLimit then value else tooDeep value, rest)
      else if c = '\x7b' then
        let (members, stop, rest) := readMembers budget (level + 1) true rest
        let value := objectOf members stop
        (if level < nestingLimit then value else tooDeep value, rest)
      else if c = 'n' then readWord .null "ull".toList rest
      else if c = 't' then readWord (.bool true) "rue".toList rest
      else if c = 'f' then readWord (.bool false) "alse".toList rest
      else if c = '-' || c.isDigit then readNumber (c :: rest)
      else (.cut (.of .malformed), [])

/-- The items up to the end of an array, the place where they stop if they do, and the text behind
the array if it can be skipped. -/
def readItems : Nat → Nat → Bool → List Char → List Json × Option Stop × List Char
  | 0, _, _, _ => ([], some (.of .truncated), [])
  | budget + 1, level, isFirst, cs =>
    let item (cs : List Char) :=
      let (value, rest) := readValue budget level cs
      match skipFault? value with
      | some fault => ([value], some (.of fault), [])
      | none =>
        let (items, stop, rest) := readItems budget level false rest
        (value :: items, stop, rest)
    match skipGap cs with
    | [] => ([], some (.of .truncated), [])
    | c :: rest =>
      if c = ']' then ([], none, rest)
      else if isFirst then item (c :: rest)
      else if c = ',' then
        match skipGap rest with
        | [] =>
          -- One who expects the end of the array minds the comma.
          let stop :=
            { reading := .truncated, elsewhere := .malformed, skipping := some .truncated }
          ([], some stop, [])
        | next :: rest => if next = ']' then ([], some (.of .malformed), []) else item (next :: rest)
      else ([], some (.of .malformed), [])

/-- The members up to the end of an object, the place where they stop if they do, and the text
behind the object if it can be skipped. -/
def readMembers : Nat → Nat → Bool → List Char →
    List (String × Json) × Option Stop × List Char
  | 0, _, _, _ => ([], some (.of .truncated), [])
  | budget + 1, level, isFirst, cs =>
    let member (cs : List Char) :=
      match takeString cs with
      | .ok (key, rest) =>
        match skipGap rest with
        | [] => ([(key, .cut (.of .truncated))], some (.of .truncated), [])
        | c :: rest =>
          if c = ':' then
            let (value, rest) := readValue budget level rest
            match skipFault? value with
            | some fault => ([(key, value)], some (.of fault), [])
            | none =>
              let (members, stop, rest) := readMembers budget level false rest
              ((key, value) :: members, stop, rest)
          else ([(key, .cut (.of .malformed))], some (.of .malformed), [])
      | .error fault =>
        -- A key that cannot be read ends the members, though all of the object may be skipped.
        let (skipping, rest) := skipped (skipMember (2 * cs.length + 2) ('"' :: cs))
        let elsewhere := if isFirst then fault else .malformed
        ([], some { reading := fault, elsewhere, skipping }, rest)
    match skipGap cs with
    | [] => ([], some (.of .truncated), [])
    | c :: rest =>
      if c = '\x7d' then ([], none, rest)
      else if isFirst then
        if c = '"' then member rest
        else
          let elsewhere := otherShape (readValue budget level (c :: rest)).1
          let stop := { reading := .malformed, elsewhere, skipping := some .malformed }
          ([], some stop, [])
      else if c = ',' then
        match skipGap rest with
        | [] =>
          let stop :=
            { reading := .truncated, elsewhere := .malformed, skipping := some .truncated }
          ([], some stop, [])
        | next :: rest => if next = '"' then member rest else ([], some (.of .malformed), [])
      else ([], some (.of .malformed), [])

end

/-- A text read as JSON: the tree, and whether anything but blanks follows it. -/
structure Reading where
  value : Json
  trailing : Bool

/-- Reads a text. -/
def read (s : String) : Reading :=
  let (value, rest) := readValue (2 * s.length + 2) 0 s.toList
  { value, trailing := !(skipGap rest).isEmpty }

/-- The value that a decoder finds in a text with nothing behind it. -/
def decodeText {α : Type} (decode : Json → Except Fault α) (s : String) : Except Fault α :=
  let reading := read s
  match decode reading.value with
  | .error fault => .error fault
  | .ok value => if reading.trailing then .error .malformed else .ok value

end Expansion.Json
