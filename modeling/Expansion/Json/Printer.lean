import Expansion.Json.Basic

/-!
# Writing JSON

Two layouts of one format: `compact` puts everything on one line without a blank, `pretty` gives
every item and member a line of its own and two more spaces of indentation.

* A quote, a backslash and the control characters below the space are escaped in a text, the five
  usual ones by a letter and the others by four lower-case digits; nothing else is.
* **`pretty` differs from `compact` only in blanks between tokens**, and an empty array or object is
  written without any.
-/

namespace Expansion.Json

/-- The lower-case hexadecimal digits of a number below 256, two of them. -/
def hexPair (n : Nat) : List Char :=
  [(Nat.toDigits 16 (n / 16)).headD '0', (Nat.toDigits 16 (n % 16)).headD '0']

/-- One character of a text between quotes. -/
def escapedChar (c : Char) : List Char :=
  if c = '"' then ['\\', '"']
  else if c = '\\' then ['\\', '\\']
  else if c = '\n' then ['\\', 'n']
  else if c = '\r' then ['\\', 'r']
  else if c = '\t' then ['\\', 't']
  else if c.toNat = 0x8 then ['\\', 'b']
  else if c.toNat = 0xc then ['\\', 'f']
  else if c.toNat < 0x20 then ['\\', 'u', '0', '0'] ++ hexPair c.toNat
  else [c]

/-- A text between quotes. -/
def textChars (s : String) : List Char := ['"'] ++ s.toList.flatMap escapedChar ++ ['"']

/-- A line break and the indentation of a level. -/
def newline (level : Nat) : List Char := '\n' :: List.replicate (2 * level) ' '

mutual

/-- A document on one line. -/
def compactChars : Json → List Char
  | .null => "null".toList
  | .bool value => if value then "true".toList else "false".toList
  | .natural value => Nat.toDigits 10 value
  | .number literal => literal.toList
  | .string value => textChars value
  | .array items => ['['] ++ compactItems items ++ [']']
  | .object members => ['\x7b'] ++ compactMembers members ++ ['\x7d']
  | .cut _ => []
  | .arrayUpTo items _ => ['['] ++ compactItems items
  | .objectUpTo members _ => ['\x7b'] ++ compactMembers members

/-- The items of an array, with commas between them. -/
def compactItems : List Json → List Char
  | [] => []
  | [item] => compactChars item
  | item :: next :: rest => compactChars item ++ [','] ++ compactItems (next :: rest)

/-- The members of an object, with commas between them. -/
def compactMembers : List (String × Json) → List Char
  | [] => []
  | [(key, value)] => textChars key ++ [':'] ++ compactChars value
  | (key, value) :: next :: rest =>
    textChars key ++ [':'] ++ compactChars value ++ [','] ++ compactMembers (next :: rest)

end

mutual

/-- A document with a line for every item and member. -/
def prettyChars (level : Nat) : Json → List Char
  | .null => "null".toList
  | .bool value => if value then "true".toList else "false".toList
  | .natural value => Nat.toDigits 10 value
  | .number literal => literal.toList
  | .string value => textChars value
  | .array items =>
    if items.isEmpty then ['[', ']']
    else
      ['['] ++ newline (level + 1) ++ prettyItems (level + 1) items ++ newline level ++ [']']
  | .object members =>
    if members.isEmpty then ['\x7b', '\x7d']
    else
      ['\x7b'] ++ newline (level + 1) ++ prettyMembers (level + 1) members ++ newline level
        ++ ['\x7d']
  | .cut _ => []
  | .arrayUpTo items _ => ['['] ++ newline (level + 1) ++ prettyItems (level + 1) items
  | .objectUpTo members _ => ['\x7b'] ++ newline (level + 1) ++ prettyMembers (level + 1) members

/-- The items of an array, each on its line. -/
def prettyItems (level : Nat) : List Json → List Char
  | [] => []
  | [item] => prettyChars level item
  | item :: next :: rest =>
    prettyChars level item ++ [','] ++ newline level ++ prettyItems level (next :: rest)

/-- The members of an object, each on its line. -/
def prettyMembers (level : Nat) : List (String × Json) → List Char
  | [] => []
  | [(key, value)] => textChars key ++ [':', ' '] ++ prettyChars level value
  | (key, value) :: next :: rest =>
    textChars key ++ [':', ' '] ++ prettyChars level value ++ [','] ++ newline level
      ++ prettyMembers level (next :: rest)

end

/-- The text of a document on one line. -/
def compact (j : Json) : String := String.ofList (compactChars j)

/-- The text of a document with a line for every item and member. -/
def pretty (j : Json) : String := String.ofList (prettyChars 0 j)

end Expansion.Json
