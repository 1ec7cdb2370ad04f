import Expansion.Json.Basic

/-!
# The smallest parts of a JSON text

Blanks, escapes and the pieces of a number. Every function that takes something off the front of a
text returns what it has taken together with the rest, or the fault that it met.

* **A number is checked before it is understood**: `Numeral` keeps its pieces as they are written.
* Four hexadecimal digits are four bytes, so an escape that is cut short is malformed if four bytes
  of anything follow it and truncated otherwise (`takeHex4`).
-/

namespace Expansion.Json

/-- The four characters that may stand between tokens. -/
def isGap (c : Char) : Bool := c == ' ' || c == '\n' || c == '\t' || c == '\r'

/-- The text from the next token on. -/
def skipGap (cs : List Char) : List Char := cs.dropWhile isGap

/-! ## Escapes -/

/-- The value of a hexadecimal digit. -/
def hexDigitValue? (c : Char) : Option Nat :=
  if '0' ≤ c && c ≤ '9' then some (c.toNat - 48)
  else if 'a' ≤ c && c ≤ 'f' then some (c.toNat - 87)
  else if 'A' ≤ c && c ≤ 'F' then some (c.toNat - 55)
  else none

/-- The number of bytes of characters. -/
def utf8Length (cs : List Char) : Nat := cs.foldl (fun n c => n + c.utf8Size) 0

/-- The number of four hexadecimal digits. -/
def takeHex4 : List Char → Except Fault (Nat × List Char)
  | a :: b :: c :: d :: rest =>
    match hexDigitValue? a, hexDigitValue? b, hexDigitValue? c, hexDigitValue? d with
    | some a, some b, some c, some d => .ok (((a * 16 + b) * 16 + c) * 16 + d, rest)
    | _, _, _, _ => .error .malformed
  | few => .error (if 4 ≤ utf8Length few then .malformed else .truncated)

/-- The character that a backslash and this letter stand for. -/
def plainEscape? (c : Char) : Option Char :=
  if c = '"' || c = '\\' || c = '/' then some c
  else if c = 'b' then some (Char.ofNat 0x8)
  else if c = 'f' then some (Char.ofNat 0xc)
  else if c = 'n' then some '\n'
  else if c = 'r' then some '\r'
  else if c = 't' then some '\t'
  else none

/-! ## Numbers -/

/-- A number as it is written. -/
structure Numeral where
  isNegative : Bool
  /-- The digits before the point. -/
  whole : List Char
  /-- The digits behind the point, none if there is no point. -/
  fraction : List Char
  /-- The exponent with its letter and its sign, or nothing. -/
  exponent : List Char

/-- The digits in front, and the rest. -/
def takeDigits (cs : List Char) : List Char × List Char :=
  (cs.takeWhile Char.isDigit, cs.dropWhile Char.isDigit)

/-- The fault of one who needs a digit and finds none. -/
def noDigit (cs : List Char) : Fault := if cs.isEmpty then .truncated else .malformed

/-- The digits before the point: a lone zero, or digits that do not begin with one. -/
def takeWhole (cs : List Char) : Except Fault (List Char × List Char) :=
  match takeDigits cs with
  | ([], rest) => .error (noDigit rest)
  | ('0' :: _ :: _, _) => .error .malformed
  | (digits, rest) => .ok (digits, rest)

/-- The digits behind the point: none and no point, or at least one. -/
def takeFraction : List Char → Except Fault (List Char × List Char)
  | '.' :: rest =>
    match takeDigits rest with
    | ([], rest) => .error (noDigit rest)
    | (digits, rest) => .ok (digits, rest)
  | cs => .ok ([], cs)

/-- The exponent at the end of a number: none, or a letter, a sign if any, and at least one digit.
-/
def takeExponent : List Char → Except Fault (List Char × List Char)
  | c :: rest =>
    if c = 'e' || c = 'E' then
      let (sign, rest) :=
        match rest with
        | '+' :: rest => (['+'], rest)
        | '-' :: rest => (['-'], rest)
        | rest => ([], rest)
      match takeDigits rest with
      | ([], rest) => .error (noDigit rest)
      | (digits, rest) => .ok (c :: sign ++ digits, rest)
    else .ok ([], c :: rest)
  | [] => .ok ([], [])

/-- The number in front of a text that begins with a digit or a minus sign. -/
def takeNumeral (cs : List Char) : Except Fault (Numeral × List Char) := do
  let (isNegative, cs) :=
    match cs with
    | '-' :: rest => (true, rest)
    | rest => (false, rest)
  let (whole, cs) ← takeWhole cs
  let (fraction, cs) ← takeFraction cs
  let (exponent, cs) ← takeExponent cs
  .ok ({ isNegative, whole, fraction, exponent }, cs)

end Expansion.Json
