/-!
# A place in a YAML text

A cursor is what is left of a text together with the place where that begins. Block structure is a
matter of columns, so every step through the text goes through `skip` or `skipBreak`, which keep the
place.

* A carriage return with a line feed behind it is one line break (`skipBreak`).
* **`breakChar`** is what a break leaves in a scalar: the two Unicode separators stay as they are
  and every other break becomes a line feed.
-/

namespace Expansion.Yaml

/-- What is wrong with a text, and at which line and column, both counted from zero. -/
structure Fault where
  problem : String
  line : Nat
  column : Nat
  deriving Repr

/-- The fault in words. -/
def Fault.message (f : Fault) : String :=
  f.problem ++ " at line " ++ toString (f.line + 1) ++ " column " ++ toString (f.column + 1)

/-- What is left of a text and where it begins. -/
structure Cursor where
  rest : List Char
  index : Nat
  line : Nat
  column : Nat

/-- The beginning of a text. -/
def Cursor.start (cs : List Char) : Cursor := ⟨cs, 0, 0, 0⟩

/-- Whether the character ends a line. -/
def isBreak (c : Char) : Bool :=
  c == '\n' || c == '\r' || c == '\x85' || c == '\u2028' || c == '\u2029'

/-- Whether the character is a space or a tab. -/
def isSpace (c : Char) : Bool := c == ' ' || c == '\t'

/-- Whether the text ends here or goes on with a space, a tab or a line break. -/
def isGapAhead : List Char → Bool
  | [] => true
  | c :: _ => isSpace c || isBreak c

/-- Whether the line ends here. -/
def isLineEnd : List Char → Bool
  | [] => true
  | c :: _ => isBreak c

/-- Whether a text stands here with a gap behind it. -/
def isMarkAhead (a b c : Char) : List Char → Bool
  | x :: y :: z :: rest => x == a && y == b && z == c && isGapAhead rest
  | _ => false

namespace Cursor

/-- A fault at this place. -/
def fail {α : Type} (c : Cursor) (problem : String) : Except Fault α :=
  .error ⟨problem, c.line, c.column⟩

/-- The cursor after so many characters of one line. -/
def skip (c : Cursor) (count : Nat) : Cursor :=
  { c with rest := c.rest.drop count, index := c.index + count, column := c.column + count }

/-- The cursor after a line break. -/
def skipBreak (c : Cursor) : Cursor :=
  match c.rest with
  | '\r' :: '\n' :: rest => ⟨rest, c.index + 2, c.line + 1, 0⟩
  | _ :: rest => ⟨rest, c.index + 1, c.line + 1, 0⟩
  | [] => c

/-- The cursor after the characters in front that satisfy `p`. -/
def skipWhile (c : Cursor) (p : Char → Bool) : Cursor := c.skip (c.rest.takeWhile p).length

/-- Whether a line begins here with the mark of a document's start or end. -/
def isDocumentMark (c : Cursor) : Bool :=
  c.column == 0 && (isMarkAhead '-' '-' '-' c.rest || isMarkAhead '.' '.' '.' c.rest)

end Cursor

/-- What a line break leaves in a scalar. -/
def breakChar (c : Char) : Char := if c == '\u2028' || c == '\u2029' then c else '\n'

/-- The break in front of a text, as a scalar keeps it. -/
def breakAhead : List Char → List Char
  | [] => []
  | c :: _ => if isBreak c then [breakChar c] else []

/-- Whether a character may stand in a text at all. -/
def isAllowed (c : Char) : Bool :=
  let n := c.toNat
  n == 0x9 || n == 0xa || n == 0xd || (0x20 ≤ n && n ≤ 0x7e) || n == 0x85
    || (0xa0 ≤ n && n ≤ 0xfffd) || 0x10000 ≤ n

end Expansion.Yaml
