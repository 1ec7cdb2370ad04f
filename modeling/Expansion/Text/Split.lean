/-!
# Cutting and joining text

The ways in which this library takes text apart: at every separator, at the first one, after the
last one, and into lines. All work on lists of characters by recursion on the list; the functions
on `String` only wrap them.

* **`splitOn`** keeps empty pieces, so `join` undoes it;
* **`lines`** ends a line at a line feed, takes one carriage return before it away with it, and
  makes no last empty line;
* **`replaceAll`** goes from left to right and never looks again at what it has put in.
-/

namespace Expansion.Text

/-- What follows `mark` when the characters begin with it. -/
def afterPrefix? : List Char → List Char → Option (List Char)
  | [], cs => some cs
  | _ :: _, [] => none
  | m :: mark, c :: rest => if m = c then afterPrefix? mark rest else none

/-- The pieces between the separators, with at least one piece. -/
def splitChars (separator : Char) : List Char → List (List Char)
  | [] => [[]]
  | c :: rest =>
    if c = separator then [] :: splitChars separator rest
    else
      match splitChars separator rest with
      | [] => [[c]]
      | piece :: pieces => (c :: piece) :: pieces

/-- The pieces of a text between the separators; a text without one is its only piece. -/
def splitOn (separator : Char) (s : String) : List String :=
  (splitChars separator s.toList).map String.ofList

/-- What stands before and after the first occurrence of `mark`. -/
def splitOnceChars (mark : List Char) : List Char → Option (List Char × List Char)
  | [] => if mark.isEmpty then some ([], []) else none
  | c :: rest =>
    match afterPrefix? mark (c :: rest) with
    | some tail => some ([], tail)
    | none => (splitOnceChars mark rest).map fun (head, tail) => (c :: head, tail)

/-- The two sides of the first occurrence of `mark`. -/
def splitOnce (mark s : String) : Option (String × String) :=
  (splitOnceChars mark.toList s.toList).map fun (head, tail) =>
    (String.ofList head, String.ofList tail)

/-- What follows the last occurrence of a mark that is not empty. -/
def afterLast? (mark : List Char) : List Char → Option (List Char)
  | [] => none
  | c :: rest =>
    match afterLast? mark rest with
    | some tail => some tail
    | none => afterPrefix? mark (c :: rest)

/-- What follows the last occurrence of `mark`, or everything when there is none. -/
def afterLast (mark : String) (s : String) : String :=
  String.ofList ((afterLast? mark.toList s.toList).getD s.toList)

/-- The text with every occurrence of `mark` replaced; `skip` characters of an occurrence that has
been replaced are still to be passed over. -/
def replaceFrom (mark replacement : List Char) : Nat → List Char → List Char
  | _, [] => []
  | skip + 1, _ :: rest => replaceFrom mark replacement skip rest
  | 0, c :: rest =>
    if (afterPrefix? mark (c :: rest)).isSome then
      replacement ++ replaceFrom mark replacement (mark.length - 1) rest
    else c :: replaceFrom mark replacement 0 rest

/-- The text with every occurrence of a mark that is not empty replaced. -/
def replaceAll (mark replacement s : String) : String :=
  String.ofList (replaceFrom mark.toList replacement.toList 0 s.toList)

/-- A line that a line feed ended, without the carriage return before the line feed. -/
def withoutReturn (line : List Char) : List Char :=
  if line.getLast? = some '\r' then line.dropLast else line

/-- The lines among pieces cut at line feeds: every piece but the last was ended by one. -/
def linesOfPieces : List (List Char) → List (List Char)
  | [] => []
  | [last] => if last.isEmpty then [] else [last]
  | piece :: next :: pieces => withoutReturn piece :: linesOfPieces (next :: pieces)

/-- The lines of a text. -/
def lines (s : String) : List String :=
  (linesOfPieces (splitChars '\n' s.toList)).map String.ofList

/-- Whether the text holds the character. -/
def hasChar (c : Char) (s : String) : Bool := s.toList.contains c

/-- What follows `mark` when the text begins with it. -/
def stripPrefix? (mark s : String) : Option String :=
  (afterPrefix? mark.toList s.toList).map String.ofList

/-- What stands before `mark` when the text ends with it. -/
def stripSuffix? (mark s : String) : Option String :=
  (afterPrefix? mark.toList.reverse s.toList.reverse).map fun head => String.ofList head.reverse

/-- The pieces with the separator between each two of them. -/
def join (separator : String) (pieces : List String) : String := separator.intercalate pieces

end Expansion.Text
