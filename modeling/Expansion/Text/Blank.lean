/-!
# Blank characters

A character is blank when it has the Unicode property `White_Space`. Everything in this library that
trims, splits into words or asks whether a text says anything at all goes through `isBlank`, so all
of them agree on what an empty answer is.

* **`trim`** drops the blanks at both ends and nothing else;
* **`isBlankText`** holds exactly when `trim` leaves nothing;
* **`words`** are the longest runs without a blank, in order.
-/

namespace Expansion.Text

/-- The twenty-five characters with the Unicode property `White_Space`. -/
def isBlank (c : Char) : Bool :=
  let n := c.toNat
  (0x9 ≤ n && n ≤ 0xd) || n == 0x20 || n == 0x85 || n == 0xa0 || n == 0x1680
    || (0x2000 ≤ n && n ≤ 0x200a) || n == 0x2028 || n == 0x2029 || n == 0x202f || n == 0x205f
    || n == 0x3000

/-- Drops the blanks at the end. -/
def trimEndChars (cs : List Char) : List Char :=
  (cs.reverse.dropWhile isBlank).reverse

/-- Drops the blanks at both ends. -/
def trimChars (cs : List Char) : List Char :=
  trimEndChars (cs.dropWhile isBlank)

/-- A text without the blanks at its two ends. -/
def trim (s : String) : String := String.ofList (trimChars s.toList)

/-- Whether a text has no character that is not blank. -/
def isBlankText (s : String) : Bool := s.toList.all isBlank

/-- The words of a text: `pending` holds the word being read, its last character first. -/
def wordsFrom : List Char → List Char → List (List Char)
  | pending, [] => if pending.isEmpty then [] else [pending.reverse]
  | pending, c :: rest =>
    if isBlank c then
      if pending.isEmpty then wordsFrom [] rest else pending.reverse :: wordsFrom [] rest
    else wordsFrom (c :: pending) rest

/-- The longest runs of characters that are not blank, in order. -/
def words (s : String) : List String := (wordsFrom [] s.toList).map String.ofList

end Expansion.Text
