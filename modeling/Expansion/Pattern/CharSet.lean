/-!
# Sets of characters

The characters that one place of a pattern accepts, as an expression over ranges of code points.
Sets are only ever asked whether they hold a character, so nothing is computed when one is built.

* **`CharSet.contains`** gives every operation its meaning.
* `folded` does not tell letters apart by case: it holds a character as soon as one of the
  characters that differ from it only in case is there.
* The named sets hold ASCII characters only.
-/

namespace Expansion

/-- A set of characters. -/
inductive CharSet where
  | none
  /-- The characters from one code point to another. -/
  | range (first last : Nat)
  | union (a b : CharSet)
  | inter (a b : CharSet)
  | minus (a b : CharSet)
  | complement (a : CharSet)
  /-- A set that does not tell letters apart by case. -/
  | folded (a : CharSet)
  deriving DecidableEq, Repr

namespace CharSet

/-- The code points of the characters that differ from an ASCII letter only in case. -/
def caseVariants (n : Nat) : List Nat :=
  let other :=
    if 0x41 ≤ n && n ≤ 0x5a then [n + 0x20] else if 0x61 ≤ n && n ≤ 0x7a then [n - 0x20] else []
  -- The signs for kelvin and the long s are letters with an ASCII lower case.
  let sign :=
    if n == 0x4b || n == 0x6b then [0x212a] else if n == 0x53 || n == 0x73 then [0x17f] else []
  n :: other ++ sign

/-- Whether the set holds a code point. -/
def holds : CharSet → Nat → Bool
  | none, _ => false
  | range first last, n => first ≤ n && n ≤ last
  | union a b, n => a.holds n || b.holds n
  | inter a b, n => a.holds n && b.holds n
  | minus a b, n => a.holds n && !b.holds n
  | complement a, n => !a.holds n
  | folded a, n => (caseVariants n).any a.holds

/-- Whether the set holds a character. -/
def contains (s : CharSet) (c : Char) : Bool := s.holds c.toNat

/-- All characters. -/
def all : CharSet := complement none

/-- The set of one character. -/
def single (c : Char) : CharSet := range c.toNat c.toNat

/-- The characters between two, both included. -/
def between (first last : Char) : CharSet := range first.toNat last.toNat

/-- The set of some characters. -/
def ofList (cs : List Char) : CharSet := cs.foldr (fun c s => union (single c) s) none

/-- The characters that only one of two sets holds. -/
def symmetricDifference (a b : CharSet) : CharSet := union (minus a b) (minus b a)

/-! ## Named sets -/

/-- The decimal digits. -/
def digit : CharSet := between '0' '9'

/-- The capital letters. -/
def upper : CharSet := between 'A' 'Z'

/-- The small letters. -/
def lower : CharSet := between 'a' 'z'

/-- The letters. -/
def alpha : CharSet := union upper lower

/-- The letters and digits. -/
def alnum : CharSet := union alpha digit

/-- The characters of names. -/
def word : CharSet := union alnum (single '_')

/-- The blanks, line breaks included. -/
def space : CharSet := union (range 9 13) (single ' ')

/-- The characters that print something or are a space. -/
def print : CharSet := range 0x20 0x7e

/-- The characters that print something. -/
def graph : CharSet := range 0x21 0x7e

/-- The characters that print something and are no letters or digits. -/
def punct : CharSet := minus graph alnum

/-- The control characters. -/
def cntrl : CharSet := union (range 0 0x1f) (range 0x7f 0x7f)

/-- The named sets that a bracket expression may hold between colons. -/
def named : List (String × CharSet) :=
  [("alnum", alnum), ("alpha", alpha), ("ascii", range 0 0x7f), ("blank", ofList [' ', '\t']),
    ("cntrl", cntrl), ("digit", digit), ("graph", graph), ("lower", lower), ("print", print),
    ("punct", punct), ("space", space), ("upper", upper), ("word", word),
    ("xdigit", union digit (union (between 'a' 'f') (between 'A' 'F')))]

end CharSet

end Expansion
