import Expansion.Shell.Octets

/-!
# Numbers in scripts

Whole numbers as scripts write them: in base ten, in base sixteen after `0x` and in base eight after
`0`, with blanks and a sign in front. A number that does not fit into sixty-four bits is cut off at
the greatest or least one that does.
-/

namespace Expansion.Shell

/-- Whether the character is a blank or ends a line. -/
def isSpace (c : Char) : Bool := c = ' ' || ('\t' ≤ c && c ≤ '\x0d')

/-- The value of a digit in base thirty-six. -/
def digitValue? (c : Char) : Option Nat :=
  if c.isDigit then some (c.toNat - '0'.toNat)
  else if c.isAlpha then some (c.toLower.toNat - 'a'.toNat + 10)
  else none

/-- Whether the character is a digit in a base. -/
def isDigitIn (base : Nat) (c : Char) : Bool := (digitValue? c).any (· < base)

/-- The value of digits in a base. -/
def valueIn (base : Nat) (digits : Octets) : Nat :=
  digits.foldl (fun n d => base * n + (digitValue? d).getD 0) 0

/-- A number at the start of a text. -/
structure LeadingNumber where
  negative : Bool
  magnitude : Nat
  rest : Octets

/-- The number at the start of a text, in a base or in the one that its first digits tell. -/
def leadingNumber? (base? : Option Nat) (cs : Octets) : Option LeadingNumber :=
  let cs := cs.dropWhile isSpace
  let (negative, cs) := match cs with
    | '-' :: rest => (true, rest)
    | '+' :: rest => (false, rest)
    | cs => (false, cs)
  let (base, cs) := match base?, cs with
    | some base, cs => (base, cs)
    | none, '0' :: x :: d :: rest =>
      if (x = 'x' || x = 'X') && isDigitIn 16 d then (16, d :: rest) else (8, '0' :: x :: d :: rest)
    | none, '0' :: rest => (8, '0' :: rest)
    | none, cs => (10, cs)
  let digits := cs.takeWhile (isDigitIn base)
  if digits.isEmpty then none
  else some ⟨negative, valueIn base digits, cs.drop digits.length⟩

namespace LeadingNumber

/-- The greatest number of sixty-four bits with a sign. -/
def greatest : Int := Nat.pow 2 63 - 1

/-- The number without what does not fit, and whether there was such. -/
def signed (n : LeadingNumber) : Int × Bool :=
  let value : Int := if n.negative then -n.magnitude else n.magnitude
  if value > greatest then (greatest, true)
  else if value < -greatest - 1 then (-greatest - 1, true)
  else (value, false)

/-- The number as one without a sign, and whether it did not fit. -/
def unsigned (n : LeadingNumber) : Nat × Bool :=
  let bound := Nat.pow 2 64
  if n.magnitude ≥ bound then (bound - 1, true)
  else if n.negative then ((bound - n.magnitude) % bound, false)
  else (n.magnitude, false)

end LeadingNumber

/-- The number that a whole text is, in a base or in the one that its digits tell; a text of blanks
is zero where the digits tell the base. -/
def wholeNumber? (base? : Option Nat) (cs : Octets) : Option Int :=
  match leadingNumber? base? cs with
  | none => if base?.isNone && cs.all isSpace then some 0 else none
  | some n =>
    let (value, overflow) := n.signed
    if overflow || !n.rest.all isSpace then none else some value

end Expansion.Shell
