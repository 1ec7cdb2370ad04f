import Expansion.Json.Lexeme

/-!
# The range of numbers

Whether a number that is written is too great to be a floating-point number of 64 bits. The number
is not rounded as a whole: its first digits make a significand of at most 64 bits, the other digits
and the exponent make a power of ten, each of the two is rounded to 53 bits, and their product
decides (`Scaled.isTooGreat`).

* Digits that the significand has no room for move the power of ten before the point and are left
  out behind it.
* **Only great powers can fail**: a number that is too small is a zero.
-/

namespace Expansion.Json

/-- A number as a significand and a power of ten. -/
structure Scaled where
  significand : Nat
  power : Int
  deriving DecidableEq, Repr

/-- The value of a digit. -/
def digitValue (d : Char) : Nat := d.toNat - 48

/-- The number that decimal digits stand for. -/
def valueOfDigits (digits : List Char) : Nat := digits.foldl (fun n d => n * 10 + digitValue d) 0

/-- The significand with one more digit, if 64 bits hold that. It is sealed, since a comparison with
a number of this size must not be unfolded. -/
@[irreducible] def Scaled.append? (n : Scaled) (d : Char) : Option Nat :=
  let longer := n.significand * 10 + digitValue d
  if longer < UInt64.size then some longer else none

/-- The number with more digits before the point. Once a digit does not fit, the rest only count. -/
def Scaled.appendWhole : Scaled → List Char → Scaled
  | n, [] => n
  | n, d :: rest =>
    match n.append? d with
    | some longer => appendWhole { n with significand := longer } rest
    | none => { n with power := n.power + (rest.length + 1) }

/-- The number with digits behind the point. Once a digit does not fit, the rest are left out. -/
def Scaled.appendFraction : Scaled → List Char → Scaled
  | n, [] => n
  | n, d :: rest =>
    match n.append? d with
    | some longer => appendFraction { significand := longer, power := n.power - 1 } rest
    | none => n

/-- The power of ten that an exponent asks for. -/
def exponentValue : List Char → Int
  | _ :: '-' :: digits => -valueOfDigits digits
  | _ :: '+' :: digits => valueOfDigits digits
  | _ :: digits => valueOfDigits digits
  | [] => 0

/-- The size of a written number. -/
def Numeral.scaled (n : Numeral) : Scaled :=
  let read := (Scaled.appendWhole ⟨0, 0⟩ n.whole).appendFraction n.fraction
  { read with power := read.power + exponentValue n.exponent }

/-- The number nearest to `n` that has 53 bits and then only zeros; of two the one whose last bit of
those is zero. -/
def roundTo53 (n : Nat) : Nat :=
  let dropped := Nat.log2 n - 52
  let unit := Nat.pow 2 dropped
  let below := n / unit
  let above := 2 * (n % unit)
  if unit < above || (unit = above && below % 2 = 1) then (below + 1) * unit else below * unit

/-- The least number that is nearer to two to the power of 1024 than to any floating-point number
below it. -/
def floatBound : Nat := Nat.pow 2 1024 - Nat.pow 2 970

/-- The greatest power of ten that is a floating-point number. -/
def greatestPower : Nat := 308

/-- Whether the number is beyond the floating-point numbers. -/
def Scaled.isTooGreat (n : Scaled) : Bool :=
  if n.significand = 0 || n.power < 0 then false
  else if (greatestPower : Int) < n.power then true
  else floatBound ≤ roundTo53 n.significand * roundTo53 (Nat.pow 10 n.power.toNat)

/-- The natural number that is written with digits alone and that 64 bits hold. -/
def Numeral.natural? (n : Numeral) : Option Nat :=
  if n.isNegative || !n.fraction.isEmpty || !n.exponent.isEmpty || n.scaled.power != 0 then none
  else some n.scaled.significand

end Expansion.Json
