import Expansion.Shell.Number

/-!
# Numbers with a fraction

How `printf` reads and prints numbers with a fraction. A number is the nearest one that sixty-four
bits can hold; it is printed from its exact value, rounded to the places that are asked for, and a
value half way between two goes to the even one.
-/

namespace Expansion.Shell

/-- A number with a fraction, exactly. -/
structure Decimal where
  negative : Bool
  numerator : Nat
  denominator : Nat

/-- A number that may not be finite. -/
inductive Real where
  | finite (d : Decimal)
  | infinite (negative : Bool)
  | notANumber (negative : Bool)

/-- A quotient rounded to the nearest whole number, and to the even one of two. -/
def roundDiv (a b : Nat) : Nat :=
  let q := a / b
  let twice := 2 * (a % b)
  if twice > b || (twice == b && q % 2 == 1) then q + 1 else q

namespace Decimal

/-- A quotient divided by a power of two and rounded. -/
def scaledDown (n d : Nat) (power : Int) : Nat :=
  if power ≥ 0 then roundDiv n (d * Nat.pow 2 power.toNat)
  else roundDiv (n * Nat.pow 2 power.natAbs) d

/-- The nearest number to a quotient that sixty-four bits can hold: fifty-three bits times a power
of two, which is at least the one of the least number; and whether the quotient is too great or so
small that it lost bits. -/
def nearest (negative : Bool) (n d : Nat) : Real × Bool :=
  let guess : Int := (n.log2 : Int) - d.log2 - 53
  -- Divided by this power, the quotient has fifty-three bits or one more.
  let power := if scaledDown n d guess ≥ Nat.pow 2 53 then guess + 1 else guess
  let power := if power < -1074 then -1074 else power
  let mantissa := scaledDown n d power
  if power > 971 || (power = 971 && mantissa ≥ Nat.pow 2 53) then (.infinite negative, true)
  else if power ≥ 0 then (.finite ⟨negative, mantissa * Nat.pow 2 power.toNat, 1⟩, false)
  else
    let scale := Nat.pow 2 power.natAbs
    let isExact := n * scale == mantissa * d
    (.finite ⟨negative, mantissa, scale⟩, mantissa < Nat.pow 2 52 && !isExact)

/-- The value of digits before and after a point times a power of ten. -/
def ofDigits (negative : Bool) (whole fraction : Octets) (exponent : Int) :
    Real × Bool :=
  let digits := digitsValue (whole ++ fraction)
  let power := exponent - fraction.length
  -- No number of sixty-four bits is beyond these powers of ten.
  if digits = 0 then (.finite ⟨negative, 0, 1⟩, false)
  else if power < -5000 - fraction.length then (.finite ⟨negative, 0, 1⟩, true)
  else if power > 5000 then (.infinite negative, true)
  else if power ≥ 0 then nearest negative (digits * Nat.pow 10 power.toNat) 1
  else nearest negative digits (Nat.pow 10 power.natAbs)

/-- A number at the start of a text, whether it is out of range, and what is behind it. -/
def leading? (cs : Octets) : Option ((Real × Bool) × Octets) :=
  let cs := cs.dropWhile isSpace
  let (negative, cs) := match cs with
    | '-' :: rest => (true, rest)
    | '+' :: rest => (false, rest)
    | cs => (false, cs)
  let lower := cs.map Char.toLower
  if Octets.startsWith "infinity".toList lower then some ((.infinite negative, false), cs.drop 8)
  else if Octets.startsWith "inf".toList lower then some ((.infinite negative, false), cs.drop 3)
  else if Octets.startsWith "nan".toList lower then some ((.notANumber negative, false), cs.drop 3)
  else
    let whole := cs.takeWhile Char.isDigit
    let cs := cs.drop whole.length
    let (fraction, cs) := match cs with
      | '.' :: rest => (rest.takeWhile Char.isDigit, rest.dropWhile Char.isDigit)
      | cs => ([], cs)
    if whole.isEmpty && fraction.isEmpty then none
    else
      let (exponent, cs) : Int × Octets := match cs with
        | e :: rest =>
          if e = 'e' || e = 'E' then
            let (minus, after) := match rest with
              | '-' :: after => (true, after)
              | '+' :: after => (false, after)
              | after => (false, after)
            let digits := after.takeWhile Char.isDigit
            if digits.isEmpty then (0, cs)
            else
              let value : Int := digitsValue digits
              (if minus then -value else value, after.drop digits.length)
          else (0, cs)
        | [] => (0, cs)
      some (ofDigits negative whole fraction exponent, cs)

/-- Digits with at least so many of them. -/
def padDigits (count n : Nat) : Octets :=
  let digits := Octets.ofNat n
  List.replicate (count - digits.length) '0' ++ digits

/-- The number with so many places, without its sign. -/
def fixed (d : Decimal) (places : Nat) (point : Bool) : Octets :=
  let scaled := roundDiv (d.numerator * Nat.pow 10 places) d.denominator
  let whole := Octets.ofNat (scaled / Nat.pow 10 places)
  if places = 0 then if point then whole ++ ['.'] else whole
  else whole ++ '.' :: padDigits places (scaled % Nat.pow 10 places)

/-- The exponent of ten of the first digit, found from an estimate that is never too small. -/
def exponentFrom (d : Decimal) : Nat → Int → Int
  | 0, e => e
  | budget + 1, e =>
    let reached :=
      if e ≥ 0 then d.numerator ≥ d.denominator * Nat.pow 10 e.toNat
      else d.numerator * Nat.pow 10 e.natAbs ≥ d.denominator
    if reached then e else exponentFrom d budget (e - 1)

/-- The exponent of ten of the first digit. -/
def exponent (d : Decimal) : Int := if d.numerator = 0 then 0 else exponentFrom d 700 310

/-- The digits of a number with one in front of the point and so many places, and the exponent. -/
def scientificDigits (d : Decimal) (places : Nat) : Nat × Int :=
  let e := d.exponent
  let shift : Int := places - e
  let digits :=
    if shift ≥ 0 then roundDiv (d.numerator * Nat.pow 10 shift.toNat) d.denominator
    else roundDiv d.numerator (d.denominator * Nat.pow 10 shift.natAbs)
  if digits ≥ Nat.pow 10 (places + 1) then (digits / 10, e + 1) else (digits, e)

/-- The exponent of a number as it is printed. -/
def exponentText (letter : Char) (e : Int) : Octets :=
  letter :: (if e < 0 then '-' else '+') :: padDigits 2 e.natAbs

/-- The number with an exponent and so many places, without its sign. -/
def scientific (d : Decimal) (places : Nat) (point : Bool) (letter : Char) : Octets :=
  let (digits, e) := d.scientificDigits places
  let lead := Octets.ofNat (digits / Nat.pow 10 places)
  let body :=
    if places = 0 then if point then lead ++ ['.'] else lead
    else lead ++ '.' :: padDigits places (digits % Nat.pow 10 places)
  body ++ exponentText letter e

/-- A text with a point and no zeros at its end. -/
def withoutZeros (cs : Octets) : Octets :=
  if cs.contains '.' then
    match cs.reverse.dropWhile (· == '0') with
    | '.' :: rest => rest.reverse
    | rest => rest.reverse
  else cs

/-- The number with so many digits in the shorter of the two forms, without its sign. -/
def general (d : Decimal) (digits : Nat) (point : Bool) (letter : Char) : Octets :=
  let digits := max digits 1
  let (significant, e) := d.scientificDigits (digits - 1)
  if e < -4 || e ≥ digits then
    let lead := Octets.ofNat (significant / Nat.pow 10 (digits - 1))
    let body :=
      if digits = 1 then if point then lead ++ ['.'] else lead
      else lead ++ '.' :: padDigits (digits - 1) (significant % Nat.pow 10 (digits - 1))
    (if point then body else withoutZeros body) ++ exponentText letter e
  else
    let body := d.fixed (digits - 1 - e).toNat point
    if point then body else withoutZeros body

end Decimal

end Expansion.Shell
