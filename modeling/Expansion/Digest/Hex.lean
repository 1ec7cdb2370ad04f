/-!
# Bytes in hexadecimal

Two lower-case digits a byte, most significant first.
-/

namespace Expansion.Digest

/-- The two hexadecimal digits of a byte. -/
def hexOfByte (b : UInt8) : List Char :=
  let digit (n : Nat) := (Nat.toDigits 16 n).headD '0'
  [digit (b.toNat / 16), digit (b.toNat % 16)]

/-- Bytes in hexadecimal. -/
def hex (bytes : List UInt8) : String := String.ofList (bytes.flatMap hexOfByte)

/-- The value of a hexadecimal digit. -/
def hexValue? (c : Char) : Option Nat :=
  if '0' ≤ c && c ≤ '9' then some (c.toNat - 48)
  else if 'a' ≤ c && c ≤ 'f' then some (c.toNat - 87)
  else if 'A' ≤ c && c ≤ 'F' then some (c.toNat - 55)
  else none

/-- The bytes that pairs of hexadecimal digits stand for. -/
def bytesOfHexChars? : List Char → Option (List UInt8)
  | [] => some []
  | [_] => none
  | c :: d :: rest => do
    let high ← hexValue? c
    let low ← hexValue? d
    let bytes ← bytesOfHexChars? rest
    some (UInt8.ofNat (high * 16 + low) :: bytes)

/-- Reads what `hex` writes. -/
def bytesOfHex? (s : String) : Option (List UInt8) := bytesOfHexChars? s.toList

end Expansion.Digest
