/-!
# Text in bytes

Reading bytes as UTF-8. `String.fromUTF8?` reads well-formed bytes; `ofBytesLossy` reads any bytes.

* **`ofBytesLossy_toUTF8`**: the bytes of a text read back as that text;
* elsewhere each longest start of a character that breaks off, and each byte that starts none,
  becomes one replacement character.
-/

namespace Expansion.Text

/-- The character that stands for bytes that are no text. -/
def replacementChar : Char := Char.ofNat 0xfffd

/-- Whether a byte continues a character. -/
def isContinuation (b : UInt8) : Bool := 0x80 ≤ b && b ≤ 0xbf

/-- The number of bytes that follow a leading byte, and the least and greatest that the first of
them may be; `none` where the byte leads no character of several bytes. -/
def leadRange? (b : UInt8) : Option (Nat × UInt8 × UInt8) :=
  if 0xc2 ≤ b && b ≤ 0xdf then some (1, 0x80, 0xbf)
  else if b == 0xe0 then some (2, 0xa0, 0xbf)
  else if b == 0xed then some (2, 0x80, 0x9f)
  else if 0xe1 ≤ b && b ≤ 0xef then some (2, 0x80, 0xbf)
  else if b == 0xf0 then some (3, 0x90, 0xbf)
  else if 0xf1 ≤ b && b ≤ 0xf3 then some (3, 0x80, 0xbf)
  else if b == 0xf4 then some (3, 0x80, 0x8f)
  else none

/-- The continuation bytes that may follow a leading byte, at most as many as it asks for. -/
def continuationOf (count : Nat) (low high : UInt8) (bytes : List UInt8) : List UInt8 :=
  match bytes with
  | [] => []
  | b :: rest =>
    if low ≤ b && b ≤ high then b :: (rest.takeWhile isContinuation).take (count - 1) else []

/-- The code point of a character of several bytes. -/
def codePoint (count : Nat) (lead : UInt8) (tail : List UInt8) : Nat :=
  tail.foldl (fun n b => n * 64 + b.toNat % 64) (lead.toNat % Nat.pow 2 (6 - count))

/-- The characters of the bytes; `skip` bytes have been read as part of an earlier character. -/
def lossyFrom : Nat → List UInt8 → List Char
  | _, [] => []
  | skip + 1, _ :: rest => lossyFrom skip rest
  | 0, b :: rest =>
    if b < 0x80 then Char.ofNat b.toNat :: lossyFrom 0 rest
    else
      match leadRange? b with
      | none => replacementChar :: lossyFrom 0 rest
      | some (count, low, high) =>
        let tail := continuationOf count low high rest
        let c := if tail.length = count then Char.ofNat (codePoint count b tail)
          else replacementChar
        c :: lossyFrom tail.length rest

/-- The text of some bytes, with a replacement character for what is not well formed. -/
def ofBytesLossy (bytes : ByteArray) : String :=
  (String.fromUTF8? bytes).getD (String.ofList (lossyFrom 0 bytes.data.toList))

theorem fromUTF8?_toUTF8 (s : String) : String.fromUTF8? s.toUTF8 = some s := by
  unfold String.fromUTF8?
  rw [String.toUTF8_eq_toByteArray, dif_pos s.isValidUTF8]
  rfl

/-- The bytes of a text read back as that text. -/
theorem ofBytesLossy_toUTF8 (s : String) : ofBytesLossy s.toUTF8 = s := by
  unfold ofBytesLossy
  rw [fromUTF8?_toUTF8]
  rfl

end Expansion.Text
