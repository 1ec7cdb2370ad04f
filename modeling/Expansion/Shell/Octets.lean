import Expansion.Text.Split
import Expansion.Text.Utf8

/-!
# The texts of a shell

A shell works on bytes and not on characters: `${#x}` counts bytes, and `?` stands for one byte. Its
texts are lists of characters below 256, each of which stands for a byte. For texts within ASCII the
two readings are the same.
-/

namespace Expansion.Shell

/-- A text of a shell: characters that stand for one byte each. -/
abbrev Octets := List Char

namespace Octets

/-- The text of some bytes. -/
def ofBytes (bytes : ByteArray) : Octets := bytes.data.toList.map fun b => Char.ofNat b.toNat

/-- The bytes of a text. -/
def toBytes (o : Octets) : ByteArray := ⟨(o.map fun c => UInt8.ofNat c.toNat).toArray⟩

/-- The text that holds the encoding of a string. -/
def ofString (s : String) : Octets := ofBytes s.toUTF8

/-- The string whose encoding a text holds. -/
def toString (o : Octets) : String := Text.ofBytesLossy (toBytes o)

/-- A number in decimal digits. -/
def ofNat (n : Nat) : Octets := Nat.toDigits 10 n

/-- A whole number in decimal digits. -/
def ofInt (n : Int) : Octets := if n < 0 then '-' :: ofNat n.natAbs else ofNat n.natAbs

/-- Texts with another one between each two of them. -/
def join (separator : Octets) : List Octets → Octets
  | [] => []
  | [o] => o
  | o :: rest => o ++ separator ++ join separator rest

/-- Whether a text begins with another. -/
def startsWith (start o : Octets) : Bool := (Text.afterPrefix? start o).isSome

/-- A text without the line feeds at its end. -/
def withoutLastNewlines (o : Octets) : Octets := (o.reverse.dropWhile (· == '\n')).reverse

/-- The lines of a text, each without its line feed, and whether the last one had one. -/
def lines (o : Octets) : List Octets × Bool :=
  match (Text.splitChars '\n' o).reverse with
  | [] :: pieces => (pieces.reverse, true)
  | pieces => (pieces.reverse, false)

/-- Lines with a line feed behind each. -/
def unlines (ls : List Octets) : Octets := ls.flatMap (· ++ ['\n'])

end Octets

/-- Whether a text comes before another one or is the same, byte by byte. -/
def textLe : Octets → Octets → Bool
  | [], _ => true
  | _ :: _, [] => false
  | a :: as, b :: bs => a < b || (a == b && textLe as bs)

/-- Whether a name may have the character. -/
def isNameChar (c : Char) : Bool := c.isAlphanum || c == '_'

/-- Whether a name may begin with the character. -/
def isNameStart (c : Char) : Bool := c.isAlpha || c == '_'

/-- Whether the text is the name of a variable. -/
def isName (o : Octets) : Bool := (o.head?.map isNameStart).getD false && o.all isNameChar

/-- Whether the character by itself names a parameter. -/
def isSpecialName (c : Char) : Bool := c.isDigit || ['@', '*', '#', '?', '$', '!', '-'].contains c

/-- The character that begins and ends text in which nothing has a meaning. -/
def singleQuote : Char := Char.ofNat 39

/-- The value of decimal digits. -/
def digitsValue (digits : Octets) : Nat :=
  digits.foldl (fun n d => 10 * n + (d.toNat - '0'.toNat)) 0

end Expansion.Shell
