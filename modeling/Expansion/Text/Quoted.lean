import Expansion.Text.LetterTable
import Expansion.Text.PrintableTable

/-!
# Quoted text

How a text is shown inside a description of a value: between double quotes, with an escape for
every character that would not stand there as itself.

* A tab, a line feed, a carriage return, a backslash, a double quote and the null character have
  escapes of their own.
* **Characters that print nothing, or merge with the one before, show their code point** in braces.
* A single quote stands as itself.
-/

namespace Expansion.Text

/-- The code point of a character in braces. -/
def escapedCodePoint (c : Char) : List Char :=
  ['\\', 'u', '\x7b'] ++ Nat.toDigits 16 c.toNat ++ ['\x7d']

/-- One character of a quoted text. -/
def quotedChar (c : Char) : List Char :=
  if c = '\x00' then ['\\', '0']
  else if c = '\t' then ['\\', 't']
  else if c = '\r' then ['\\', 'r']
  else if c = '\n' then ['\\', 'n']
  else if c = '\\' then ['\\', '\\']
  else if c = '"' then ['\\', '"']
  else if c.toNat < 0x20 then escapedCodePoint c
  else if c.toNat < 0x7f then [c]
  else if inRuns extendingRuns c.toNat || inRuns unprintableRuns c.toNat then escapedCodePoint c
  else [c]

/-- The text between double quotes. -/
def quoted (s : String) : String :=
  String.ofList (['"'] ++ s.toList.flatMap quotedChar ++ ['"'])

end Expansion.Text
