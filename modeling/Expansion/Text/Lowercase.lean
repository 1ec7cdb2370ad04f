import Expansion.Text.LetterTable

/-!
# Lower case

The full lower case of a text: letter by letter, but for two rules of the Unicode standard.

* The capital I with a dot becomes an i and a combining dot.
* **A capital sigma takes its final form at the end of a word** (`endsWord`): a cased letter comes
  before it and none follows, where characters that letter case ignores do not count.
-/

namespace Expansion.Text

/-- The lower case of a letter, where that is one character and depends on nothing around it. -/
def lowerChar (c : Char) : Char :=
  let n := c.toNat
  if n < 0x80 then c.toLower
  else
    match lowerRuns.find? fun (first, last, step, _) =>
        first ≤ n && n ≤ last && (n - first) % step == 0 with
    | some (_, _, _, distance) => Char.ofNat (Int.toNat (n + distance))
    | none => c

/-- Whether the first character that letter case does not ignore is a cased letter. -/
def leadsCased (cs : List Char) : Bool :=
  match cs.dropWhile fun c => inRuns caseIgnorableRuns c.toNat with
  | [] => false
  | c :: _ => inRuns casedRuns c.toNat

/-- Whether a letter between these two sides (the left one read backwards) ends a word. -/
def endsWord (before after : List Char) : Bool := leadsCased before && !leadsCased after

/-- The lower case of the rest of a text; `before` holds what came earlier, last character first. -/
def lowerFrom : List Char → List Char → List Char
  | _, [] => []
  | before, c :: rest =>
    let low :=
      if c = 'Σ' then [if endsWord before rest then 'ς' else 'σ']
      else if c = 'İ' then ['i', Char.ofNat 0x307]
      else [lowerChar c]
    low ++ lowerFrom (c :: before) rest

/-- The text in lower case. -/
def lowercase (s : String) : String := String.ofList (lowerFrom [] s.toList)

end Expansion.Text
