import Expansion.Yaml.Cursor

/-!
# Scalars

The texts of a YAML document, by style: plain, quoted with one or two quotes, and blocks that keep
or fold their lines. Each reader takes a cursor at the scalar's first character and returns the text
with the cursor behind it.

* **Line breaks inside a scalar fold** (`Fold`): one break becomes a space, and of several all but
  the first are kept.
* All readers recurse on a budget that the length of the text bounds.
-/

namespace Expansion.Yaml

/-- Blanks and breaks that have been met and belong to the scalar only if more of it follows. -/
structure Fold where
  /-- The blanks since the last character, last first, while no break has been met. -/
  spaces : List Char
  /-- Whether a line has ended. -/
  lineEnded : Bool
  /-- What the first break leaves. -/
  first : List Char
  /-- What the other breaks leave, last first. -/
  more : List Char

/-- Nothing pending. -/
def Fold.none : Fold := ⟨[], false, [], []⟩

/-- What the blanks and breaks become when the scalar goes on. -/
def Fold.chars (f : Fold) : List Char :=
  if f.lineEnded then
    if f.first == ['\n'] then if f.more.isEmpty then [' '] else f.more.reverse
    else f.first ++ f.more.reverse
  else f.spaces.reverse

/-- One more blank. -/
def Fold.space (f : Fold) (c : Char) : Fold :=
  if f.lineEnded then f else { f with spaces := c :: f.spaces }

/-- One more break. -/
def Fold.break (f : Fold) (c : Char) : Fold :=
  if f.lineEnded then { f with more := breakChar c :: f.more }
  else { f with spaces := [], lineEnded := true, first := [breakChar c] }

/-! ## Plain scalars -/

/-- Whether a plain scalar ends at this character, inside or outside brackets. -/
def endsPlain (inFlow : Bool) (c : Char) (rest : List Char) : Bool :=
  (c == ':' && isGapAhead rest) || (inFlow && [',', '[', ']', '\x7b', '\x7d'].contains c)

/-- Whether a colon inside brackets stands where none can. -/
def isStrayColon (inFlow : Bool) (c : Char) (rest : List Char) : Bool :=
  inFlow && c == ':' &&
    match rest with
    | next :: _ => [',', '?', '[', ']', '\x7b', '\x7d'].contains next
    | [] => false

/-- The rest of a plain scalar: `acc` is its text so far, last character first. The third part of
the result tells whether a line has ended since the last character. -/
def plainFrom (inFlow : Bool) (indent : Int) : Nat → Cursor → List Char → Fold →
    Except Fault (List Char × Cursor × Bool)
  | 0, cur, acc, fold => .ok (acc, cur, fold.lineEnded)
  | budget + 1, cur, acc, fold =>
    let stop : Except Fault (List Char × Cursor × Bool) := .ok (acc, cur, fold.lineEnded)
    let inGap := fold.lineEnded || !fold.spaces.isEmpty
    match cur.rest with
    | [] => stop
    | c :: rest =>
      if isSpace c then
        if fold.lineEnded && (cur.column : Int) < indent && c == '\t' then
          cur.fail "found a tab character that violates indentation"
        else plainFrom inFlow indent budget (cur.skip 1) acc (fold.space c)
      else if isBreak c then plainFrom inFlow indent budget cur.skipBreak acc (fold.break c)
      -- Behind a blank or a break the scalar may end at the indentation, a mark or a comment.
      else if inGap && ((!inFlow && (cur.column : Int) < indent) || cur.isDocumentMark || c == '#')
      then stop
      else if isStrayColon inFlow c rest then cur.fail "found unexpected ':'"
      else if endsPlain inFlow c rest then stop
      else plainFrom inFlow indent budget (cur.skip 1) (c :: (fold.chars.reverse ++ acc)) Fold.none

/-! ## Quoted scalars -/

/-- The value of a hexadecimal digit. -/
def hexValue? (c : Char) : Option Nat :=
  if '0' ≤ c && c ≤ '9' then some (c.toNat - 48)
  else if 'a' ≤ c && c ≤ 'f' then some (c.toNat - 87)
  else if 'A' ≤ c && c ≤ 'F' then some (c.toNat - 55)
  else none

/-- The number of so many hexadecimal digits. -/
def hexNumber? : Nat → Nat → List Char → Option Nat
  | 0, n, _ => some n
  | _ + 1, _, [] => none
  | count + 1, n, c :: rest =>
    match hexValue? c with
    | some d => hexNumber? count (n * 16 + d) rest
    | none => none

/-- The code point of an escape that is a letter alone. -/
def letterEscape? (c : Char) : Option Nat :=
  if c == '0' then some 0
  else if c == 'a' then some 7
  else if c == 'b' then some 8
  else if c == 't' || c == '\t' then some 9
  else if c == 'n' then some 10
  else if c == 'v' then some 11
  else if c == 'f' then some 12
  else if c == 'r' then some 13
  else if c == 'e' then some 0x1b
  else if c == ' ' || c == '"' || c == '/' || c == '\\' then some c.toNat
  else if c == 'N' then some 0x85
  else if c == '_' then some 0xa0
  else if c == 'L' then some 0x2028
  else if c == 'P' then some 0x2029
  else none

/-- The number of hexadecimal digits behind an escape that has some. -/
def escapeDigits? (c : Char) : Option Nat :=
  if c == 'x' then some 2 else if c == 'u' then some 4 else if c == 'U' then some 8 else none

/-- The character of the escape behind a backslash, and the number of characters it takes. -/
def escape? : List Char → Option (Char × Nat)
  | [] => none
  | c :: rest =>
    match letterEscape? c with
    | some n => some (Char.ofNat n, 1)
    | none => do
      let count ← escapeDigits? c
      let n ← hexNumber? count 0 rest
      if (0xd800 ≤ n && n ≤ 0xdfff) || 0x10ffff < n then none else some (Char.ofNat n, count + 1)

/-- The rest of a scalar in quotes, after the opening one. -/
def quotedFrom (single : Bool) : Nat → Cursor → List Char → Fold → Except Fault (List Char × Cursor)
  | 0, cur, _, _ => cur.fail "found unexpected end of stream"
  | budget + 1, cur, acc, fold =>
    let more (cur : Cursor) (c : Char) :=
      quotedFrom single budget cur (c :: (fold.chars.reverse ++ acc)) Fold.none
    let quote := if single then Char.ofNat 39 else '"'
    if cur.isDocumentMark then cur.fail "found unexpected document indicator"
    else
      match cur.rest with
      | [] => cur.fail "found unexpected end of stream"
      | c :: rest =>
        if isSpace c then quotedFrom single budget (cur.skip 1) acc (fold.space c)
        else if isBreak c then quotedFrom single budget cur.skipBreak acc (fold.break c)
        else if c == quote then
          if single && rest.head? == some quote then more (cur.skip 2) quote
          else .ok (fold.chars.reverse ++ acc, cur.skip 1)
        else if !single && c == '\\' then
          match rest with
          | [] => cur.fail "found unexpected end of stream"
          | e :: _ =>
            if isBreak e then
              -- The break is written away: it folds with what follows and leaves nothing itself.
              quotedFrom single budget (cur.skip 1).skipBreak (fold.chars.reverse ++ acc)
                { Fold.none with lineEnded := true }
            else
              match escape? rest with
              | some (value, length) => more (cur.skip (length + 1)) value
              | none => cur.fail "found unknown escape character"
        else more (cur.skip 1) c

/-! ## Block scalars -/

/-- How the breaks at the end of a block are treated. -/
inductive Chomping where
  /-- None is kept. -/
  | strip
  /-- The first is kept. -/
  | clip
  /-- All are kept. -/
  | keep
  deriving DecidableEq

/-- The chomping that a character asks for. -/
def chomping? (c : Char) : Option Chomping :=
  if c == '+' then some .keep else if c == '-' then some .strip else none

/-- The indentation that a digit asks for. -/
def increment? (c : Char) : Option Nat :=
  if '0' ≤ c && c ≤ '9' then some (c.toNat - 48) else none

/-- The marks behind the sign of a block: chomping and indentation in either order. -/
def blockMarks (cur : Cursor) : Except Fault (Chomping × Option Nat × Cursor) :=
  let digit (cur : Cursor) : Except Fault (Option Nat × Cursor) :=
    match cur.rest.head?.bind increment? with
    | some 0 => cur.fail "found an indentation indicator equal to 0"
    | some n => .ok (some n, cur.skip 1)
    | none => .ok (none, cur)
  match cur.rest.head?.bind chomping? with
  | some chomp => do
    let (increment, cur) ← digit (cur.skip 1)
    .ok (chomp, increment, cur)
  | none => do
    let (increment, cur) ← digit cur
    match increment, cur.rest.head?.bind chomping? with
    | some _, some chomp => .ok (chomp, increment, cur.skip 1)
    | _, _ => .ok (.clip, increment, cur)

/-- The empty lines in front of a block's next line: their breaks, last first, the indentation,
which the deepest of them gives when it is not known yet, and the cursor behind them. -/
def blockBreaks (indent : Nat) : Nat → Cursor → Nat → List Char →
    Except Fault (Nat × List Char × Cursor)
  | 0, cur, deepest, acc => .ok (deepest, acc, cur)
  | budget + 1, cur, deepest, acc =>
    let room := if indent = 0 then cur.rest.length else indent - cur.column
    let cur := cur.skip ((cur.rest.take room).takeWhile (· == ' ')).length
    let deepest := max deepest cur.column
    if (indent = 0 || cur.column < indent) && cur.rest.head? == some '\t' then
      cur.fail "found a tab character where an indentation space is expected"
    else
      match cur.rest with
      | [] => .ok (deepest, acc, cur)
      | c :: _ =>
        if isBreak c then blockBreaks indent budget cur.skipBreak deepest (breakChar c :: acc)
        else .ok (deepest, acc, cur)

/-- The lines of a block whose indentation is known. `acc` is the text so far, last character first;
`ending` is the break of the last line and `breaks` are those of the empty lines behind it. -/
def blockLines (literal : Bool) (indent : Nat) : Nat → Cursor → List Char → List Char → List Char →
    Bool → Except Fault (List Char × List Char × List Char × Cursor)
  | 0, cur, acc, ending, breaks, _ => .ok (acc, ending, breaks, cur)
  | budget + 1, cur, acc, ending, breaks, wasBlank =>
    if cur.column = indent && !cur.rest.isEmpty then do
      let isBlankLine := (cur.rest.head?.map isSpace).getD false
      -- A break folds only between two lines of which neither begins with a blank.
      let joint :=
        if !literal && ending == ['\n'] && !wasBlank && !isBlankLine then
          if breaks.isEmpty then [' '] else []
        else ending
      let text := cur.rest.takeWhile fun c => !isBreak c
      let behind := cur.skip text.length
      let (_, next, cur) ← blockBreaks indent (behind.rest.length + 1) behind.skipBreak 0 []
      blockLines literal indent budget cur
        (text.reverse ++ breaks ++ joint.reverse ++ acc) (breakAhead behind.rest) next isBlankLine
    else .ok (acc, ending, breaks, cur)

/-- A block scalar whose sign has been read, inside a collection at column `parent` (or -1). -/
def blockScalar (literal : Bool) (parent : Int) (cur : Cursor) :
    Except Fault (List Char × Cursor) := do
  let (chomp, increment, cur) ← blockMarks cur
  let cur := cur.skipWhile isSpace
  let cur := if cur.rest.head? == some '#' then cur.skipWhile fun c => !isBreak c else cur
  if !isLineEnd cur.rest then cur.fail "did not find expected comment or line break"
  else
    let cur := cur.skipBreak
    let known : Nat :=
      match increment with
      | some n => if parent < 0 then n else parent.toNat + n
      | none => 0
    let (deepest, breaks, cur) ← blockBreaks known (cur.rest.length + 1) cur 0 []
    let indent := if known = 0 then max (max deepest (parent + 1).toNat) 1 else known
    let (acc, ending, breaks, cur) ←
      blockLines literal indent (cur.rest.length + 1) cur [] [] breaks false
    let tail :=
      match chomp with
      | .strip => []
      | .clip => ending
      | .keep => ending ++ breaks.reverse
    .ok (acc.reverse ++ tail, cur)

end Expansion.Yaml
