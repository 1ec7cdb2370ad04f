import Expansion.Yaml.Scalar

/-!
# Tokens

A YAML text as a list of tokens. Indentation becomes tokens of its own: a deeper column opens a
block collection and a shallower one closes it.

* **A key is recognised late.** Whether a scalar is a key shows only when a colon follows, so a
  place where a key may have begun is remembered (`KeyPlace`) and the key's token is put in there
  when the colon comes. Such a place is given up at the end of its line.
* `Lexer.step` reads one token; `Token.ofText` repeats it on a budget that the text's length bounds,
  since every step but the last takes at least one character.
-/

namespace Expansion.Yaml

/-- A token of a YAML text. -/
inductive Token where
  | versionDirective (major minor : Nat)
  | tagDirective (handle : String)
  | documentStart
  | documentEnd
  | blockSequenceStart
  | blockMappingStart
  | blockEnd
  | flowSequenceStart
  | flowSequenceEnd
  | flowMappingStart
  | flowMappingEnd
  | blockEntry
  | flowEntry
  | key
  | value
  | alias (name : String)
  | anchor (name : String)
  | tag (handle : String)
  | scalar (text : String) (isPlain : Bool)
  deriving DecidableEq, Repr

/-- A place where a key may have begun: the number of tokens before it, and where it stands. A
required one must turn out to be a key. -/
structure KeyPlace where
  required : Bool
  tokenCount : Nat
  index : Nat
  line : Nat
  column : Nat

/-- What the lexer knows between two tokens. -/
structure Lexer where
  cursor : Cursor
  /-- The tokens so far, last first. -/
  tokens : List Token
  /-- The column of the innermost block collection, or -1. -/
  indent : Int
  /-- The columns of the collections around it, innermost first. -/
  outer : List Int
  /-- Whether a key may begin here. -/
  keyAllowed : Bool
  /-- Where a key may have begun: at this level, and then at the levels around it. A level is a pair
  of brackets. -/
  keyPlace : Option KeyPlace
  outerPlaces : List (Option KeyPlace)

namespace Lexer

/-- The lexer at the beginning of a text. -/
def start (cs : List Char) : Lexer where
  cursor := Cursor.start cs
  tokens := []
  indent := -1
  outer := []
  keyAllowed := true
  keyPlace := none
  outerPlaces := []

/-- Whether the lexer is inside brackets. -/
def inFlow (x : Lexer) : Bool := !x.outerPlaces.isEmpty

/-- One more token. -/
def push (x : Lexer) (t : Token) : Lexer := { x with tokens := t :: x.tokens }

/-- A token put in behind the first `count` ones. -/
def insertAt (x : Lexer) (count : Nat) (t : Token) : Lexer :=
  let later := x.tokens.length - count
  { x with tokens := x.tokens.take later ++ t :: x.tokens.drop later }

/-- A fault at the lexer's place. -/
def fail {α : Type} (x : Lexer) (problem : String) : Except Fault α := x.cursor.fail problem

/-- The cursor behind a mark of the byte order, which may stand at the start of any line and counts
as a column. -/
def skipOrderMark (cur : Cursor) : Cursor :=
  if cur.column = 0 && cur.rest.head?.any (fun c => c.toNat == 0xfeff) then cur.skip 1 else cur

/-- The text from the next token on, without blanks, comments and line breaks. -/
def skipToToken : Nat → Lexer → Lexer
  | 0, x => x
  | budget + 1, x =>
    let cur := (skipOrderMark x.cursor).skipWhile fun c =>
      c == ' ' || ((x.inFlow || !x.keyAllowed) && c == '\t')
    let cur := if cur.rest.head? == some '#' then cur.skipWhile fun c => !isBreak c else cur
    match cur.rest with
    | [] => { x with cursor := cur }
    | c :: _ =>
      if isBreak c then
        skipToToken budget
          { x with cursor := cur.skipBreak, keyAllowed := x.keyAllowed || !x.inFlow }
      else { x with cursor := cur }

/-- A place without what is too far back to be a key: on an earlier line, or more than 1024
characters ago. -/
def freshPlace (x : Lexer) (place : Option KeyPlace) : Except Fault (Option KeyPlace) :=
  match place with
  | none => .ok none
  | some p =>
    if p.line < x.cursor.line || p.index + 1024 < x.cursor.index then
      if p.required then x.fail "could not find expected ':'" else .ok none
    else .ok (some p)

/-- The lexer without the places that are too far back. -/
def dropStale (x : Lexer) : Except Fault Lexer := do
  let outerPlaces ← x.outerPlaces.mapM x.freshPlace
  let keyPlace ← x.freshPlace x.keyPlace
  .ok { x with keyPlace, outerPlaces }

/-- The lexer without the place at this level, which must not be a required one. -/
def dropPlace (x : Lexer) : Except Fault Lexer :=
  match x.keyPlace with
  | some p =>
    if p.required then x.fail "could not find expected ':'" else .ok { x with keyPlace := none }
  | none => .ok x

/-- Remembers this place if a key may begin here. -/
def savePlace (x : Lexer) : Except Fault Lexer :=
  if x.keyAllowed then do
    let x ← x.dropPlace
    let cur := x.cursor
    -- At the column of a block mapping nothing but its next key can stand.
    let required := !x.inFlow && x.indent == (cur.column : Int)
    .ok { x with keyPlace := some ⟨required, x.tokens.length, cur.index, cur.line, cur.column⟩ }
  else .ok x

/-- Opens a block collection at a column that is deeper than the innermost one. -/
def rollIndent (x : Lexer) (column : Nat) (place : Option Nat) (t : Token) : Lexer :=
  if x.inFlow || (column : Int) ≤ x.indent then x
  else
    let x := { x with indent := column, outer := x.indent :: x.outer }
    match place with
    | some count => x.insertAt count t
    | none => x.push t

/-- Closes the collections that are deeper than a column, of a list of them. -/
def unrollFrom (column : Int) : Int → List Int → List Token → Int × List Int × List Token
  | indent, [], tokens => (indent, [], tokens)
  | indent, next :: outer, tokens =>
    if column < indent then unrollFrom column next outer (.blockEnd :: tokens)
    else (indent, next :: outer, tokens)

/-- Closes the block collections that are deeper than a column. -/
def unrollIndent (x : Lexer) (column : Int) : Lexer :=
  if x.inFlow then x
  else
    let (indent, outer, tokens) := unrollFrom column x.indent x.outer x.tokens
    { x with indent, outer, tokens }

/-- Whether the character may stand in the name of an anchor or a directive. -/
def isNameChar (c : Char) : Bool := c.isAlphanum || c == '_' || c == '-'

/-- Whether the character may stand in a tag. -/
def isTagChar (c : Char) : Bool :=
  isNameChar c || [';', '/', '?', ':', '@', '&', '=', '+', '$', '.', '%', '!', '~', '*', '(', ')',
    Char.ofNat 39].contains c

/-- A name in front of the cursor, and the cursor behind it. -/
def takeWhile (cur : Cursor) (p : Char → Bool) : String × Cursor :=
  (String.ofList (cur.rest.takeWhile p), cur.skipWhile p)

/-! ## One token -/

/-- A decimal number of at most nine digits in front of a cursor. -/
def versionNumber (cur : Cursor) : Except Fault (Nat × Cursor) :=
  let digits := cur.rest.takeWhile Char.isDigit
  if digits.isEmpty then cur.fail "did not find expected version number"
  else if 9 < digits.length then cur.fail "found extremely long version number"
  else .ok (digits.foldl (fun n d => n * 10 + (d.toNat - 48)) 0, cur.skip digits.length)

/-- A tag in front of a cursor, as far as it matters: its handle. -/
def tagHandle (cur : Cursor) (isDirective : Bool) : Except Fault (String × Cursor) :=
  if cur.rest.head? != some '!' then cur.fail "did not find expected '!'"
  else
    let (name, behind) := takeWhile (cur.skip 1) isNameChar
    if behind.rest.head? == some '!' then .ok ("!" ++ name ++ "!", behind.skip 1)
    else if isDirective && !name.isEmpty then cur.fail "did not find expected '!'"
    else .ok ("!" ++ name, behind)

/-- The number of octets that encode a character, told by the first of them. -/
def octetCount? (first : Nat) : Option Nat :=
  if first < 0x80 then some 1
  else if first < 0xc0 then none
  else if first < 0xe0 then some 2
  else if first < 0xf0 then some 3
  else if first < 0xf8 then some 4
  else none

/-- What is wrong with the octets of a tag, each a percent sign and two hexadecimal digits, of which
`pending` more are needed for the character that has begun. -/
def octetProblem? : Nat → List Char → Option String
  | 0, [] => none
  | _ + 1, [] => some "did not find URI escaped octet"
  | pending, '%' :: a :: b :: rest =>
    match hexNumber? 2 0 [a, b], pending with
    | none, _ => some "did not find URI escaped octet"
    | some n, 0 =>
      match octetCount? n with
      | some count => octetProblem? (count - 1) rest
      | none => some "found an incorrect leading UTF-8 octet"
    | some n, more + 1 =>
      if 0x80 ≤ n && n < 0xc0 then octetProblem? more rest
      else some "found an incorrect trailing UTF-8 octet"
  | pending, c :: rest =>
    if c == '%' || pending != 0 then some "did not find URI escaped octet"
    else octetProblem? 0 rest

/-- The number of characters of a tag in front of a cursor, and the cursor behind them. -/
def tagText (cur : Cursor) (p : Char → Bool) : Except Fault (Nat × Cursor) :=
  let text := cur.rest.takeWhile p
  match octetProblem? 0 text with
  | none => .ok (text.length, cur.skip text.length)
  | some problem => cur.fail problem

/-- A directive: a line that begins with a percent sign. -/
def directive (x : Lexer) : Except Fault Lexer := do
  let x ← (x.unrollIndent (-1)).dropPlace
  let (name, cur) := takeWhile (x.cursor.skip 1) isNameChar
  if name.isEmpty then cur.fail "could not find expected directive name"
  else if !isGapAhead cur.rest then cur.fail "found unexpected non-alphabetical character"
  else
    let cur := cur.skipWhile isSpace
    let (token, cur) ←
      (if name == "YAML" then do
        let (major, cur) ← versionNumber cur
        if cur.rest.head? != some '.' then cur.fail "did not find expected digit or '.' character"
        else
          let (minor, cur) ← versionNumber (cur.skip 1)
          .ok (Token.versionDirective major minor, cur)
      else if name == "TAG" then do
        let (handle, cur) ← tagHandle cur true
        if !(cur.rest.head?.map isSpace).getD false then cur.fail "did not find expected whitespace"
        else
          let cur := cur.skipWhile isSpace
          let (length, cur) ← tagText cur fun c => isTagChar c || [',', '[', ']'].contains c
          if length = 0 then cur.fail "did not find expected tag URI"
          else if !isGapAhead cur.rest then
            cur.fail "did not find expected whitespace or line break"
          else .ok (Token.tagDirective handle, cur)
      else cur.fail "found unknown directive name" : Except Fault (Token × Cursor))
    let cur := cur.skipWhile isSpace
    let cur := if cur.rest.head? == some '#' then cur.skipWhile fun c => !isBreak c else cur
    if !isLineEnd cur.rest then cur.fail "did not find expected comment or line break"
    else .ok ({ x with cursor := cur.skipBreak, keyAllowed := false }.push token)

/-- The mark of a document's start or end. -/
def documentMark (x : Lexer) (t : Token) : Except Fault Lexer := do
  let x ← (x.unrollIndent (-1)).dropPlace
  .ok ({ x with cursor := x.cursor.skip 3, keyAllowed := false }.push t)

/-- An opening bracket. -/
def openFlow (x : Lexer) (t : Token) : Except Fault Lexer := do
  let x ← x.savePlace
  -- The place of the bracket is kept for the level outside: all of the collection may be a key.
  let x := { x with
    cursor := x.cursor.skip 1, keyAllowed := true
    keyPlace := none, outerPlaces := x.keyPlace :: x.outerPlaces }
  .ok (x.push t)

/-- A closing bracket. -/
def closeFlow (x : Lexer) (t : Token) : Except Fault Lexer := do
  let x ← x.dropPlace
  let x := { x with cursor := x.cursor.skip 1, keyAllowed := false }
  match x.outerPlaces with
  | place :: outerPlaces => .ok ({ x with keyPlace := place, outerPlaces }.push t)
  | [] => .ok (x.push t)

/-- A comma between brackets. -/
def flowEntry (x : Lexer) : Except Fault Lexer := do
  let x ← x.dropPlace
  .ok ({ x with cursor := x.cursor.skip 1, keyAllowed := true }.push .flowEntry)

/-- The dash of an item. -/
def blockEntry (x : Lexer) : Except Fault Lexer :=
  if !x.inFlow && !x.keyAllowed then
    x.fail "block sequence entries are not allowed in this context"
  else do
    let x ← (x.rollIndent x.cursor.column none .blockSequenceStart).dropPlace
    .ok ({ x with cursor := x.cursor.skip 1, keyAllowed := true }.push .blockEntry)

/-- The question mark before a key. -/
def keyMark (x : Lexer) : Except Fault Lexer :=
  if !x.inFlow && !x.keyAllowed then x.fail "mapping keys are not allowed in this context"
  else do
    let x ← (x.rollIndent x.cursor.column none .blockMappingStart).dropPlace
    .ok ({ x with cursor := x.cursor.skip 1, keyAllowed := !x.inFlow }.push .key)

/-- The colon before a value. A place where a key may have begun is where it did. -/
def valueMark (x : Lexer) : Except Fault Lexer :=
  match x.keyPlace with
  | some p =>
    -- The tokens of the key are there already, so the marks of the key go in front of them.
    let x := (x.insertAt p.tokenCount .key).rollIndent p.column (some p.tokenCount)
      .blockMappingStart
    .ok ({ x with cursor := x.cursor.skip 1, keyAllowed := false, keyPlace := none }.push .value)
  | none =>
    if !x.inFlow && !x.keyAllowed then x.fail "mapping values are not allowed in this context"
    else
      let x := x.rollIndent x.cursor.column none .blockMappingStart
      .ok ({ x with cursor := x.cursor.skip 1, keyAllowed := !x.inFlow }.push .value)

/-- A name behind an ampersand or an asterisk. -/
def anchorOrAlias (x : Lexer) (make : String → Token) : Except Fault Lexer := do
  let x ← x.savePlace
  let (name, cur) := takeWhile (x.cursor.skip 1) isNameChar
  let ends :=
    match cur.rest with
    | [] => true
    | c :: _ => isGapAhead cur.rest || ['?', ':', ',', ']', '\x7d', '%', '@', '\x60'].contains c
  if name.isEmpty || !ends then cur.fail "did not find expected alphabetic or numeric character"
  else .ok ({ x with cursor := cur, keyAllowed := false }.push (make name))

/-- A tag. -/
def tag (x : Lexer) : Except Fault Lexer := do
  let x ← x.savePlace
  let (handle, cur) ←
    (match x.cursor.rest with
    | '!' :: '<' :: _ => do
      let (length, cur) ← tagText (x.cursor.skip 2) fun c =>
        isTagChar c || [',', '[', ']'].contains c
      if length = 0 then cur.fail "did not find expected tag URI"
      else if cur.rest.head? != some '>' then cur.fail "did not find the expected '>'"
      else .ok ("", cur.skip 1)
    | _ => do
      let (handle, cur) ← tagHandle x.cursor false
      let isNamed := 1 < handle.length && handle.toList.getLast? == some '!'
      let (length, cur) ← tagText cur isTagChar
      if isNamed && length = 0 then cur.fail "did not find expected tag URI"
      else .ok (if isNamed then handle else "!", cur) : Except Fault (String × Cursor))
  if isGapAhead cur.rest || (x.inFlow && cur.rest.head? == some ',') then
    .ok ({ x with cursor := cur, keyAllowed := false }.push (.tag handle))
  else cur.fail "did not find expected whitespace or line break"

/-- A block scalar. -/
def block (x : Lexer) (literal : Bool) : Except Fault Lexer := do
  let x ← x.dropPlace
  let (text, cursor) ← blockScalar literal x.indent (x.cursor.skip 1)
  .ok ({ x with cursor, keyAllowed := true }.push (.scalar (String.ofList text) false))

/-- A scalar in quotes. -/
def quoted (x : Lexer) (single : Bool) : Except Fault Lexer := do
  let x ← x.savePlace
  let cur := x.cursor.skip 1
  let (text, cursor) ← quotedFrom single (cur.rest.length + 1) cur [] Fold.none
  .ok ({ x with cursor, keyAllowed := false }.push (.scalar (String.ofList text.reverse) false))

/-- A plain scalar. -/
def plain (x : Lexer) : Except Fault Lexer := do
  let x ← x.savePlace
  let cur := x.cursor
  let (text, cursor, lineEnded) ←
    plainFrom x.inFlow (x.indent + 1) (cur.rest.length + 1) cur [] Fold.none
  .ok ({ x with cursor, keyAllowed := lineEnded }.push (.scalar (String.ofList text.reverse) true))

/-- The characters that mean something of their own at the start of a token. -/
def indicators : List Char :=
  ['-', '?', ':', ',', '[', ']', '\x7b', '\x7d', '#', '&', '*', '!', '|', '>', Char.ofNat 39, '"',
    '%', '@', '\x60']

/-- Whether a plain scalar may begin with this character. -/
def startsPlain (inFlow : Bool) (c : Char) (rest : List Char) : Bool :=
  let blankAhead := (rest.head?.map isSpace).getD false
  !(isSpace c || isBreak c || indicators.contains c) || (c == '-' && !blankAhead)
    || (!inFlow && (c == '?' || c == ':') && !isGapAhead rest)

/-- The next token, or `none` at the end of the text. -/
def step (x : Lexer) : Except Fault (Option Lexer) := do
  let x := skipToToken (x.cursor.rest.length + 1) x
  let x ← x.dropStale
  let x := x.unrollIndent x.cursor.column
  match x.cursor.rest with
  | [] => .ok none
  | c :: rest =>
    let flow := x.inFlow
    if x.cursor.column = 0 && c == '%' then x.directive
    else if x.cursor.column = 0 && isMarkAhead '-' '-' '-' (c :: rest) then
      x.documentMark .documentStart
    else if x.cursor.column = 0 && isMarkAhead '.' '.' '.' (c :: rest) then
      x.documentMark .documentEnd
    else if c == '[' then x.openFlow .flowSequenceStart
    else if c == '\x7b' then x.openFlow .flowMappingStart
    else if c == ']' then x.closeFlow .flowSequenceEnd
    else if c == '\x7d' then x.closeFlow .flowMappingEnd
    else if c == ',' then x.flowEntry
    else if c == '-' && isGapAhead rest then x.blockEntry
    else if c == '?' && (flow || isGapAhead rest) then x.keyMark
    else if c == ':' && (flow || isGapAhead rest) then x.valueMark
    else if c == '*' then x.anchorOrAlias .alias
    else if c == '&' then x.anchorOrAlias .anchor
    else if c == '!' then x.tag
    else if c == '|' && !flow then x.block true
    else if c == '>' && !flow then x.block false
    else if c.toNat == 39 then x.quoted true
    else if c == '"' then x.quoted false
    else if startsPlain flow c rest then x.plain
    else x.fail "found character that cannot start any token"

/-- The tokens at the end of a text: whatever is open is closed. -/
def finish (x : Lexer) : Except Fault (List Token) := do
  let x ← (x.unrollIndent (-1)).dropPlace
  .ok x.tokens.reverse

/-- The tokens from here to the end. -/
def run : Nat → Lexer → Except Fault (List Token)
  | 0, x => x.finish
  | budget + 1, x => do
    match ← x.step with
    | none => x.finish
    | some x => run budget x

end Lexer

/-- The place of a character that may not stand in a text. -/
def forbidden? : Nat → Nat → List Char → Option Fault
  | _, _, [] => none
  | line, column, c :: rest =>
    if !isAllowed c then some ⟨"control characters are not allowed", line, column⟩
    else if c == '\n' then forbidden? (line + 1) 0 rest
    else forbidden? line (column + 1) rest

/-- The tokens of a text. -/
def Token.ofText (s : String) : Except Fault (List Token) :=
  let cs := s.toList
  match forbidden? 0 0 cs with
  | some fault => .error fault
  | none => Lexer.run (cs.length + 1) (Lexer.start cs)

end Expansion.Yaml
