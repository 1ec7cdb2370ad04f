import Expansion.Pattern.Basic
import Expansion.Text.Blank
import Expansion.Text.WordTable

/-!
# Reading patterns

The written form of patterns: literal characters, `.`, sets in brackets, groups, bars, the
repetitions `*`, `+` and `?` (a second `?` prefers fewer turns), and flags such as `(?i)`.

* **A count in braces is not part of the form**, so an opening brace must be escaped.
* A flag holds from where it is set to the end of the group around it; `Mode` is the flags of a
  place.
* Without the flag `u` every set must stay within ASCII. With it, the places at the edges of words
  are of a kind that `Fault.wideWordEdge` refuses, whatever comes after them.
* Lines are of no interest to the texts that are searched, so the flags about them change nothing.
-/

namespace Expansion.Pattern

/-- Why a text is no pattern. -/
inductive Fault where
  /-- It is not written well. -/
  | malformed
  /-- It asks for the edges of words of all scripts. -/
  | wideWordEdge
  deriving DecidableEq, Repr

/-- The flags of a place. -/
structure Mode where
  ignoresCase : Bool
  /-- Whether repetitions prefer fewer turns. -/
  lazy : Bool
  /-- Whether blanks and comments say nothing. -/
  verbose : Bool
  /-- Whether characters beyond ASCII are known. -/
  wide : Bool
  deriving DecidableEq, Repr

/-- The flags at the beginning. -/
def Mode.standard : Mode := ⟨false, false, false, true⟩

/-- What a reader knows at a place. -/
structure Reader where
  mode : Mode
  /-- The names of the groups so far. -/
  names : List String
  /-- Whether the edge of a word has been asked for in wide mode. -/
  askedWide : Bool

/-- Drops a comment up to the end of its line. -/
def skipComment : List Char → List Char
  | [] => []
  | c :: rest => if c = '\n' then rest else skipComment rest

/-- The text from the next character that says something. -/
def skipVerbose (mode : Mode) : Nat → List Char → List Char
  | 0, cs => cs
  | _ + 1, [] => []
  | budget + 1, c :: rest =>
    if !mode.verbose then c :: rest
    else if Text.isBlank c then skipVerbose mode budget rest
    else if c = '#' then skipVerbose mode budget (skipComment rest)
    else c :: rest

/-- The text from the next character that says something. -/
def next (mode : Mode) (cs : List Char) : List Char := skipVerbose mode (cs.length + 1) cs

/-! ## Escapes -/

/-- The characters that mean something of their own. -/
def metaChars : List Char :=
  ['\\', '.', '+', '*', '?', '(', ')', '|', '[', ']', '\x7b', '\x7d', '^', '$', '#', '&', '-', '~']

/-- Whether a backslash before the character leaves the character. -/
def isEscapable (c : Char) : Bool :=
  metaChars.contains c || (c.toNat < 0x80 && !c.isAlphanum && c != '<' && c != '>')

/-- The character of an escape that is one letter. -/
def letterEscape? (c : Char) : Option Char :=
  if c = 'a' then some (Char.ofNat 7)
  else if c = 'f' then some (Char.ofNat 12)
  else if c = 't' then some '\t'
  else if c = 'n' then some '\n'
  else if c = 'r' then some '\r'
  else if c = 'v' then some (Char.ofNat 11)
  else none

/-- The place that an escape stands for. -/
def placeEscape? (c : Char) : Option Place :=
  if c = 'A' then some .start
  else if c = 'z' then some .stop
  else if c = 'b' then some .wordEdge
  else if c = 'B' then some .noWordEdge
  else if c = '<' then some .wordStart
  else if c = '>' then some .wordEnd
  else none

/-- The set that an escape stands for; its capital letter stands for the others. -/
def setEscape? (c : Char) : Option CharSet :=
  if c = 'd' then some .digit
  else if c = 's' then some .space
  else if c = 'w' then some .word
  else if c = 'D' then some (.complement .digit)
  else if c = 'S' then some (.complement .space)
  else if c = 'W' then some (.complement .word)
  else none

/-- The ASCII characters of a general category, named by one letter. -/
def categorySet? (c : Char) : Option CharSet :=
  let symbols := CharSet.ofList ['$', '+', '<', '=', '>', '^', '\x60', '|', '~']
  match c.toLower with
  | 'l' => some .alpha
  | 'm' => some .none
  | 'n' => some .digit
  | 'p' => some (.minus .punct symbols)
  | 's' => some symbols
  | 'z' => some (.single ' ')
  | 'c' => some .cntrl
  | _ => none

/-- The value of so many hexadecimal digits in front, and the rest. -/
def hexValue? : Nat → Nat → List Char → Option (Nat × List Char)
  | 0, n, cs => some (n, cs)
  | _ + 1, _, [] => none
  | count + 1, n, c :: rest =>
    if c.isDigit then hexValue? count (n * 16 + (c.toNat - 48)) rest
    else if 'a' ≤ c.toLower && c.toLower ≤ 'f' then
      hexValue? count (n * 16 + (c.toLower.toNat - 87)) rest
    else none

/-- What an escape stands for. -/
inductive Escape where
  | literal (c : Char) (isByte : Bool)
  | set (s : CharSet)
  | place (p : Place)

/-- The escape behind a backslash, and the rest. -/
def escape (mode : Mode) : List Char → Except Fault (Escape × List Char)
  | [] => .error .malformed
  | c :: rest =>
    if c = 'x' || c = 'u' || c = 'U' then
      let digits := if c = 'x' then 2 else if c = 'u' then 4 else 8
      match hexValue? digits 0 rest with
      | some (n, rest) =>
        if (0xd800 ≤ n && n ≤ 0xdfff) || 0x10ffff < n then .error .malformed
        else .ok (.literal (Char.ofNat n) (c = 'x'), rest)
      | none => .error .malformed
    else if c = 'p' || c = 'P' then
      match rest with
      | [] => .error .malformed
      | name :: rest =>
        match categorySet? name with
        | some s =>
          if !mode.wide then .error .malformed
          else .ok (.set (if c = 'P' then .complement s else s), rest)
        | none => .error .malformed
    else if let some s := setEscape? c then .ok (.set s, rest)
    else if isEscapable c then .ok (.literal c false, rest)
    else if let some value := letterEscape? c then .ok (.literal value false, rest)
    else if let some p := placeEscape? c then .ok (.place p, rest)
    else .error .malformed

/-! ## Sets in brackets -/

/-- A set in which case matters or not. -/
def Mode.caseOf (mode : Mode) (s : CharSet) : CharSet := if mode.ignoresCase then .folded s else s

/-- A set that the mode allows: without wide characters it must stay within ASCII. -/
def Mode.allowed (mode : Mode) (s : CharSet) : Except Fault CharSet :=
  if mode.wide || !(List.range 128).any (fun n => s.holds (n + 128)) then .ok s
  else .error .malformed

/-- One item of a set, and the rest. -/
def setItem (mode : Mode) : List Char → Except Fault (Escape × List Char)
  | [] => .error .malformed
  | c :: rest =>
    if c = '\\' then escape mode rest
    else if !mode.wide && 0x80 ≤ c.toNat then .error .malformed
    else .ok (.literal c false, rest)

/-- The set of an item. -/
def setOfItem (mode : Mode) : Escape → Except Fault CharSet
  | .literal c _ => .ok (mode.caseOf (.single c))
  | .set s => .ok s
  | .place _ => .error .malformed

/-- An item or a range of a set, and the rest. -/
def setRange (mode : Mode) (cs : List Char) : Except Fault (CharSet × List Char) := do
  let (first, rest) ← setItem mode cs
  match next mode rest with
  | [] => .error .malformed
  | '-' :: behind =>
    match next mode behind with
    -- A minus sign before the closing bracket or another one is no range.
    | ']' :: _ | '-' :: _ => do
      let s ← setOfItem mode first
      .ok (s, rest)
    | behind => do
      let (last, rest) ← setItem mode behind
      match first, last with
      | .literal a _, .literal b _ =>
        if a ≤ b then .ok (mode.caseOf (.between a b), rest) else .error .malformed
      | _, _ => .error .malformed
  | _ => do
    let s ← setOfItem mode first
    .ok (s, rest)

/-- The named set in front, with its brackets and colons, and the rest. -/
def namedSet? (cs : List Char) : Option (CharSet × List Char) := do
  let '[' :: ':' :: rest := cs | none
  let (isOther, rest) := match rest with
    | '^' :: rest => (true, rest)
    | rest => (false, rest)
  let name := rest.takeWhile fun c => c != ':'
  let ':' :: ']' :: rest := rest.dropWhile (fun c => c != ':') | none
  let s ← CharSet.named.lookup (String.ofList name)
  some (if isOther then .complement s else s, rest)

/-- An operation between two sets in one pair of brackets. -/
inductive SetOperation where
  | inter
  | minus
  | symmetric

/-- The set that an operation makes of what stands in front of it, if one does, and another set. -/
def combine : Option (CharSet × SetOperation) → CharSet → CharSet
  | none, s => s
  | some (a, .inter), b => .inter a b
  | some (a, .minus), b => .minus a b
  | some (a, .symmetric), b => .symmetricDifference a b

/-- The operation in front, and the rest. -/
def setOperation? : List Char → Option (SetOperation × List Char)
  | '&' :: '&' :: rest => some (.inter, rest)
  | '-' :: '-' :: rest => some (.minus, rest)
  | '~' :: '~' :: rest => some (.symmetric, rest)
  | _ => none

/-- The minus signs in front, which are members there. -/
def leadingMinus (mode : Mode) : Nat → CharSet → List Char → CharSet × List Char
  | 0, s, cs => (s, cs)
  | budget + 1, s, cs =>
    match next mode cs with
    | '-' :: rest => leadingMinus mode budget (.union (.single '-') s) rest
    | cs => (s, cs)

mutual

/-- The set whose opening bracket has been taken, and the rest. -/
def bracketed (mode : Mode) : Nat → List Char → Except Fault (CharSet × List Char)
  | 0, _ => .error .malformed
  | budget + 1, cs => do
    let cs := next mode cs
    let (isOther, cs) := match cs with
      | '^' :: rest => (true, next mode rest)
      | cs => (false, cs)
    let (s, behind) := leadingMinus mode cs.length .none cs
    -- A closing bracket that comes first is a member too.
    let (s, behind) := match behind with
      | ']' :: rest => if cs.head? == some ']' then (.single ']', rest) else (s, behind)
      | _ => (s, behind)
    let (s, rest) ← members mode budget none s behind
    let s ← mode.allowed (if isOther then .complement s else s)
    .ok (s, rest)

/-- The members of a set up to its closing bracket. `left` is what an operation has on its left, and
`s` is what has been read since. -/
def members (mode : Mode) : Nat → Option (CharSet × SetOperation) → CharSet → List Char →
    Except Fault (CharSet × List Char)
  | 0, _, _, _ => .error .malformed
  | budget + 1, left, s, cs =>
    match next mode cs with
    | [] => .error .malformed
    | ']' :: rest => .ok (combine left s, rest)
    | c :: rest =>
      if c = '[' then
        match namedSet? (c :: rest) with
        | some (named, rest) => members mode budget left (.union s (mode.caseOf named)) rest
        | none => do
          let (inner, rest) ← bracketed mode budget rest
          members mode budget left (.union s inner) rest
      else
        match setOperation? (c :: rest) with
        | some (operation, rest) =>
          members mode budget (some (combine left s, operation)) .none rest
        | none => do
          let (found, rest) ← setRange mode (c :: rest)
          members mode budget left (.union s found) rest

end

/-! ## Groups -/

/-- The flags of a group, up to the colon or bracket that ends them, and the rest from there. `seen`
has the flags so far, and `on` is false behind a minus sign. -/
def flags : List Char → Bool → Mode → List Char → Except Fault (Mode × List Char)
  | _, _, _, [] => .error .malformed
  | seen, on, mode, c :: rest =>
    if c = ':' || c = ')' then
      if seen.head? == some '-' then .error .malformed else .ok (mode, c :: rest)
    else if seen.contains c then .error .malformed
    else if c = '-' then flags (c :: seen) false mode rest
    else if c = 'i' then flags (c :: seen) on { mode with ignoresCase := on } rest
    else if c = 'U' then flags (c :: seen) on { mode with lazy := on } rest
    else if c = 'x' then flags (c :: seen) on { mode with verbose := on } rest
    else if c = 'u' then flags (c :: seen) on { mode with wide := on } rest
    else if c = 'm' || c = 's' || c = 'R' then flags (c :: seen) on mode rest
    else .error .malformed

/-- Whether a group's name may have this character. -/
def isNameChar (isFirst : Bool) (c : Char) : Bool :=
  c == '_' || Text.isWordChar c && !(isFirst && c.isDigit)
    || (!isFirst && (c == '.' || c == '[' || c == ']'))

/-- The name of a group up to the sign that ends it, and the rest. -/
def groupName (cs : List Char) : Except Fault (String × List Char) :=
  let name := cs.takeWhile fun c => c != '>'
  match name, cs.dropWhile fun c => c != '>' with
  | first :: others, '>' :: rest =>
    if isNameChar true first && others.all (isNameChar false) then .ok (String.ofList name, rest)
    else .error .malformed
  | _, _ => .error .malformed

/-- What the head of a group, behind its opening bracket, says. -/
inductive GroupHead where
  /-- Flags for the rest of the group around it. -/
  | flags (mode : Mode)
  /-- A group with its flags and its name, if it has one. -/
  | opens (mode : Mode) (name? : Option String)

/-- The head of a group, and the rest. -/
def groupHead (mode : Mode) (cs : List Char) : Except Fault (GroupHead × List Char) :=
  let named (rest : List Char) : Except Fault (GroupHead × List Char) :=
    (groupName rest).map fun (name, rest) => (.opens mode (some name), rest)
  match next mode cs with
  | '?' :: 'P' :: '<' :: rest => named rest
  | '?' :: '<' :: rest => named rest
  | '?' :: rest =>
    match flags [] true mode rest with
    | .error fault => .error fault
    | .ok (inner, ':' :: behind) => .ok (.opens inner none, behind)
    | .ok (inner, behind) =>
      if rest.head? == some ')' then .error .malformed else .ok (.flags inner, behind.drop 1)
  | cs => .ok (.opens mode none, cs)

/-! ## Patterns -/

/-- A character by itself. -/
def literal (mode : Mode) (c : Char) : Pattern := .one (mode.caseOf (.single c))

/-- The part that an escape stands for. -/
def partOfEscape (r : Reader) : Escape → Except Fault (Pattern × Reader)
  | .literal c isByte =>
    if isByte && !r.mode.wide && 0x80 ≤ c.toNat then .error .malformed
    else .ok (literal r.mode c, r)
  | .set s => (r.mode.allowed s).map fun s => (.one s, r)
  | .place p =>
    match p with
    | .start | .stop => .ok (.place p, r)
    | p => .ok (.place p, { r with askedWide := r.askedWide || r.mode.wide })

/-- The parts with the last one repeated, if it is one that can be. -/
def repeatLast (make : Pattern → Pattern) : List (Option Pattern) →
    Except Fault (List (Option Pattern))
  | some part :: parts => .ok (some (make part) :: parts)
  | _ => .error .malformed

/-- The repetition that a sign stands for. -/
def repetition? (c : Char) : Option (Pattern → Bool → Pattern) :=
  if c = '*' then some star
  else if c = '+' then some plus
  else if c = '?' then some optional
  else none

mutual

/-- The pattern up to the end of a group or of the text, and the rest from there. -/
def alternatives : Nat → Reader → List Char → Except Fault (Pattern × Reader × List Char)
  | 0, _, _ => .error .malformed
  | budget + 1, r, cs => do
    let (first, r, rest) ← parts budget r [] cs
    match rest with
    | '|' :: rest => do
      let (second, r, rest) ← alternatives budget r rest
      .ok (.either first second, r, rest)
    | rest => .ok (first, r, rest)

/-- The parts up to the next bar or the end of a group. `acc` has those so far, last first; flags
leave `none`, which cannot be repeated. -/
def parts : Nat → Reader → List (Option Pattern) → List Char →
    Except Fault (Pattern × Reader × List Char)
  | 0, _, _, _ => .error .malformed
  | budget + 1, r, acc, cs =>
    let finish (rest : List Char) : Except Fault (Pattern × Reader × List Char) :=
      .ok (ofParts (acc.reverse.filterMap id), r, rest)
    let push (part : Pattern) (rest : List Char) := parts budget r (some part :: acc) rest
    match next r.mode cs with
    | [] => finish []
    | c :: rest =>
      if c = '|' || c = ')' then finish (c :: rest)
      else if c = '(' then do
        let (head, rest) ← groupHead r.mode rest
        match head with
        | .flags mode => parts budget { r with mode } (none :: acc) rest
        | .opens mode name? => do
          if (name?.map r.names.contains).getD false then .error .malformed
          else
            let names := name?.toList ++ r.names
            let (part, inner, rest) ← alternatives budget { r with mode, names } rest
            match rest with
            | ')' :: rest => parts budget { inner with mode := r.mode } (some part :: acc) rest
            | _ => .error .malformed
      else if let some make := repetition? c then
        let (isLazy, rest) := match rest with
          | '?' :: rest => (true, rest)
          | rest => (false, rest)
        match repeatLast (fun part => make part (isLazy == r.mode.lazy)) acc with
        | .error fault => .error fault
        | .ok acc => parts budget r acc rest
      else if c = '\x7b' then .error .malformed
      else if c = '[' then do
        let (s, rest) ← bracketed r.mode budget rest
        push (.one s) rest
      else if c = '\\' then do
        let (found, rest) ← escape r.mode rest
        let (part, r) ← partOfEscape r found
        parts budget r (some part :: acc) rest
      else if c = '.' then
        if r.mode.wide then push (.one .all) rest else .error .malformed
      else if c = '^' then push (.place .start) rest
      else if c = '$' then push (.place .stop) rest
      else push (literal r.mode c) rest

end

/-- The pattern that a text writes. -/
def ofText (s : String) : Except Fault Pattern :=
  let reader : Reader := ⟨.standard, [], false⟩
  match alternatives (3 * s.length + 3) reader s.toList with
  | .error fault => .error fault
  | .ok (p, r, rest) =>
    if !rest.isEmpty then .error .malformed
    else if r.askedWide then .error .wideWordEdge
    else .ok p

end Expansion.Pattern
