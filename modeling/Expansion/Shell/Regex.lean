import Expansion.Pattern.Basic
import Expansion.Shell.Number

/-!
# Regular expressions of tools

The regular expressions of `grep`, `sed` and `expr`, in the basic and the extended form. In the basic
form a backslash gives groups, bars and counts their meaning; in the extended form it takes it away.

* **Of the matches that begin first the longest counts.** `search` tries all ways to match at a place
  and keeps the longest; of two that are as long the one counts that repeats more in front.
* A group may be asked for again by its number.
* Every step of a search takes one from a budget that grows with the text and the expression.
-/

namespace Expansion.Shell

/-- A regular expression. -/
inductive Regex where
  | empty
  | one (set : CharSet)
  | lineStart
  | lineEnd
  | place (p : Place)
  | seq (first second : Regex)
  | either (first second : Regex)
  | repeated (turn : Regex) (least : Nat) (most : Option Nat)
  | group (number : Nat) (part : Regex)
  /-- What a group has matched, once more. -/
  | again (number : Nat)
  deriving Repr

namespace Regex

/-- Why a text is no regular expression. -/
inductive Fault where
  | bracket
  | openGroup
  | closeGroup
  | openCount
  | badCount
  | badReference
  | badRange
  | trailingBackslash
  | badClass
  | nothingToRepeat
  deriving DecidableEq, Repr

/-- The fault in words. -/
def Fault.message : Fault → String
  | .bracket => "Unmatched [, [^, [:, [., or [="
  | .openGroup => "Unmatched ( or \\("
  | .closeGroup => "Unmatched ) or \\)"
  | .openCount => "Unmatched \\\x7b"
  | .badCount => "Invalid content of \\\x7b\\\x7d"
  | .badReference => "Invalid back reference"
  | .badRange => "Invalid range end"
  | .trailingBackslash => "Trailing backslash"
  | .badClass => "Invalid character class name"
  | .nothingToRepeat => "Invalid preceding regular expression"

/-! ## Reading -/

/-- How an expression is written and understood. -/
structure Form where
  extended : Bool
  ignoresCase : Bool

/-- A set in a form. -/
def Form.set (f : Form) (set : CharSet) : Regex := .one (if f.ignoresCase then .folded set else set)

/-- The members of a set up to the bracket that closes it, on a budget. -/
def members (first : Bool) : Nat → Octets → Except Fault (CharSet × Octets)
  | 0, _ => .error .bracket
  | _, [] => .error .bracket
  | budget + 1, c :: rest =>
    if c = ']' && !first then .ok (.none, rest)
    else
      let more (member : CharSet) (rest : Octets) : Except Fault (CharSet × Octets) := do
        let (set, after) ← members false budget rest
        return (.union member set, after)
      match c, rest with
      | '[', ':' :: inner =>
        match Text.splitOnceChars [':', ']'] inner with
        | none => .error .bracket
        | some (name, after) =>
          match CharSet.named.lookup (String.ofList name) with
          | some set => more set after
          | none => .error .badClass
      | '[', '.' :: d :: '.' :: ']' :: after => more (.single d) after
      | '[', '=' :: d :: '=' :: ']' :: after => more (.single d) after
      | c, '-' :: d :: after =>
        if d = ']' then more (.single c) rest
        else if d < c then .error .badRange
        else more (.between c d) after
      | c, rest => more (.single c) rest

/-- The set behind an opening bracket. -/
def bracket (f : Form) (cs : Octets) : Except Fault (Regex × Octets) := do
  let (negated, cs) := match cs with
    | '^' :: rest => (true, rest)
    | cs => (false, cs)
  let (set, after) ← members true (cs.length + 1) cs
  let set := if f.ignoresCase then .folded set else set
  return (.one (if negated then .complement set else set), after)

/-- The bounds between braces and what is behind them. -/
def bounds? (f : Form) (cs : Octets) : Option ((Nat × Option Nat) × Octets) :=
  let least := cs.takeWhile Char.isDigit
  let rest := cs.drop least.length
  let (most?, rest) : Option (Option Nat) × Octets := match rest with
    | ',' :: rest =>
      let most := rest.takeWhile Char.isDigit
      (if most.isEmpty then some none else some (some (digitsValue most)),
        rest.drop most.length)
    | rest => (none, rest)
  let closed? : Option Octets := match f.extended, rest with
    | true, '\x7d' :: rest => some rest
    | false, '\\' :: '\x7d' :: rest => some rest
    | _, _ => none
  match closed?, most? with
  | none, _ => none
  | some after, none => if least.isEmpty then none
    else some ((digitsValue least, some (digitsValue least)), after)
  | some after, some most => some ((digitsValue least, most), after)

/-- What a letter behind a backslash means in both forms. -/
def letterEscape? (f : Form) (c : Char) : Option Regex :=
  match c with
  | 'w' => some (f.set .word)
  | 'W' => some (.one (.complement .word))
  | 's' => some (f.set .space)
  | 'S' => some (.one (.complement .space))
  | 'b' => some (.place .wordEdge)
  | 'B' => some (.place .noWordEdge)
  | '<' => some (.place .wordStart)
  | '>' => some (.place .wordEnd)
  | '\x60' => some (.place .start)
  | 'n' => some (.one (.single '\n'))
  | 't' => some (.one (.single '\t'))
  | c => if c = singleQuote then some (.place .stop) else none

/-- What has been read of an expression: the expression, the rest, and the number of groups. -/
structure Reading where
  regex : Regex
  rest : Octets
  groups : Nat

/-- The repetition that a text begins with and what is behind it. -/
def repetition? (f : Form) (cs : Octets) : Except Fault (Option ((Nat × Option Nat) × Octets)) :=
  match f.extended, cs with
  | _, '*' :: rest => .ok (some ((0, none), rest))
  | true, '+' :: rest | false, '\\' :: '+' :: rest => .ok (some ((1, none), rest))
  | true, '?' :: rest | false, '\\' :: '?' :: rest => .ok (some ((0, some 1), rest))
  | true, '\x7b' :: rest => .ok (bounds? f rest)
  | false, '\\' :: '\x7b' :: rest =>
    match bounds? f rest with
    | some found => .ok (some found)
    | none => .error (if rest.any (· == '\x7d') then .badCount else .openCount)
  | _, _ => .ok none

/-- An expression with the repetitions behind it, on a budget. -/
def withRepetitions (f : Form) : Nat → Regex → Octets → Except Fault (Regex × Octets)
  | 0, r, cs => .ok (r, cs)
  | budget + 1, r, cs => do
    match ← repetition? f cs with
    | none => return (r, cs)
    | some ((least, most), rest) =>
      if most.any (· < least) then .error .badCount
      else withRepetitions f budget (.repeated r least most) rest

/-- Whether the text ends a branch of an expression. -/
def endsBranch (f : Form) (inGroup : Bool) (cs : Octets) : Bool :=
  match f.extended, cs with
  | _, [] => true
  | true, '|' :: _ => true
  | true, ')' :: _ => inGroup
  | false, '\\' :: '|' :: _ => true
  | false, '\\' :: ')' :: _ => true
  | _, _ => false

/-- What stands behind a bar or the end of a group. -/
def afterSign? (f : Form) (sign : Char) : Octets → Option Octets
  | [] => none
  | c :: rest =>
    if f.extended then if c = sign then some rest else none
    else
      match c, rest with
      | '\\', d :: rest => if d = sign then some rest else none
      | _, _ => none

mutual

/-- Reads branches with bars between them. -/
def readChoice (f : Form) (inGroup : Bool) : Nat → Nat → Octets → Except Fault Reading
  | 0, _, _ => .error .openGroup
  | budget + 1, groups, cs => do
    let first ← readBranch f inGroup budget true groups cs
    match afterSign? f '|' first.rest with
    | none => return first
    | some rest =>
      let second ← readChoice f inGroup budget first.groups rest
      return { second with regex := .either first.regex second.regex }

/-- Reads a branch; `start` tells that nothing of it has been read. -/
def readBranch (f : Form) (inGroup : Bool) : Nat → Bool → Nat → Octets → Except Fault Reading
  | 0, _, _, _ => .error .openGroup
  | budget + 1, start, groups, cs => do
    if endsBranch f inGroup cs then return ⟨.empty, cs, groups⟩
    else
      let item ← readItem f budget start groups cs
      let isAnchor := match item.regex with
        | .lineStart => true
        | _ => false
      -- In the basic form a star behind an anchor at the start stands for itself.
      let (regex, rest) ← if isAnchor && !f.extended then pure (item.regex, item.rest)
        else withRepetitions f (item.rest.length + 1) item.regex item.rest
      let more ← readBranch f inGroup budget (isAnchor && start) item.groups rest
      return { more with regex := .seq regex more.regex }

/-- Reads one item of a branch. -/
def readItem (f : Form) : Nat → Bool → Nat → Octets → Except Fault Reading
  | 0, _, _, _ => .error .openGroup
  | budget + 1, start, groups, cs => do
    let char (c : Char) (rest : Octets) : Reading := ⟨f.set (.single c), rest, groups⟩
    let group (rest : Octets) : Except Fault Reading := do
      let inner ← readChoice f true budget (groups + 1) rest
      match afterSign? f ')' inner.rest with
      | some rest => return ⟨.group (groups + 1) inner.regex, rest, inner.groups⟩
      | none => .error .openGroup
    match f.extended, cs with
    | _, [] => return ⟨.empty, [], groups⟩
    | _, '.' :: rest => return ⟨.one .all, rest, groups⟩
    | _, '[' :: rest =>
      let (set, rest) ← bracket f rest
      return ⟨set, rest, groups⟩
    | true, '(' :: rest => group rest
    | true, '^' :: rest => return ⟨.lineStart, rest, groups⟩
    | true, '$' :: rest => return ⟨.lineEnd, rest, groups⟩
    | true, '*' :: rest =>
      if start then readItem f budget start groups rest else .error .nothingToRepeat
    | true, '+' :: rest | true, '?' :: rest =>
      if start then readItem f budget start groups rest else .error .nothingToRepeat
    | false, '^' :: rest => return if start then ⟨.lineStart, rest, groups⟩ else char '^' rest
    | false, '$' :: rest =>
      return if endsBranch f true rest then ⟨.lineEnd, rest, groups⟩ else char '$' rest
    | false, '*' :: rest => return char '*' rest
    | false, '\\' :: '(' :: rest => group rest
    | _, '\\' :: c :: rest =>
      if c.isDigit && c ≠ '0' then
        let n := digitsValue [c]
        if n ≤ groups then return ⟨.again n, rest, groups⟩ else .error .badReference
      else
        match letterEscape? f c with
        | some r => return ⟨r, rest, groups⟩
        | none => return char c rest
    | _, ['\\'] => .error .trailingBackslash
    | _, c :: rest => return char c rest

end

/-- The regular expression that a text writes. -/
def parse (f : Form) (cs : Octets) : Except Fault Regex := do
  let reading ← readChoice f false (8 * cs.length + 8) 0 cs
  match reading.rest with
  | [] => return reading.regex
  | _ => .error .closeGroup

/-- The regular expression that matches a text and nothing else. -/
def literal (ignoresCase : Bool) (cs : Octets) : Regex :=
  cs.foldr (fun c r => .seq (Form.set ⟨false, ignoresCase⟩ (.single c)) r) .empty

/-! ## Searching -/

/-- A place in a text that is searched. -/
structure At where
  before : Option Char
  rest : Octets
  position : Nat
  /-- What the groups have matched: where each begins, and the text. -/
  groups : List (Nat × Nat × Octets)

/-- A match: where it begins and ends, and its groups. -/
structure Match where
  start : Nat
  stop : Nat
  groups : List (Nat × Nat × Octets)

/-- What a group of a match has matched. -/
def Match.group (m : Match) (number : Nat) : Octets :=
  ((m.groups.lookup number).map Prod.snd).getD []

/-- How text is searched. -/
structure SearchForm where
  ignoresCase : Bool
  /-- Whether line feeds end lines for the anchors. -/
  byLines : Bool
  /-- Whether a match must not have a character of a word next to it. -/
  wholeWords : Bool
  /-- Whether a match must be the whole text. -/
  wholeText : Bool

/-- The form in which everything is allowed. -/
def SearchForm.plain : SearchForm := ⟨false, false, false, false⟩

/-- Whether a match from one place to another is wanted. -/
def SearchForm.accepts (f : SearchForm) (start stop : At) : Bool :=
  let isWord (c? : Option Char) : Bool := c?.any CharSet.word.contains
  (!f.wholeWords || (!isWord start.before && !isWord stop.rest.head?))
    && (!f.wholeText || (start.before.isNone && stop.rest.isEmpty))

/-- The best of the places where the ways to match end; `go` is what has to match behind. -/
def ways (f : SearchForm) : Nat → Regex → At → (At → Option At → Option At) → Option At → Option At
  | 0, _, _, _, best => best
  | budget + 1, r, p, go, best =>
    let check (b : Bool) : Option At := if b then go p best else best
    match r with
    | .empty => go p best
    | .one set =>
      match p.rest with
      | c :: rest =>
        if set.contains c then
          go { p with before := some c, rest, position := p.position + 1 } best
        else best
      | [] => best
    | .lineStart => check (p.before.isNone || (f.byLines && p.before = some '\n'))
    | .lineEnd => check (p.rest.isEmpty || (f.byLines && p.rest.head? = some '\n'))
    | .place edge => check (edge.holds p.before p.rest.head?)
    | .seq a b => ways f budget a p (fun q best => ways f budget b q go best) best
    | .either a b => ways f budget b p go (ways f budget a p go best)
    | .group n part =>
      ways f budget part p (fun q best =>
        let text := p.rest.take (q.position - p.position)
        let others := q.groups.filter fun (other, _) => other != n
        go { q with groups := (n, p.position, text) :: others } best) best
    | .again n =>
      match p.groups.lookup n with
      | none => best
      | some (_, text) =>
        let here := p.rest.take text.length
        let same := if f.ignoresCase then here.map Char.toLower == text.map Char.toLower
          else here == text
        if same then
          let before := if text.isEmpty then p.before else text.getLast?
          go { p with
            before
            rest := p.rest.drop text.length
            position := p.position + text.length } best
        else best
    | .repeated turn least most =>
      let best :=
        if most = some 0 then best
        else ways f budget turn p (fun q best =>
          -- A turn that matches nothing is not tried again.
          if q.position = p.position && least = 0 then best
          else
            let next := Regex.repeated turn (least - 1) (most.map (· - 1))
            ways f budget next q go best) best
      if least = 0 then go p best else best

/-- The size of an expression. -/
def size : Regex → Nat
  | .seq a b | .either a b => a.size + b.size + 1
  | .repeated turn least _ => turn.size + least + 2
  | .group _ part => part.size + 1
  | _ => 1

/-- The longest match at a place. -/
def matchAt (f : SearchForm) (r : Regex) (p : At) : Option At :=
  ways f ((p.rest.length + 2) * (r.size + 2)) r p (fun q best =>
    let isBetter := match best with
      | none => true
      | some old => old.position < q.position
    if isBetter && f.accepts p q then some q else best) none

/-- The first match from a place on. -/
def searchFrom (f : SearchForm) (r : Regex) : At → Nat → Option Match
  | p, budget =>
    match matchAt f r p with
    | some q => some ⟨p.position, q.position, q.groups⟩
    | none =>
      match budget, p.rest with
      | budget + 1, c :: rest =>
        searchFrom f r { p with before := some c, rest, position := p.position + 1 } budget
      | _, _ => none

/-- The first match in a text from a position on. -/
def search (f : SearchForm) (r : Regex) (text : Octets) (position : Nat) : Option Match :=
  let before := if position = 0 then none else text[position - 1]?
  searchFrom f r ⟨before, text.drop position, position, []⟩ (text.length + 1)

end Regex

end Expansion.Shell
