import Expansion.Shell.Syntax

/-!
# Reading a script

The state of a reader of scripts: the text that is left, the line, a token that has been looked at
but not used, and the here-documents whose text is still to come.

* **A backslash before a line end is no text at all**: `peek` and `take` pass over it; only between
  single quotes the two characters stand for themselves (`takeRaw`).
-/

namespace Expansion.Shell

/-- Why a text is no script. -/
structure SyntaxFault where
  line : Nat
  message : String

/-- What a redirection sign asks for. -/
inductive RedirectSign where
  | file (how : Opening)
  | stream
  | document (stripTabs : Bool)
  deriving DecidableEq, Repr

/-- A token of a script. -/
inductive Token where
  | word (parts : Word)
  /-- An operator or a reserved word. -/
  | sign (text : String)
  | redirect (stream : Nat) (sign : RedirectSign)
  | newline
  | stop

/-- A here-document whose text is still to come. -/
structure AwaitedDocument where
  number : Nat
  delimiter : Octets
  /-- Whether nothing in the text has a meaning. -/
  literal : Bool
  stripTabs : Bool

/-- The state of a reader. -/
structure Source where
  rest : Octets
  line : Nat
  /-- A token that is to be read once more. -/
  pushed : Option Token
  awaited : List AwaitedDocument
  /-- The here-documents that have been read. -/
  documents : List (Nat × Word)
  /-- The number of the next here-document. -/
  nextDocument : Nat
  /-- Whether the text of a here-document is being read. -/
  inDocument : Bool

/-- Reads a part of a script. -/
abbrev Reader (α : Type) := StateT Source (Except SyntaxFault) α

namespace Reader

/-- Gives up. -/
def fault {α : Type} (message : String) : Reader α := do
  throw ⟨(← get).line, message⟩

/-- A text without the line ends in front that a backslash takes away, and their number. -/
def skipJoined : Octets → Nat × Octets
  | '\\' :: '\n' :: rest =>
    let (n, rest) := skipJoined rest
    (n + 1, rest)
  | cs => (0, cs)

/-- The next character, which stays. -/
def peek : Reader (Option Char) := do
  let s ← get
  let (n, rest) := skipJoined s.rest
  set { s with rest, line := s.line + n }
  return rest.head?

/-- Takes a character, whatever it is. -/
def takeRaw : Reader (Option Char) := do
  let s ← get
  match s.rest with
  | [] => return none
  | c :: rest =>
    set { s with rest, line := if c = '\n' then s.line + 1 else s.line }
    return some c

/-- Takes the next character. -/
def take : Reader (Option Char) := do
  let _ ← peek
  takeRaw

/-- Takes the next character if it is this one. -/
def takeIf (c : Char) : Reader Bool := do
  if (← peek) = some c then
    let _ ← takeRaw
    return true
  else return false

/-- Takes characters of a kind, on a budget. -/
def takeWhile (p : Char → Bool) : Nat → Reader Octets
  | 0 => return []
  | budget + 1 => do
    match ← peek with
    | some c =>
      if p c then
        let _ ← takeRaw
        return c :: (← takeWhile p budget)
      else return []
    | none => return []

/-- Takes the longest run of characters of a kind. -/
def takeAll (p : Char → Bool) : Reader Octets := do takeWhile p ((← get).rest.length + 1)

/-- Takes the text up to a character, and the character. -/
def takeUntil (stop : Char) (message : String) : Reader Octets := do
  let s ← get
  let text := s.rest.takeWhile (· != stop)
  let after := s.rest.drop text.length
  set { s with rest := after.drop 1, line := s.line + text.count '\n' }
  if after.isEmpty then fault message else return text

end Reader

end Expansion.Shell
