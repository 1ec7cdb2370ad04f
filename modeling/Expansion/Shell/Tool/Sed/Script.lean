import Expansion.Shell.Regex

/-!
# Scripts of the stream editor

What a script of `sed` says: steps, each with a condition on the line and an action. `Script.parse`
reads it.

* Groups of steps are not nested: a group opens and closes with a step of the same number, and one
  whose condition does not hold is passed over as a whole.
* A fault is reported with the number of characters that have been read.
-/

namespace Expansion.Shell.Sed

open Expansion.Shell

/-- A condition on a line. An expression that is not given stands for the last one that was used. -/
inductive Address where
  | line (n : Nat)
  | last
  | regex (r : Option Regex) (ignoresCase byLines : Bool)
  /-- Every so manieth line from one on. -/
  | step (first every : Nat)

/-- Where a range of lines ends. -/
inductive RangeEnd where
  | address (a : Address)
  /-- So many lines further on. -/
  | after (lines : Nat)
  /-- At the next line whose number is a multiple. -/
  | multiple (n : Nat)

/-- The lines that a step is for. -/
structure Selector where
  first : Option Address
  stop : Option RangeEnd
  negated : Bool

/-- How letters that are put in are written. -/
inductive LetterCase where
  | asWritten
  | upper
  | lower
  deriving DecidableEq, Repr

/-- A piece of a replacement. -/
inductive Piece where
  | text (cs : Octets)
  | group (number : Nat)
  /-- How what follows is written. -/
  | letters (c : LetterCase)
  /-- How the next character is written. -/
  | nextLetter (c : LetterCase)

/-- A substitution. -/
structure Substitution where
  regex : Option Regex
  replacement : List Piece
  /-- The number of the match that is replaced first. -/
  which : Nat
  everywhere : Bool
  prints : Bool
  ignoresCase : Bool
  byLines : Bool
  file : Option Octets

/-- What a step does. -/
inductive Action where
  | openGroup (number : Nat)
  | closeGroup (number : Nat)
  | label (name : Octets)
  | jump (name : Octets)
  | jumpIfReplaced (name : Octets)
  | jumpUnlessReplaced (name : Octets)
  | append (text : Octets)
  | insert (text : Octets)
  | change (text : Octets)
  | delete
  | deleteLine
  | print
  | printLine
  | next
  | appendNext
  | fetch
  | fetchAppend
  | keep
  | keepAppend
  | exchange
  | lineNumber
  | list
  | quit (status : Nat) (prints : Bool)
  | readFile (file : Octets)
  | writeFile (file : Octets)
  | substitute (s : Substitution)
  | translate (pairs : List (Char × Char))
  | clear

/-- A step. -/
structure Step where
  selector : Selector
  action : Action

/-- Why a text is no script: the message, and what was left to read if the fault has a place. -/
structure Fault where
  rest : Option Octets
  message : String

/-- The form of the expressions in a script. -/
structure Form where
  extended : Bool

/-! ## Reading -/

/-- A text without blanks in front. -/
def skipBlanks (cs : Octets) : Octets := cs.dropWhile isSpace

/-- The number at the start of a text. -/
def number (cs : Octets) : Nat × Octets :=
  let digits := cs.takeWhile Char.isDigit
  (digitsValue digits, cs.drop digits.length)

/-- The text up to a mark that no backslash stands in front of. In an expression a backslash and `n`
stand for a line end. -/
def delimited (mark : Char) (isRegex : Bool) : Octets → Option (Octets × Octets)
  | [] => none
  | '\\' :: c :: rest =>
    (delimited mark isRegex rest).map fun (text, after) =>
      if c = mark then (c :: text, after)
      else if isRegex && c = '\n' then ('\n' :: text, after)
      else ('\\' :: c :: text, after)
  | c :: rest =>
    if c = mark then some ([], rest)
    else (delimited mark isRegex rest).map fun (text, after) => (c :: text, after)

/-- The expression of a text; an empty text is the last expression that was used. -/
def regexOf (f : Form) (ignoresCase : Bool) (rest cs : Octets) : Except Fault (Option Regex) :=
  if cs.isEmpty then .ok none
  else
    match Regex.parse ⟨f.extended, ignoresCase⟩ cs with
    | .ok r => .ok (some r)
    | .error e => .error ⟨some rest, e.message⟩

/-- The condition at the start of a text, if there is one. -/
def address? (f : Form) (cs : Octets) : Except Fault (Option (Address × Octets)) := do
  let regex (mark : Char) (rest : Octets) : Except Fault (Option (Address × Octets)) := do
    match delimited mark true rest with
    | none => .error ⟨some [], "unterminated address regex"⟩
    | some (text, rest) =>
      let flags := rest.takeWhile fun c => c = 'I' || c = 'M'
      let rest := rest.drop flags.length
      let r ← regexOf f (flags.contains 'I') rest text
      return some (.regex r (flags.contains 'I') (flags.contains 'M'), rest)
  match cs with
  | '$' :: rest => return some (.last, rest)
  | '/' :: rest => regex '/' rest
  | '\\' :: mark :: rest => regex mark rest
  | c :: rest =>
    if c.isDigit then
      let (n, rest) := number (c :: rest)
      match rest with
      | '~' :: rest =>
        let (every, rest) := number rest
        return some (.step n every, rest)
      | rest => return some (.line n, rest)
    else return none
  | [] => return none

/-- Where the range ends whose comma has been read. -/
def rangeEnd (f : Form) (cs : Octets) : Except Fault (RangeEnd × Octets) := do
  match cs with
  | '+' :: rest =>
    let (n, rest) := number rest
    return (.after n, rest)
  | '~' :: rest =>
    let (n, rest) := number rest
    return (.multiple n, rest)
  | cs =>
    match ← address? f cs with
    | some (a, rest) => return (.address a, rest)
    | none => .error ⟨some (cs.drop 1), "unexpected \x60,'"⟩

/-- The lines of a step. -/
def selector (f : Form) (cs : Octets) : Except Fault (Selector × Octets) := do
  let negate (s : Selector) (cs : Octets) : Selector × Octets :=
    match skipBlanks cs with
    | '!' :: rest => ({ s with negated := true }, skipBlanks (rest.dropWhile (· == '!')))
    | rest => (s, rest)
  match ← address? f cs with
  | none => return negate ⟨none, none, false⟩ cs
  | some (first, rest) =>
    match skipBlanks rest with
    | ',' :: rest =>
      let (stop, rest) ← rangeEnd f (skipBlanks rest)
      return negate ⟨some first, some stop, false⟩ rest
    | rest => return negate ⟨some first, none, false⟩ rest

/-- The text of lines that are put in: up to a line end without a backslash in front of it. -/
def insertedText : Octets → Octets × Octets
  | [] => ([], [])
  | '\n' :: rest => ([], rest)
  | '\\' :: c :: rest =>
    let (text, after) := insertedText rest
    (c :: text, after)
  | c :: rest =>
    let (text, after) := insertedText rest
    (c :: text, after)

/-- Reads the text behind `a`, `i` or `c`. -/
def readText (cs : Octets) : Except Fault (Octets × Octets) :=
  let cs := cs.dropWhile fun c => c = ' ' || c = '\t'
  match cs with
  | [] => .error ⟨some [], "expected \\ after \x60a', \x60c' or \x60i'"⟩
  | '\\' :: rest =>
    let body := match rest.dropWhile fun c => c = ' ' || c = '\t' with
      | '\n' :: body => body
      | _ => rest
    if body.isEmpty then .error ⟨some [], "expected \\ after \x60a', \x60c' or \x60i'"⟩
    else
      let (text, after) := insertedText body
      .ok (text ++ ['\n'], after)
  | cs =>
    let (text, after) := insertedText cs
    .ok (text ++ ['\n'], after)

/-- The characters that letters behind a backslash stand for. -/
def controlChars : List (Char × Char) :=
  [('n', '\n'), ('t', '\t'), ('a', '\x07'), ('f', '\x0c'), ('r', '\x0d'), ('v', '\x0b')]

/-- A character in front of pieces. -/
def consChar (c : Char) (pieces : List Piece) : List Piece :=
  match pieces with
  | .text cs :: rest => .text (c :: cs) :: rest
  | pieces => .text [c] :: pieces

/-- The pieces of a replacement. -/
def replacementPieces : Octets → List Piece
  | [] => []
  | '&' :: rest => .group 0 :: replacementPieces rest
  | '\\' :: c :: rest =>
    let pieces := replacementPieces rest
    if c.isDigit then .group (digitsValue [c]) :: pieces
    else
      match c with
      | 'L' => .letters .lower :: pieces
      | 'U' => .letters .upper :: pieces
      | 'E' => .letters .asWritten :: pieces
      | 'l' => .nextLetter .lower :: pieces
      | 'u' => .nextLetter .upper :: pieces
      | c => consChar ((controlChars.lookup c).getD c) pieces
  | c :: rest => consChar c (replacementPieces rest)

/-- The greatest number of a group that pieces ask for. -/
def greatestGroup (pieces : List Piece) : Nat :=
  (pieces.map fun
    | .group n => n
    | _ => 0).foldl max 0

/-- The number of groups of an expression. -/
def groupCount : Regex → Nat
  | .seq a b | .either a b => max (groupCount a) (groupCount b)
  | .repeated turn _ _ => groupCount turn
  | .group n part => max n (groupCount part)
  | _ => 0

/-- Passes over what ends a step. -/
def stepEnd (cs : Octets) : Except Fault Octets :=
  match cs.dropWhile fun c => c = ' ' || c = '\t' || c = '\x0d' with
  | [] => .ok []
  | '\n' :: rest | ';' :: rest => .ok rest
  | '\x7d' :: rest => .ok ('\x7d' :: rest)
  | '#' :: rest => .ok ('#' :: rest)
  | _ :: rest => .error ⟨some rest, "extra characters after command"⟩

/-- Reads the flags of a substitution, on a budget. -/
def readFlags : Nat → Octets → Substitution → Except Fault (Substitution × Octets)
  | 0, cs, s => .ok (s, cs)
  | _, [], s => .ok (s, [])
  | budget + 1, c :: rest, s =>
    if c = 'g' then
      if s.everywhere then .error ⟨some rest, "multiple \x60g' options to \x60s' command"⟩
      else readFlags budget rest { s with everywhere := true }
    else if c = 'p' then
      if s.prints then .error ⟨some rest, "multiple \x60p' options to \x60s' command"⟩
      else readFlags budget rest { s with prints := true }
    else if c = 'i' || c = 'I' then readFlags budget rest { s with ignoresCase := true }
    else if c = 'm' || c = 'M' then readFlags budget rest { s with byLines := true }
    else if c = 'w' then
      let file := (skipBlanks rest).takeWhile (· != '\n')
      .ok ({ s with file := some file }, (skipBlanks rest).drop file.length)
    else if c.isDigit then
      let (n, after) := number (c :: rest)
      if n = 0 then .error ⟨some after, "number option to \x60s' command may not be zero"⟩
      else readFlags budget after { s with which := n }
    else if ['\n', ';', '\x7d', '#', ' ', '\t'].contains c then do
      return (s, ← stepEnd (c :: rest))
    else .error ⟨some rest, "unknown option to \x60s'"⟩

/-- Reads a substitution behind its letter. -/
def readSubstitution (f : Form) (cs : Octets) : Except Fault (Action × Octets) := do
  let unterminated : Fault := ⟨some [], "unterminated \x60s' command"⟩
  match cs with
  | [] => .error unterminated
  | mark :: rest =>
    match delimited mark true rest with
    | none => .error unterminated
    | some (pattern, rest) =>
      match delimited mark false rest with
      | none => .error unterminated
      | some (replacement, rest) =>
        let pieces := replacementPieces replacement
        let plain : Substitution := ⟨none, pieces, 1, false, false, false, false, none⟩
        let (s, rest) ← readFlags (rest.length + 1) rest plain
        let regex ← regexOf f s.ignoresCase rest pattern
        let wanted := greatestGroup pieces
        if regex.any fun r => groupCount r < wanted then
          let digits := String.ofList (Octets.ofNat wanted)
          .error ⟨some rest, "invalid reference \\" ++ digits ++ " on \x60s' command's RHS"⟩
        else return (.substitute { s with regex }, rest)

/-- The characters of a list of `y`. -/
def translated : Octets → Octets
  | '\\' :: '\\' :: rest => '\\' :: translated rest
  | '\\' :: 'n' :: rest => '\n' :: translated rest
  | '\\' :: 't' :: rest => '\t' :: translated rest
  | c :: rest => c :: translated rest
  | [] => []

/-- Reads the two lists of `y`. -/
def readTranslation (cs : Octets) : Except Fault (Action × Octets) := do
  let unterminated : Fault := ⟨some [], "unterminated \x60y' command"⟩
  match cs with
  | [] => .error unterminated
  | mark :: rest =>
    match delimited mark false rest with
    | none => .error unterminated
    | some (source, rest) =>
      match delimited mark false rest with
      | none => .error unterminated
      | some (target, rest) =>
        let a := translated source
        let b := translated target
        if a.length ≠ b.length then
          .error ⟨some rest, "strings for \x60y' command are different lengths"⟩
        else return (.translate (a.zip b), ← stepEnd rest)

/-- Reads a name behind a letter: up to a blank or a semicolon. -/
def readName (cs : Octets) : Octets × Octets :=
  let cs := cs.dropWhile fun c => c = ' ' || c = '\t'
  let name := cs.takeWhile fun c => c != ';' && !isSpace c
  (name, cs.drop name.length)

/-- The actions of letters that nothing follows. -/
def plainActions : List (Char × Action) :=
  [('d', .delete), ('D', .deleteLine), ('p', .print), ('P', .printLine), ('n', .next),
    ('N', .appendNext), ('g', .fetch), ('G', .fetchAppend), ('h', .keep), ('H', .keepAppend),
    ('x', .exchange), ('=', .lineNumber), ('z', .clear)]

/-- Reads an action; `group` is the number of a group that it may open. -/
def readAction (f : Form) (group : Nat) (letter : Char) (rest : Octets) :
    Except Fault (Action × Octets) := do
  let named (make : Octets → Action) : Except Fault (Action × Octets) := do
    let (name, rest) := readName rest
    return (make name, ← stepEnd rest)
  let numbered (make : Nat → Action) : Except Fault (Action × Octets) := do
    let (n, rest) := number (rest.dropWhile (· == ' '))
    return (make n, ← stepEnd rest)
  let withFile (make : Octets → Action) : Except Fault (Action × Octets) := do
    let file := (skipBlanks rest).takeWhile (· != '\n')
    if file.isEmpty then .error ⟨some [], "missing filename in r/R/w/W commands"⟩
    else return (make file, (skipBlanks rest).drop file.length)
  match letter with
  | '\x7b' => return (.openGroup group, rest)
  | 's' => readSubstitution f rest
  | 'y' => readTranslation rest
  | 'a' => return (← readText rest).map .append id
  | 'i' => return (← readText rest).map .insert id
  | 'c' => return (← readText rest).map .change id
  | ':' =>
    let (name, rest) := readName rest
    if name.isEmpty then .error ⟨some rest, "\":\" lacks a label"⟩
    else return (.label name, ← stepEnd rest)
  | 'b' => named .jump
  | 't' => named .jumpIfReplaced
  | 'T' => named .jumpUnlessReplaced
  | 'q' => numbered fun n => .quit n true
  | 'Q' => numbered fun n => .quit n false
  | 'l' => numbered fun _ => .list
  | 'r' => withFile .readFile
  | 'w' => withFile .writeFile
  | letter =>
    match plainActions.lookup letter with
    | some action => return (action, ← stepEnd rest)
    | none => .error ⟨some rest, "unknown command: \x60" ++ String.ofList [letter] ++ "'"⟩

/-- Reads the steps of a script, on a budget; `stack` has the numbers of the groups that are open. -/
def readSteps (f : Form) : Nat → Nat → List Nat → Octets → Except Fault (List Step)
  | 0, _, _, _ => .ok []
  | budget + 1, group, stack, cs => do
    match cs.dropWhile fun c => isSpace c || c = ';' with
    | [] =>
      if stack.isEmpty then return []
      else .error ⟨none, "unmatched \x60\x7b'"⟩
    | '#' :: rest => readSteps f budget group stack (rest.dropWhile (· != '\n'))
    | cs =>
      let (s, rest) ← selector f cs
      let step (action : Action) (rest : Octets) (stack : List Nat) :
          Except Fault (List Step) := do
        return ⟨s, action⟩ :: (← readSteps f budget (group + 1) stack rest)
      match rest with
      | [] => .error ⟨some [], "missing command"⟩
      | '#' :: rest => .error ⟨some rest, "comments don't accept any addresses"⟩
      | '\x7d' :: rest =>
        if s.first.isSome then .error ⟨some rest, "\x7d doesn't want any addresses"⟩
        else
          match stack with
          | [] => .error ⟨some rest, "unexpected \x60\x7d'"⟩
          | number :: stack => step (.closeGroup number) (← stepEnd rest) stack
      | ':' :: rest =>
        if s.first.isSome then .error ⟨some rest, ": doesn't want any addresses"⟩
        else
          let (action, rest) ← readAction f group ':' rest
          step action rest stack
      | letter :: rest =>
        if (letter = 'q' || letter = 'Q') && s.stop.isSome then
          .error ⟨some rest, "command only uses one address"⟩
        let (action, rest) ← readAction f group letter rest
        step action rest (if letter = '\x7b' then group :: stack else stack)

/-- The steps of a script, or the complaint about it. -/
def parse (f : Form) (script : Octets) : Except Octets (List Step) :=
  match readSteps f (script.length + 2) 0 [] script with
  | .ok steps => .ok steps
  | .error fault =>
    .error (Octets.ofString "-e expression #1, char " ++
      Octets.ofNat ((fault.rest.map fun rest => script.length - rest.length).getD 0)
      ++ Octets.ofString (": " ++ fault.message))

end Expansion.Shell.Sed
