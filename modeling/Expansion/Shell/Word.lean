import Expansion.Shell.Source

/-!
# Reading words

The parts of a word, up to the first character that belongs to none. What a character means depends
on what it stands in (`Context`): between double quotes only a dollar sign, a backquote and a
backslash mean anything, between the braces of `${…}` a blank is a character like any other, and in
an arithmetic expression parentheses are counted.

* The reader of nested commands is a parameter (`Nested`), since commands have words and words
  commands.
* Every step down takes one from a budget.
-/

namespace Expansion.Shell

/-- The readers of commands inside words. -/
structure Nested where
  /-- Reads commands and the parenthesis behind them. -/
  closed : Reader Command
  /-- Reads commands as far as there are any. -/
  loose : Reader Command

/-- What a character stands in. -/
inductive Context where
  | bare
  /-- The word that ends a here-document. -/
  | delimiter
  /-- Double quotes; between braces a backslash also takes the meaning of a brace away. -/
  | quotes (braced : Bool)
  /-- The braces of a parameter outside of quotes. -/
  | operand
  /-- The braces of a parameter inside quotes, and perhaps inside quotes in them. -/
  | quotedOperand (inner : Bool)
  /-- An arithmetic expression with some open parentheses. -/
  | sum (depth : Nat)
  | document (ending : AwaitedDocument) (lineStart : Bool)

namespace Context

/-- Whether text stands for itself as if between double quotes. -/
def isQuoted : Context → Bool
  | .bare | .delimiter | .operand => false
  | _ => true

/-- Whether a backslash in quotes takes the meaning of the character away. -/
def escapes (x : Context) (c : Char) : Bool :=
  ['\\', '\x60', '$'].contains c ||
    match x with
    | .quotes braced => c = '"' || (braced && c = '\x7d')
    | .quotedOperand _ => c = '"' || c = '\x7d'
    | .sum _ => c = '"'
    | _ => false

/-- What is missing when the text ends here, if anything is; in a here-document quotes do not
count. -/
def missing? (inDocument : Bool) : Context → Option String
  | .quotes _ | .quotedOperand _ =>
    some (if inDocument then "Missing '\x7d'" else "Unterminated quoted string")
  | .operand => some "Missing '\x7d'"
  | .sum _ => some "Missing '))'"
  | _ => none

end Context

/-- Whether the character ends a word. -/
def endsWord (c : Char) : Bool :=
  [' ', '\t', '\n', ';', '&', '|', '<', '>', '(', ')'].contains c

/-- The text between backquotes, on a budget. -/
def readBackquoted (quoted : Bool) : Nat → Reader Octets
  | 0 => Reader.fault "EOF in backquote substitution"
  | budget + 1 => do
    match ← Reader.take with
    | none => Reader.fault "EOF in backquote substitution"
    | some '\x60' => return []
    | some '\\' =>
      match ← Reader.takeRaw with
      | none => Reader.fault "EOF in backquote substitution"
      | some c =>
        let rest ← readBackquoted quoted budget
        if c = '\\' || c = '\x60' || c = '$' || (quoted && c = '"') then return c :: rest
        else return '\\' :: c :: rest
    | some c => return c :: (← readBackquoted quoted budget)

/-- Reads commands in a text of its own. -/
def readElsewhere (reader : Reader Command) (text : Octets) : Reader Command := do
  let s ← get
  let start : Source :=
    { s with rest := text, line := 1, pushed := none, awaited := [], inDocument := false }
  match reader.run start with
  | .error f => throw f
  | .ok (command, after) =>
    set { s with documents := after.documents, nextDocument := after.nextDocument }
    return command

/-- Reads commands up to a parenthesis. -/
def readInParentheses (nested : Nested) : Reader Command := do
  let s ← get
  set { s with awaited := [], inDocument := false }
  let command ← nested.closed
  modify fun after => { after with awaited := s.awaited, inDocument := s.inDocument }
  return command

/-- The operation of a letter. -/
def operationOf? (emptyToo : Bool) : Char → Option Operation
  | '-' => some (.default emptyToo)
  | '+' => some (.alternative emptyToo)
  | '?' => some (.demand emptyToo)
  | '=' => some (.assign emptyToo)
  | _ => none

/-- Reads the name between braces; a number sign in front may ask for the length. -/
def readBracedName : Reader (Octets × Operation) := do
  let named (operation : Operation) : Reader (Octets × Operation) := do
    match ← Reader.peek with
    | some c =>
      if isNameStart c then return (← Reader.takeAll isNameChar, operation)
      else return (← Reader.takeAll Char.isDigit, operation)
    | none => return ([], .unknown)
  match ← Reader.peek with
  | none => return ([], .unknown)
  | some '\x7d' => return ([], .unknown)
  | some '#' =>
    let _ ← Reader.take
    match ← Reader.peek with
    | none => return (['#'], .value)
    | some c =>
      if isNameChar c then named .length
      else
        let s ← get
        let _ ← Reader.take
        -- One more sign asks for the length of the parameter that it names only before the brace.
        if c ≠ '\x7d' && (← Reader.peek) = some '\x7d' then
          return ([c], if isSpecialName c then .length else .unknown)
        else
          set s
          return (['#'], .value)
  | some c =>
    if isNameStart c || c.isDigit then named .value
    else
      let _ ← Reader.take
      return ([c], if isSpecialName c then .value else .unknown)

/-- Reads the operation behind the name between braces, and tells whether the brace that closes is
behind it already. -/
def readOperation : Reader (Operation × Bool) := do
  match ← Reader.peek with
  | some '\x7d' =>
    let _ ← Reader.take
    return (.value, true)
  | some '%' =>
    let _ ← Reader.take
    return (.dropEnd (← Reader.takeIf '%'), false)
  | some '#' =>
    let _ ← Reader.take
    return (.dropStart (← Reader.takeIf '#'), false)
  | some ':' =>
    let _ ← Reader.take
    match ← Reader.take with
    | some c => return ((operationOf? true c).getD .unknown, false)
    | none => return (.unknown, false)
  | some c =>
    let _ ← Reader.take
    return ((operationOf? false c).getD .unknown, false)
  | none => return (.unknown, false)

/-- The context of an operand. -/
def operandContext (x : Context) : Operation → Context
  | .dropEnd _ | .dropStart _ => .operand
  | _ => if x.isQuoted then .quotedOperand false else .operand

/-- Whether a here-document ends where the text begins, and the text behind its end. -/
def afterDelimiter? (delimiter rest : Octets) : Option Octets :=
  match Text.afterPrefix? delimiter rest with
  | some [] => some []
  | some ('\n' :: rest) => some rest
  | _ => none

/-- Passes over what stands at the start of a line of a here-document, and tells whether the
document ends there. -/
def startLine (ending : AwaitedDocument) : Reader Bool := do
  modify fun s =>
    { s with rest := if ending.stripTabs then s.rest.dropWhile (· == '\t') else s.rest }
  let s ← get
  match afterDelimiter? ending.delimiter s.rest with
  | some rest =>
    set { s with rest, line := s.line + 1 }
    return true
  | none => return false

mutual

/-- Reads what a dollar sign begins. -/
def readDollar (nested : Nested) : Nat → Context → Reader Part
  | 0, _ => Reader.fault "too deep"
  | budget + 1, x => do
    match ← Reader.peek with
    | some '(' =>
      let _ ← Reader.take
      if ← Reader.takeIf '(' then return .sum (← readParts nested budget (.sum 0))
      else return .output (← readInParentheses nested)
    | some '\x7b' =>
      let _ ← Reader.take
      let (name, operation) ← readBracedName
      match operation with
      | .value =>
        let (operation, isClosed) ← readOperation
        if isClosed then return .parameter name .value []
        else
          let operand ← readParts nested budget (operandContext x operation)
          return .parameter name operation operand
      | operation =>
        let operand ← readParts nested budget (operandContext x operation)
        -- Between the length of a parameter and the brace there is nothing.
        if operation = .length && operand.isEmpty then return .parameter name .length []
        else return .parameter name .unknown operand
    | some c =>
      if isNameStart c then return .parameter (← Reader.takeAll isNameChar) .value []
      else if isSpecialName c then
        let _ ← Reader.take
        return .parameter [c] .value []
      else return .text x.isQuoted ['$']
    | none => return .text x.isQuoted ['$']

/-- Reads parts up to the end of a context. -/
def readParts (nested : Nested) : Nat → Context → Reader Word
  | 0, _ => Reader.fault "too deep"
  | budget + 1, x => do
    let text (cs : Octets) (x : Context) : Reader Word :=
      return consText x.isQuoted cs (← readParts nested budget x)
    let literal (cs : Octets) : Reader Word :=
      return consText true cs (← readParts nested budget x)
    let marked (x : Context) : Reader Word :=
      return .mark :: (← readParts nested budget x)
    let ends ← match x with
      | .document ending true => startLine ending
      | _ => pure false
    if ends then return []
    else
      let x : Context := match x with
        | .document ending _ => .document ending false
        | x => x
      match ← Reader.peek with
      | none =>
        match x.missing? (← get).inDocument with
        | some message => Reader.fault message
        | none => return []
      | some '\\' =>
        let _ ← Reader.take
        match ← Reader.takeRaw with
        | none => literal ['\\']
        | some c => if x.isQuoted && !x.escapes c then literal ['\\', c] else literal [c]
      | some '$' =>
        let _ ← Reader.take
        match x with
        | .delimiter => text ['$'] x
        | x =>
          let part ← readDollar nested budget x
          return part :: (← readParts nested budget x)
      | some '\x60' =>
        let _ ← Reader.take
        match x with
        | .delimiter => text ['\x60'] x
        | x =>
          let script ← readBackquoted x.isQuoted ((← get).rest.length + 1)
          let command ← readElsewhere nested.loose script
          return .output command :: (← readParts nested budget x)
      | some c =>
        let isBare := match x with
          | .bare | .delimiter => true
          | _ => false
        if isBare && endsWord c then return []
        else
          let _ ← Reader.take
          if c = singleQuote && !x.isQuoted then
            let inner ← Reader.takeUntil singleQuote "Unterminated quoted string"
            return .mark :: .text true inner :: (← marked x)
          else
            match x, c with
            | .bare, '"' | .delimiter, '"' =>
              let inner ← readParts nested budget (.quotes false)
              return .mark :: inner ++ (← marked x)
            | .operand, '"' =>
              let inner ← readParts nested budget (.quotes true)
              return .mark :: inner ++ (← marked x)
            | .quotes _, '"' => return []
            | .operand, '\x7d' => return []
            | .quotedOperand inner, '"' => marked (.quotedOperand !inner)
            | .quotedOperand false, '\x7d' => return []
            | .sum depth, '(' => text [c] (.sum (depth + 1))
            | .sum (depth + 1), ')' => text [c] (.sum depth)
            | .sum 0, ')' => if ← Reader.takeIf ')' then return [] else text [c] x
            | .document ending _, '\n' => text [c] (.document ending true)
            | x, c => text [c] x

end

/-- The text of a here-document in which nothing has a meaning, on a budget of lines. -/
def readLiteralLines (ending : AwaitedDocument) : Nat → Reader Octets
  | 0 => return []
  | budget + 1 => do
    if ← startLine ending then return []
    else
      let s ← get
      let line := s.rest.takeWhile (· != '\n')
      match s.rest.drop line.length with
      | [] =>
        set { s with rest := [] }
        return line
      | _ :: rest =>
        set { s with rest, line := s.line + 1 }
        return line ++ '\n' :: (← readLiteralLines ending budget)

/-- Reads the text of a here-document. -/
def readDocument (nested : Nested) (ending : AwaitedDocument) : Reader Unit := do
  let size := (← get).rest.length
  modify fun s => { s with inDocument := true }
  let text ← if ending.literal then pure [.text true (← readLiteralLines ending (size + 1))]
    else readParts nested (size + 2) (.document ending true)
  modify fun s =>
    { s with documents := (ending.number, text) :: s.documents, inDocument := false }

/-- Reads the texts of the here-documents that are still to come. -/
def readAwaited (nested : Nested) : Reader Unit := do
  let awaited := (← get).awaited
  modify fun s => { s with awaited := [] }
  awaited.forM (readDocument nested)

end Expansion.Shell
