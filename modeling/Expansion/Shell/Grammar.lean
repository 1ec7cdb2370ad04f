import Expansion.Shell.Word

/-!
# Reading commands

Recursive descent over tokens. A script is read one line at a time (`readLine?`): the commands of a
line may run before the next line is even looked at, so a fault further down does not keep them
from running.

* **A word is reserved only where a command may begin**: `readToken` is told so by its caller. A
  token that has been recognized stays what it is when it is read once more.
* Every list of commands between two reserved words has a command, but the cases of a selection may
  be empty.
* Every step down takes one from a budget.
-/

namespace Expansion.Shell

/-- The words that are reserved where a command may begin. -/
def reservedWords : List String :=
  ["!", "case", "do", "done", "elif", "else", "esac", "fi", "for", "if", "in", "then", "until",
    "while", "\x7b", "\x7d"]

/-- The commands that a shell knows itself and that no function may replace. -/
def specialCommands : List String :=
  [".", ":", "break", "continue", "eval", "exec", "exit", "export", "local", "readonly", "return",
    "set", "shift", "times", "trap", "unset"]

namespace Token

/-- The token in a complaint. -/
def describe : Token → String
  | .word _ => "word"
  | .sign text => "\"" ++ text ++ "\""
  | .redirect _ _ => "redirection"
  | .newline => "newline"
  | .stop => "end of file"

/-- Whether the token is this operator or reserved word. -/
def isSign (text : String) : Token → Bool
  | .sign other => other == text
  | _ => false

/-- Whether the token ends a list of commands. -/
def endsList : Token → Bool
  | .sign text =>
    [")", ";;", "do", "done", "elif", "else", "esac", "fi", "then", "\x7d"].contains text
  | .stop => true
  | _ => false

/-- The word of a token; a reserved word is one too. -/
def parts : Token → Word
  | .word parts => parts
  | .sign text => if reservedWords.contains text then [.text false text.toList] else []
  | _ => []

end Token

namespace Reader

/-- Reads a token once more. -/
def pushBack (t : Token) : Reader Unit := modify fun s => { s with pushed := some t }

/-- Gives up because of a token. -/
def unexpected {α : Type} (t : Token) : Reader α := fault (t.describe ++ " unexpected")

/-- Gives up because of a token in the place of another. -/
def unexpectedFor {α : Type} (wanted : String) (t : Token) : Reader α :=
  fault (t.describe ++ " unexpected (expecting " ++ wanted ++ ")")

/-- Reads the sign of a redirection. -/
def redirectSign (stream? : Option Nat) : Reader Token := do
  let first ← take
  if first = some '>' then
    let stream := stream?.getD 1
    if ← takeIf '>' then return .redirect stream (.file .append)
    else if ← takeIf '|' then return .redirect stream (.file .overwrite)
    else if ← takeIf '&' then return .redirect stream .stream
    else return .redirect stream (.file .replace)
  else
    let stream := stream?.getD 0
    if ← takeIf '<' then return .redirect stream (.document (← takeIf '-'))
    else if ← takeIf '&' then return .redirect stream .stream
    else if ← takeIf '>' then return .redirect stream (.file .readWrite)
    else return .redirect stream (.file .read)

/-- The stream that a word in front of a redirection names, if the word can stand there. -/
def streamOf? : Word → Option (Option Nat)
  | [] => some none
  | [.text false [c]] => if c.isDigit then some (some (digitsValue [c])) else none
  | _ => none

/-- Reads a word or a redirection sign. -/
def wordToken (nested : Nested) (x : Context) : Reader Token := do
  let parts ← readParts nested ((← get).rest.length + 2) x
  let next ← peek
  if next = some '<' || next = some '>' then
    match streamOf? parts with
    | some stream? => redirectSign stream?
    | none => return .word parts
  else return .word parts

/-- Takes one of two signs that begin with a character. -/
def oneOrTwo (c : Char) : Reader Token := do
  let _ ← take
  if ← takeIf c then return .sign (String.ofList [c, c]) else return .sign (String.ofList [c])

/-- Reads a token, on a budget of blanks and comments. -/
def nextToken (nested : Nested) (x : Context) : Nat → Reader Token
  | 0 => return .stop
  | budget + 1 => do
    match ← peek with
    | none => return .stop
    | some ' ' | some '\t' =>
      let _ ← take
      nextToken nested x budget
    | some '#' =>
      modify fun s => { s with rest := s.rest.dropWhile (· != '\n') }
      nextToken nested x budget
    | some '\n' =>
      let _ ← take
      return .newline
    | some '&' => oneOrTwo '&'
    | some '|' => oneOrTwo '|'
    | some ';' => oneOrTwo ';'
    | some '(' =>
      let _ ← take
      return .sign "("
    | some ')' =>
      let _ ← take
      return .sign ")"
    | some _ => wordToken nested x

/-- Passes over line ends, on a budget; the here-documents that they call for are read. -/
def skipNewlines (nested : Nested) : Nat → Token → Reader Token
  | 0, t => return t
  | budget + 1, t =>
    match t with
    | .newline => do
      readAwaited nested
      skipNewlines nested budget (← nextToken nested .bare ((← get).rest.length + 1))
    | t => return t

/-- Reads a token in a context, or the one that was pushed back. -/
def tokenIn (nested : Nested) (x : Context) : Reader Token := do
  let s ← get
  match s.pushed with
  | some t =>
    set { s with pushed := none }
    return t
  | none => nextToken nested x (s.rest.length + 1)

/-- Reads a token; words may be `reserved`, and `skip` asks to pass over line ends. -/
def readToken (nested : Nested) (reserved skip : Bool) : Reader Token := do
  let t ← tokenIn nested .bare
  let t ← if skip then skipNewlines nested ((← get).rest.length + 1) t else pure t
  match t with
  | .word parts =>
    match plainText? parts with
    | some cs =>
      let text := String.ofList cs
      return if reserved && reservedWords.contains text then .sign text else t
    | none => return t
  | t => return t

/-- Reads this operator or reserved word. -/
def expect (nested : Nested) (text : String) (reserved skip : Bool) : Reader Unit := do
  let t ← readToken nested reserved skip
  if t.isSign text then return () else unexpectedFor ("\"" ++ text ++ "\"") t

/-- Reads what stands behind the sign of a redirection. -/
def readTarget (nested : Nested) (stream : Nat) (sign : RedirectSign) : Reader Redirection := do
  match sign with
  | .document stripTabs =>
    match ← tokenIn nested .delimiter with
    | .word parts =>
      let s ← get
      let literal := parts.any fun
        | .mark => true
        | .text quoted _ => quoted
        | _ => false
      let delimiter := parts.flatMap fun
        | .text _ cs => cs
        | _ => []
      let awaited : AwaitedDocument := ⟨s.nextDocument, delimiter, literal, stripTabs⟩
      set { s with awaited := s.awaited ++ [awaited], nextDocument := s.nextDocument + 1 }
      return .document stream awaited.number
    | t => unexpected t
  | .file how =>
    match ← readToken nested false false with
    | .word target => return .file stream how target
    | t => unexpected t
  | .stream =>
    match ← readToken nested false false with
    | .word target => return .stream stream target
    | t => unexpected t

/-- Reads the redirections behind a command, on a budget. -/
def readRedirections (nested : Nested) : Nat → Reader (List Redirection)
  | 0 => return []
  | budget + 1 => do
    match ← readToken nested true false with
    | .redirect stream sign =>
      let r ← readTarget nested stream sign
      return r :: (← readRedirections nested budget)
    | t =>
      pushBack t
      return []

/-- Reads words, on a budget, and the token behind them. -/
def readWords (nested : Nested) : Nat → Reader (List Word × Token)
  | 0 => return ([], .stop)
  | budget + 1 => do
    match ← readToken nested false false with
    | .word parts =>
      let (words, t) ← readWords nested budget
      return (parts :: words, t)
    | t => return ([], t)

/-- Reads the patterns of a case, the first of which is a token, up to the parenthesis. -/
def readPatterns (nested : Nested) : Nat → Token → Reader (List Word)
  | 0, t => unexpected t
  | budget + 1, t => do
    let next ← readToken nested false false
    if next.isSign "|" then
      return t.parts :: (← readPatterns nested budget (← readToken nested false false))
    else if next.isSign ")" then return [t.parts]
    else unexpectedFor "\")\"" next

/-- The command behind another one, if there is one. -/
def follow : Option Command → Command → Command
  | none, second => second
  | some first, second => .both first second

/-- Where a list of commands stands: on a line of its own, between reserved words, or where there
need not be any command. -/
inductive ListPlace where
  | line
  | block
  | loose
  deriving DecidableEq, Repr

mutual

/-- Reads a list of commands behind those that have been read. -/
def readList : Nat → ListPlace → Option Command → Reader (Option Command)
  | 0, _, _ => fault "too deep"
  | budget + 1, place, before? => do
    let nested := nestedReaders budget
    let t ← readToken nested true (place != .line)
    match t with
    | .newline =>
      readAwaited nested
      return before?
    | .stop =>
      readAwaited nested
      pushBack .stop
      return before?
    | t =>
      pushBack t
      if t.endsList && (place == .loose || (place == .block && before?.isSome)) then return before?
      else
        let command ← readAndOr budget
        let next ← readToken nested false false
        let command := if next.isSign "&" then .background command else command
        let all := some (follow before? command)
        match next with
        | .stop =>
          readAwaited nested
          pushBack .stop
          return all
        | .newline =>
          pushBack .newline
          readList budget place all
        | next =>
          if next.isSign "&" || next.isSign ";" then readList budget place all
          else if place = .line then unexpected next
          else
            pushBack next
            return all

/-- The readers of the commands inside words. -/
def nestedReaders : Nat → Nested
  | 0 => ⟨fault "too deep", fault "too deep"⟩
  | budget + 1 =>
    let loose : Reader Command := do return (← readList budget .loose none).getD .nothing
    { loose
      closed := do
        let command ← loose
        expect (nestedReaders budget) ")" false false
        return command }

/-- Reads commands joined by "and" and "or". -/
def readAndOr : Nat → Reader Command
  | 0 => fault "too deep"
  | budget + 1 => do readMoreAndOr budget (← readPipeline budget)

/-- Reads the rest of such commands behind the first. -/
def readMoreAndOr : Nat → Command → Reader Command
  | 0, _ => fault "too deep"
  | budget + 1, first => do
    let nested := nestedReaders budget
    let t ← readToken nested false false
    let second : Reader Command := do
      -- The word behind the sign may be reserved, and line ends do not count.
      pushBack (← readToken nested true true)
      readPipeline budget
    if t.isSign "&&" then readMoreAndOr budget (.andThen first (← second))
    else if t.isSign "||" then readMoreAndOr budget (.orElse first (← second))
    else
      pushBack t
      return first

/-- Reads commands that hand their output on. -/
def readPipeline : Nat → Reader Command
  | 0 => fault "too deep"
  | budget + 1 => do
    let nested := nestedReaders budget
    let t ← readToken nested false false
    let negated := t.isSign "!"
    pushBack (← if negated then readToken nested true false else pure t)
    let first ← readCommand budget
    let more ← readPipes budget
    let command := if more.isEmpty then first else .pipe (first :: more)
    return if negated then .negation command else command

/-- Reads the commands behind bars. -/
def readPipes : Nat → Reader (List Command)
  | 0 => fault "too deep"
  | budget + 1 => do
    let nested := nestedReaders budget
    let t ← readToken nested false false
    if t.isSign "|" then
      pushBack (← readToken nested true true)
      let command ← readCommand budget
      return command :: (← readPipes budget)
    else
      pushBack t
      return []

/-- Reads one command. -/
def readCommand : Nat → Reader Command
  | 0 => fault "too deep"
  | budget + 1 => do
    let nested := nestedReaders budget
    let block : Reader Command := do return (← readList budget .block none).getD .nothing
    let t ← readToken nested false false
    let line := (← get).line
    let redirect (command : Command) : Reader Command := do
      match ← readRedirections nested ((← get).rest.length + 1) with
      | [] => return command
      | redirections =>
        match command with
        | .separate line body _ => return .separate line body redirections
        | command => return .redirected line command redirections
    let closed (text : String) (command : Command) : Reader Command := do
      expect nested text false false
      redirect command
    match t with
    | .word _ | .redirect _ _ =>
      pushBack t
      readSimple budget line [] [] []
    | .sign "if" => do
      let command ← readBranches budget
      closed "fi" command
    | .sign "while" | .sign "until" => do
      let condition ← block
      expect nested "do" false false
      let body ← block
      closed "done" (.loop (t.isSign "until") condition body)
    | .sign "for" => do
      let name := (plainText? (← readToken nested false false).parts).getD []
      if !isName name then fault "Bad for loop variable"
      else
        let t ← readToken nested true true
        let words ← if t.isSign "in" then do
            let (words, t) ← readWords nested ((← get).rest.length + 1)
            match t with
            | .newline | .sign ";" => pure words
            | t => unexpected t
          else do
            if !t.isSign ";" then pushBack t
            pure [allArguments]
        expect nested "do" true true
        let body ← block
        closed "done" (.each line name words body)
    | .sign "case" => do
      match ← readToken nested false false with
      | .word subject =>
        expect nested "in" true true
        redirect (.select line subject (← readCases budget))
      | t => unexpectedFor "word" t
    | .sign "(" => do
      let body ← block
      closed ")" (.separate line body [])
    | .sign "\x7b" => do
      let body ← block
      closed "\x7d" body
    | t => unexpected t

/-- Reads what follows the word "if", up to the word that closes. -/
def readBranches : Nat → Reader Command
  | 0 => fault "too deep"
  | budget + 1 => do
    let nested := nestedReaders budget
    let block : Reader Command := do return (← readList budget .block none).getD .nothing
    let condition ← block
    expect nested "then" false false
    let body ← block
    let t ← readToken nested false false
    if t.isSign "elif" then return .branch condition body (← readBranches budget)
    else if t.isSign "else" then return .branch condition body (← block)
    else
      pushBack t
      return .branch condition body .nothing

/-- Reads the cases of a selection and the word that closes it. -/
def readCases : Nat → Reader (List (List Word × Command))
  | 0 => fault "too deep"
  | budget + 1 => do
    let nested := nestedReaders budget
    let t ← readToken nested true true
    if t.isSign "esac" then return []
    else
      let t ← if t.isSign "(" then readToken nested false false else pure t
      let patterns ← readPatterns nested ((← get).rest.length + 1) t
      let body := (← readList budget .loose none).getD .nothing
      let t ← readToken nested true true
      if t.isSign "esac" then return [(patterns, body)]
      else if t.isSign ";;" then return (patterns, body) :: (← readCases budget)
      else unexpectedFor "\";;\"" t

/-- Reads the rest of a simple command or the definition of a function. -/
def readSimple : Nat → Nat → List Word → List Word → List Redirection → Reader Command
  | 0, _, _, _, _ => fault "too deep"
  | budget + 1, line, assignments, words, redirections => do
    let nested := nestedReaders budget
    match ← readToken nested false false with
    | .word parts =>
      if words.isEmpty && (splitAssignment? parts).isSome then
        readSimple budget line (assignments ++ [parts]) words redirections
      else readSimple budget line assignments (words ++ [parts]) redirections
    | .redirect stream sign =>
      let r ← readTarget nested stream sign
      readSimple budget line assignments words (redirections ++ [r])
    | t =>
      match t, assignments, words, redirections with
      | .sign "(", [], [word], [] =>
        expect nested ")" false false
        let name := (plainText? word).getD []
        if !isName name || specialCommands.contains (String.ofList name) then
          fault "Bad function name"
        else
          pushBack (← readToken nested true true)
          let line := (← get).line
          return .define line name (← readCommand budget)
      | t, assignments, words, redirections =>
        pushBack t
        return .simple line assignments words redirections

end

/-- Reads the commands of a line, `none` if no text is left. -/
def readLine? (budget : Nat) : Reader (Option Command) := do
  match ← readList budget .line none with
  | some command => return some command
  | none =>
    match (← get).pushed with
    | some .stop => return none
    | _ => return some .nothing

end Reader

end Expansion.Shell
