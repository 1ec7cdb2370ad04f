import Expansion.Shell.Condition
import Expansion.Shell.Grammar
import Expansion.Shell.Signal
import Expansion.Shell.Toolbox

/-!
# Commands of the shell itself

The commands that a shell carries out itself and that run no other commands. Each is a function from
its arguments to work that ends with a status.

* A command that is used wrongly complains and fails (`Act.fail`). For the special ones that ends
  the script, for the others it is status 2.
-/

namespace Expansion.Shell

/-- A command of the shell itself. -/
abbrev Builtin := List Octets → Act Nat

/-- The number that an argument must be. -/
def numberArgument (word : Octets) : Act Nat :=
  if !word.isEmpty && word.all Char.isDigit then return digitsValue word
  else Act.fail (Octets.ofString "Illegal number: " ++ word)

/-- Options of single letters in front of arguments. -/
def takeOptions (known : List Char) : List Octets → Act (List Char × List Octets)
  | [] => return ([], [])
  | ['-', '-'] :: rest => return ([], rest)
  | ('-' :: c :: letters) :: rest => do
    match (c :: letters).find? fun letter => !known.contains letter with
    | some bad => Act.fail (Octets.ofString "Illegal option -" ++ [bad])
    | none =>
      let (options, operands) ← takeOptions known rest
      return (c :: letters ++ options, operands)
  | operands => return ([], operands)

/-- A text between quotation marks, with the marks in it between marks of the other kind; on a
budget. -/
def quotedFrom : Nat → Octets → Octets
  | 0, _ => []
  | budget + 1, cs =>
    let plain := cs.takeWhile (· != singleQuote)
    let rest := cs.drop plain.length
    let first := singleQuote :: plain ++ [singleQuote]
    if rest.isEmpty then first
    else
      let marks := rest.takeWhile (· == singleQuote)
      let after := rest.drop marks.length
      first ++ '"' :: marks ++ '"' :: (if after.isEmpty then [] else quotedFrom budget after)

/-- A text in quotation marks, so that a shell reads it back as it is. -/
def quoted (cs : Octets) : Octets := quotedFrom (cs.length + 1) cs

/-! ## Printing -/

/-- Prints its arguments. -/
def echoBuiltin : Builtin := fun arguments => do
  Act.print (echoText arguments)
  return 0

/-- Prints with a format. -/
def printfBuiltin : Builtin := fun arguments => do
  let (_, operands) ← takeOptions [] arguments
  match operands with
  | [] => Act.failWith "usage: printf format [arg ...]"
  | format :: arguments =>
    let p := printFormatted format arguments
    p.complaints.forM Act.warn
    Act.print p.out
    match p.failure with
    | some message => Act.fail message
    | none => return p.status

/-! ## Variables -/

/-- Prints variables so that a shell could read them back. -/
def showVariables (start : Octets) (p : Variable → Bool) : Act Unit := do
  let chosen := (← get).bindings.filter fun (_, v) => p v
  let ordered := chosen.mergeSort fun (a, _) (b, _) => textLe a b
  ordered.forM fun (name, v) =>
    let value := match v.value with
      | some value => '=' :: quoted value
      | none => []
    Act.print (start ++ name ++ value ++ ['\n'])

/-- What an argument assigns: a name and perhaps a value. -/
def splitArgument (argument : Octets) : Octets × Option Octets :=
  match Text.splitOnceChars ['='] argument with
  | some (name, value) => (name, some value)
  | none => (argument, none)

/-- Marks variables. -/
def markVariables (mark : Variable → Variable) (arguments : List Octets) : Act Unit :=
  arguments.forM fun argument => do
    let (name, value?) := splitArgument argument
    match value? with
    | some value => Act.assign name value
    | none =>
      if !isName name then Act.fail (name ++ Octets.ofString ": bad variable name")
    modify fun s =>
      let old := (s.lookup? name).getD ⟨none, false, false⟩
      s.putVariable name (some (mark old))

/-- Exports or locks variables. -/
def markBuiltin (word : String) (mark : Variable → Variable) (isMarked : Variable → Bool) :
    Builtin := fun arguments => do
  let (options, operands) ← takeOptions ['p'] arguments
  if options.isEmpty && !operands.isEmpty then markVariables mark operands
  else showVariables (Octets.ofString (word ++ " ")) isMarked
  return 0

/-- Makes variables of the function that runs. -/
def localBuiltin : Builtin := fun arguments => do
  if (← get).saved.isEmpty then Act.failWith "not in a function"
  else
    arguments.forM fun argument => do
      let (name, value?) := splitArgument argument
      if !isName name then Act.fail (name ++ Octets.ofString ": bad variable name")
      Act.keep name
      match value? with
      | some value => Act.assign name value
      | none => return ()
    return 0

/-- Forgets variables or functions. -/
def unsetBuiltin : Builtin := fun arguments => do
  let (options, operands) ← takeOptions ['v', 'f'] arguments
  if options.getLast? = some 'f' then
    modify fun s =>
      { s with functions := s.functions.filter fun (name, _) => !operands.contains name }
  else
    operands.forM fun name =>
      if isName name then Act.forget name
      else Act.fail (name ++ Octets.ofString ": bad variable name")
  return 0

/-! ## Options and parameters -/

/-- The options by name, in the order in which they are listed. -/
def optionNames : List (String × Char) :=
  [("errexit", 'e'), ("noglob", 'f'), ("ignoreeof", 'I'), ("interactive", 'i'), ("monitor", 'm'),
    ("noexec", 'n'), ("stdin", 's'), ("xtrace", 'x'), ("verbose", 'v'), ("vi", 'V'),
    ("emacs", 'E'), ("noclobber", 'C'), ("allexport", 'a'), ("notify", 'b'), ("nounset", 'u'),
    ("privileged", 'p'), ("nolog", '\x01'), ("debug", '\x02')]

/-- Options with one of them set or unset, if there is such an option. -/
def withOption? (on : Bool) (letter : Char) (options : List Char) : Option (List Char) :=
  let wanted (c : Char) : Bool := if c = letter then on else options.contains c
  -- The letters are listed from the last option to the first.
  if optionNames.any fun (_, other) => other = letter then
    some ((optionNames.map Prod.snd).reverse.filter wanted)
  else none

/-- Sets or unsets an option. -/
def setOption (on : Bool) (letter : Char) : Act Unit := do
  match withOption? on letter (← get).options with
  | some options => modify fun s => { s with options }
  | none => Act.fail (Octets.ofString "Illegal option -" ++ [letter])

/-- Prints the options. -/
def showOptions (readable : Bool) : Act Unit := do
  let s ← get
  if readable then
    Act.print (Octets.ofString "Current option settings\n")
    optionNames.forM fun (name, letter) =>
      let padding := String.ofList (List.replicate (16 - name.length) ' ')
      Act.print (Octets.ofString (name ++ padding ++ (if s.has letter then "on" else "off")
        ++ "\n"))
  else
    optionNames.forM fun (name, letter) =>
      Act.print (Octets.ofString ("set " ++ (if s.has letter then "-o " else "+o ") ++ name
        ++ "\n"))

/-- Reads options in front of arguments; what is left are the parameters, if any are given. -/
def readSetOptions : List Octets → Act (Option (List Octets))
  | [] => return none
  | ['-'] :: rest => do
    setOption false 'x'
    setOption false 'v'
    return if rest.isEmpty then none else some rest
  | ['-', '-'] :: rest => return some rest
  | (sign :: letters) :: rest => do
    if (sign = '-' || sign = '+') && !(sign = '+' && letters.isEmpty) then
      let on := sign = '-'
      (letters.filter (· != 'o')).forM (setOption on)
      if letters.contains 'o' then
        match rest with
        | [] =>
          showOptions on
          return none
        | name :: rest =>
          match optionNames.lookup (String.ofList name) with
          | some letter =>
            setOption on letter
            readSetOptions rest
          | none => Act.fail (Octets.ofString "Illegal option -o " ++ name)
      else readSetOptions rest
    else return some ((sign :: letters) :: rest)
  | arguments => return some arguments

/-- Sets options and parameters. -/
def setBuiltin : Builtin := fun arguments => do
  if arguments.isEmpty then showVariables [] fun v => v.value.isSome
  else
    match ← readSetOptions arguments with
    | some parameters => modify fun s => { s with arguments := parameters }
    | none => pure ()
  return 0

/-- Drops parameters. -/
def shiftBuiltin : Builtin := fun arguments => do
  let n ← match arguments with
    | word :: _ => numberArgument word
    | [] => pure 1
  let s ← get
  if s.arguments.length < n then Act.failWith "can't shift that many"
  else
    set { s with arguments := s.arguments.drop n }
    return 0

/-- What an option is found to be: the letter, its value, the word that is read next, how much of it
has been read, and whether there are no more options. -/
structure FoundOption where
  letter : Char
  value : Option Octets
  next : Nat
  offset : Nat
  isLast : Bool
  complaint : Option String

/-- Finds the next option among words, from a word on; `offset` characters of it have been read. -/
def nextOption (known : Octets) (words : List Octets) (index offset : Nat) : FoundOption :=
  let word := words.getD (index - 1) []
  let started := 0 < offset && offset < word.length
  let fresh := if 0 < offset && !started then index + 1 else index
  let (rest, index) : Octets × Nat :=
    if started then (word.drop offset, index) else ((words.getD (fresh - 1) []).drop 1, fresh)
  let here := words.getD (index - 1) []
  let isOption := started || (here.head? = some '-' && 1 < here.length)
  if !isOption then ⟨'?', none, index, 0, true, none⟩
  else if !started && here = ['-', '-'] then ⟨'?', none, index + 1, 0, true, none⟩
  else
    let letter := rest.headD '?'
    let after := rest.drop 1
    let silent := known.head? = some ':'
    let goOn (value : Option Octets) (letter : Char) : FoundOption :=
      if after.isEmpty then ⟨letter, value, index + 1, 0, false, none⟩
      else ⟨letter, value, index, here.length - after.length, false, none⟩
    match (known.dropWhile (· != letter)).take 2 with
    | [] =>
      let found := goOn (if silent then some [letter] else none) '?'
      if silent then found
      else { found with complaint := some ("Illegal option -" ++ String.ofList [letter]) }
    | [_, ':'] =>
      if !after.isEmpty then ⟨letter, some after, index + 1, 0, false, none⟩
      else
        match words[index]? with
        | some value => ⟨letter, some value, index + 2, 0, false, none⟩
        | none =>
          if silent then ⟨':', some [letter], index + 1, 0, false, none⟩
          else ⟨'?', none, index + 1, 0, false,
            some ("No arg for -" ++ String.ofList [letter] ++ " option")⟩
    | _ => goOn (some []) letter

/-- Reads options of a script. -/
def getoptsBuiltin : Builtin := fun arguments => do
  match arguments with
  | known :: target :: words =>
    let s ← get
    let words := if words.isEmpty then s.arguments else words
    let index := max 1 (digitsValue ((s.value? "OPTIND".toList).getD ['1']))
    let index := if words.length + 1 < index then 1 else index
    let found := nextOption known words index s.optionOffset
    match found.complaint with
    | some message => Act.write 2 (Octets.ofString (message ++ "\n"))
    | none => pure ()
    if !found.isLast then
      match found.value with
      | some value => Act.assign "OPTARG".toList value
      | none => Act.forget "OPTARG".toList
    Act.assign "OPTIND".toList (Octets.ofNat found.next)
    Act.assign target [found.letter]
    modify fun s => { s with optionOffset := found.offset }
    return if found.isLast then 1 else 0
  | _ => Act.failWith "Usage: getopts optstring var [arg...]"

/-! ## Reading -/

/-- A line that is read: pieces of text that may be split and pieces that a backslash protects, and
whether the line was ended. -/
structure ReadLine where
  segments : List Segment
  used : Nat
  ended : Bool

/-- Reads a line; `piece` has the characters since the last protected one, the last one first. -/
def readSegments (raw : Bool) : Octets → Octets → ReadLine
  | piece, [] => ⟨[⟨.atSeparators, cellsOf false piece.reverse⟩], 0, false⟩
  | piece, '\\' :: c :: rest =>
    if raw then
      if c = '\n' then
        ⟨[⟨.atSeparators, cellsOf false ('\\' :: piece).reverse⟩], 2, true⟩
      else
        let line := readSegments raw (c :: '\\' :: piece) rest
        { line with used := line.used + 2 }
    else
      let line := readSegments raw [] rest
      let protected? : List Segment :=
        if c = '\n' then [] else [⟨.nowhere, cellsOf true [c]⟩]
      { line with
        segments := ⟨.atSeparators, cellsOf false piece.reverse⟩ :: protected? ++ line.segments
        used := line.used + 2 }
  | piece, c :: rest =>
    if c = '\n' then ⟨[⟨.atSeparators, cellsOf false piece.reverse⟩], 1, true⟩
    else if c = '\\' && !raw then
      let line := readSegments raw piece rest
      { line with used := line.used + 1 }
    else if c = '\x00' then
      let line := readSegments raw piece rest
      { line with used := line.used + 1 }
    else
      let line := readSegments raw (c :: piece) rest
      { line with used := line.used + 1 }

/-- Gives variables the fields of a line; those for which there is none become empty. -/
def assignFields : List Octets → List Octets → Act Unit
  | [], _ => return ()
  | name :: names, fields => do
    Act.assign name (fields.headD [])
    assignFields names fields.tail

/-- Reads a line into variables. -/
def readBuiltin : Builtin := fun arguments => do
  let rec options (raw : Bool) : List Octets → Act (Bool × List Octets)
    | ['-', 'r'] :: rest => options true rest
    | ['-', 'p'] :: _ :: rest => options raw rest
    | ['-', '-'] :: rest => return (raw, rest)
    | ('-' :: c :: _) :: _ => Act.fail (Octets.ofString "Illegal option -" ++ [c])
    | rest => return (raw, rest)
  let (raw, names) ← options false arguments
  if names.isEmpty then Act.failWith "arg count"
  else
    let s ← get
    if (s.streams.lookup 0).isNone then assignFields names [] *> return 1
    else
      let line := readSegments raw [] (Octets.ofBytes (s.readStream 0))
      modify (State.advance 0 line.used)
      let fields := splitFields s.separators (some names.length) line.segments
      assignFields names (fields.map textOfCells)
      return if line.ended then 0 else 1

/-! ## Places -/

/-- Goes to a directory. -/
def cdBuiltin : Builtin := fun arguments => do
  let (_, operands) ← takeOptions ['L', 'P', 'e'] arguments
  let s ← get
  let target := match operands with
    | [] => (s.value? "HOME".toList).getD []
    | ['-'] :: _ => (s.value? "OLDPWD".toList).getD []
    | target :: _ => target
  match s.disk.find (if target.isEmpty then ⟨"."⟩ else pathOf target) true with
  | .ok (.present place .directory) =>
    let before := State.directory s.disk
    set { s with disk := { s.disk with home := place } }
    modify (State.putVariable "OLDPWD".toList (some ⟨some before, true, false⟩))
    let here := State.directory (← get).disk
    modify (State.putVariable "PWD".toList (some ⟨some here, true, false⟩))
    if operands.head? = some ['-'] then Act.print (here ++ ['\n'])
    return 0
  | _ => Act.fail (Octets.ofString "can't cd to " ++ target)

/-- Prints the directory that paths start from. -/
def pwdBuiltin : Builtin := fun arguments => do
  let _ ← takeOptions ['L', 'P'] arguments
  Act.print (State.directory (← get).disk ++ ['\n'])
  return 0

/-- Prints or sets the rights that new files do not get. -/
def umaskBuiltin : Builtin := fun arguments => do
  let (options, operands) ← takeOptions ['S'] arguments
  let s ← get
  match operands with
  | [] =>
    let digits := Nat.toDigits 8 s.mask
    if options.isEmpty then
      Act.print (List.replicate (4 - digits.length) '0' ++ digits ++ ['\n'])
    else
      let rights (shift : Nat) : Octets :=
        let n := (s.mask >>> shift) &&& 7
        (if n &&& 4 = 0 then ['r'] else []) ++ (if n &&& 2 = 0 then ['w'] else [])
          ++ (if n &&& 1 = 0 then ['x'] else [])
      Act.print ("u=".toList ++ rights 6 ++ ",g=".toList ++ rights 3 ++ ",o=".toList ++ rights 0
        ++ ['\n'])
    return 0
  | mode :: _ =>
    if mode.all isOctal then
      set { s with mask := valueIn 8 mode &&& 0o777 }
      return 0
    else if mode.any Char.isDigit then Act.fail (Octets.ofString "Illegal number: " ++ mode)
    else return 0

/-! ## Order of commands -/

/-- Decides a condition. -/
def testBuiltin : Builtin := fun arguments => do
  match Condition.holds (← get).disk arguments with
  | .ok holds => return if holds then 0 else 1
  | .error message => Act.fail message

/-- Decides a condition between brackets. -/
def bracketBuiltin : Builtin := fun arguments =>
  if arguments.getLast? = some [']'] then testBuiltin arguments.dropLast
  else Act.failWith "missing ]"

/-- Ends the shell. -/
def exitBuiltin : Builtin := fun arguments => do
  match arguments with
  | word :: _ =>
    let n ← numberArgument word
    modify fun s => { s with status := n % 256 }
  | [] => modify fun s => { s with status := s.ending.getD s.status }
  Act.stop .exits

/-- Ends a function or a script that was read in. -/
def returnBuiltin : Builtin := fun arguments => do
  let status ← match arguments with
    | word :: _ => numberArgument word
    | [] => return (← leave (← get).status)
  leave status
where
  /-- Leaves with a status. -/
  leave (status : Nat) : Act Nat := do
    modify fun s => { s with skip := .giveBack }
    return status

/-- Leaves loops or goes to their next turns. -/
def loopBuiltin (make : Nat → Skip) : Builtin := fun arguments => do
  let n ← match arguments with
    | word :: _ =>
      let n ← numberArgument word
      if n = 0 then Act.fail (Octets.ofString "Illegal number: " ++ word) else pure n
    | [] => pure 1
  let n := min n (← get).loops
  if 0 < n then modify fun s => { s with skip := make n }
  return 0

/-- Sets what happens when signals come. -/
def trapBuiltin : Builtin := fun arguments => do
  let (_, operands) ← takeOptions [] arguments
  match operands with
  | [] =>
    let ordered := (← get).traps.mergeSort fun (a, _) (b, _) => decide (a ≤ b)
    ordered.forM fun (n, action) =>
      Act.print ("trap -- ".toList ++ quoted action ++ ' ' :: signalName n ++ ['\n'])
    return 0
  | first :: rest =>
    let isSignal := !first.isEmpty && first.all Char.isDigit
    let (action?, names) : Option Octets × List Octets :=
      if rest.isEmpty || isSignal then (none, operands)
      else (if first = ['-'] then none else some first, rest)
    setTraps action? names
where
  /-- Sets the traps for some signals. -/
  setTraps (action? : Option Octets) : List Octets → Act Nat
    | [] => return 0
    | name :: rest => do
      match signal? name with
      | none =>
        Act.write 2 ("trap: ".toList ++ name ++ ": bad trap\n".toList)
        return 1
      | some n =>
        modify fun s =>
          let others := s.traps.filter fun (other, _) => other != n
          { s with traps := action?.toList.map (n, ·) ++ others }
        setTraps action? rest

/-- Waits for commands that run beside the script. -/
def waitBuiltin : Builtin := fun arguments => do
  match arguments with
  | [] =>
    modify fun s => { s with finished := [] }
    return 0
  | targets =>
    let s ← get
    let statuses := targets.map fun target =>
      if target.all Char.isDigit then (s.finished.lookup (digitsValue target)).getD 127 else 127
    let number := (targets.map digitsValue)
    set { s with finished := s.finished.filter fun (n, _) => !number.contains n }
    return statuses.getLastD 0

/-- Moves a command that runs beside the script, of which there is none. -/
def jobBuiltin : Builtin := fun _ => Act.failWith "No current job"

/-- Forgets short names of commands, of which there are none. -/
def unaliasBuiltin : Builtin := fun arguments => do
  let (options, names) ← takeOptions ['a'] arguments
  if options.isEmpty then
    names.forM fun name => Act.write 2 (Octets.ofString "unalias: " ++ name
      ++ Octets.ofString " not found\n")
    return if names.isEmpty then 0 else 1
  else return 0

/-- Does nothing. -/
def idleBuiltin (status : Nat) : Builtin := fun _ => return status

/-- Prints a fixed text. -/
def sayBuiltin (text : String) : Builtin := fun _ => do
  Act.print (Octets.ofString text)
  return 0

/-- The commands of the shell that run no other commands. -/
def builtins : List (String × Builtin) :=
  [(":", idleBuiltin 0), ("true", idleBuiltin 0), ("false", idleBuiltin 1), ("echo", echoBuiltin),
    ("printf", printfBuiltin), ("test", testBuiltin), ("[", bracketBuiltin), ("cd", cdBuiltin),
    ("chdir", cdBuiltin), ("pwd", pwdBuiltin),
    ("export", markBuiltin "export" (fun v => { v with exported := true }) Variable.exported),
    ("readonly", markBuiltin "readonly" (fun v => { v with locked := true }) Variable.locked),
    ("local", localBuiltin), ("unset", unsetBuiltin), ("set", setBuiltin),
    ("shift", shiftBuiltin), ("getopts", getoptsBuiltin), ("read", readBuiltin),
    ("umask", umaskBuiltin), ("exit", exitBuiltin), ("return", returnBuiltin),
    ("break", loopBuiltin .leave), ("continue", loopBuiltin .next), ("trap", trapBuiltin),
    ("kill", killCommand), ("wait", waitBuiltin), ("ulimit", sayBuiltin "unlimited\n"),
    ("times", sayBuiltin "0m0.000000s 0m0.000000s\n0m0.000000s 0m0.000000s\n"),
    ("hash", idleBuiltin 0), ("jobs", idleBuiltin 0), ("alias", idleBuiltin 0),
    ("unalias", unaliasBuiltin), ("fg", jobBuiltin), ("bg", jobBuiltin)]

/-- The commands of the shell that run others. -/
def runningBuiltins : List String := ["eval", ".", "command", "exec", "type"]

/-- Whether the shell carries out a command itself. -/
def isBuiltin (name : Octets) : Bool :=
  let text := String.ofList name
  (builtins.lookup text).isSome || runningBuiltins.contains text

/-- Whether a failure of the command ends the script. -/
def isSpecial (name : Octets) : Bool := specialCommands.contains (String.ofList name)

/-- Whether arguments of the command may be assignments, which are never split. -/
def takesAssignments (name : Octets) : Bool :=
  ["export", "readonly", "local"].contains (String.ofList name)

end Expansion.Shell
