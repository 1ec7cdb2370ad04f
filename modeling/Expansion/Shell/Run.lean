import Expansion.Shell.Builtin
import Expansion.Shell.Streams

/-!
# Running scripts

What commands do. `step` says what one command does, given what the commands inside it do; `eval`
applies it again and again, and the depth to which commands nest bounds the recursion.

* **A status that is looked at does not end a script**: with the option `e`, a command that fails
  ends it unless it is `tested`, that is, stands in a condition.
* Commands that run beside others or hand their output on run one after the other, each to its end;
  what they print comes out in the same way.
* A shell that another one starts for a part of its script shares its files and channels with it and
  nothing else (`inside`).
-/

namespace Expansion.Shell

/-- Runs a file of the disk that is a program, if it is one. -/
abbrev Programs := FilePath → List String → Disk → Option (ProcessOutput × Disk)

/-- Runs a command, which may be `tested`, for its status. -/
abbrev Run := Bool → Command → Act Nat

/-- The number of turns that a loop may take. -/
def turnLimit : Nat := 100000000

/-- The depth to which commands may nest. -/
def depthLimit : Nat := 100000

/-- The status of a command that a signal ended. -/
def signalStatus (signal : Nat) : Nat := 128 + signal

/-- Work whose interruption is a result. -/
def attempt {α : Type} (work : Act α) : Act (Except Interrupt α) := fun s =>
  let (result, after) := work s
  (.ok result, after)

/-- Work at the end of which some streams lead where they led in a state. -/
def restoring {α : Type} (numbers : List Nat) (before : State) (work : Act α) : Act α := fun s =>
  let (result, after) := work s
  (result, restoreStreams numbers before after)

/-! ## Texts of commands -/

/-- Runs the commands of a source line by line, on a budget of lines; `status` is the status so
far. -/
def runLines (run : Run) (tested : Bool) : Nat → Source → Nat → Act Nat
  | 0, _, status => return status
  | budget + 1, source, status => do
    match (Reader.readLine? (40 * source.rest.length + 100)).run source with
    | .error f =>
      modify fun s => { s with line := f.line }
      Act.failWith ("Syntax error: " ++ f.message)
    | .ok (none, _) => return status
    | .ok (some command, source) =>
      modify fun s =>
        { s with
          documents := source.documents ++ s.documents
          nextDocument := source.nextDocument }
      let status ← match command with
        | .nothing => pure status
        | command => run tested command
      if (← get).skip ≠ .none then return status
      else
        let next : Source := { source with
          documents := [], pushed := none, awaited := [], nextDocument := (← get).nextDocument }
        runLines run tested budget next status

/-- Runs the commands of a text. -/
def runText (run : Run) (tested : Bool) (text : Octets) : Act Nat := do
  let source : Source := ⟨text, 1, none, [], [], (← get).nextDocument, false⟩
  runLines run tested (text.length + 2) source 0

/-- Runs what is to be done about the signals that have come. -/
def runTraps (run : Run) : Act Unit := do
  let s ← get
  set { s with pending := [] }
  s.pending.forM fun signal => do
    match (← get).traps.lookup signal with
    | some action =>
      let _ ← runText run false action
      modify fun after => { after with status := s.status }
    | none => return ()

/-- Ends a shell: what is to be done at its end is done, and the result is its status or the signal
that ended it. -/
def finish (run : Run) (work : Act Nat) : Act (Except Nat Nat) := do
  match ← attempt work with
  | .error (.killed signal) => return .error signal
  | result =>
    match result with
    | .ok status => modify fun s => { s with status }
    | .error _ => pure ()
    let s ← get
    match s.traps.lookup 0 with
    | none => return .ok s.status
    | some action =>
      let others := s.traps.filter fun (signal, _) => signal != 0
      set { s with traps := others, skip := .none, ending := some s.status }
      match ← attempt (runText run false action) with
      | .ok _ => return .ok s.status
      | .error .exits => return .ok (← get).status
      | .error .fails => return .ok s.status
      | .error (.killed signal) => return .error signal

/-- What of a shell that is over stays for the one that started it. -/
def rejoin (outer inner : State) : State :=
  { outer with
    disk := { inner.disk with home := outer.disk.home }
    channels := inner.channels
    documents := inner.documents
    nextDocument := inner.nextDocument
    nextProcess := inner.nextProcess }

/-- Runs a part of a script in a shell of its own. -/
def inside (run : Run) (prepare : State → State) (work : Act Nat) : Act Nat := fun s =>
  let start :=
    { s with
      traps := s.traps.filter fun (_, action) => action.isEmpty
      pending := []
      saved := []
      skip := .none }
  match finish run work (prepare start) with
  | (.ok (.ok status), inner) => (.ok status, rejoin s inner)
  -- The number of the shell is that of the outermost one, so a signal to it ends them all.
  | (.ok (.error signal), inner) => (.error (.killed signal), rejoin s inner)
  | (.error i, inner) => (.error i, rejoin s inner)

/-- Runs commands for what they print. -/
def captureWith (run : Run) : Capture := fun command => do
  let channel ← addChannel (.bytes ByteArray.empty 0)
  let status ← match command with
    | .nothing => pure 0
    | command => inside run (State.leadTo 1 (some channel)) (run false command)
  modify fun s => { s with outputStatus := status }
  return Octets.ofBytes ((← get).contentOf channel)

/-! ## Loops and choices -/

/-- How a loop goes on after a command in it. -/
inductive LoopStep where
  | goesOn
  | again
  | ends
  deriving DecidableEq

/-- Takes what changes the order of commands as far as it concerns the innermost loop. -/
def takeSkip : Act LoopStep := do
  let s ← get
  match s.skip with
  | .none => return .goesOn
  | .giveBack => return .ends
  | .leave n =>
    set { s with skip := if n ≤ 1 then .none else .leave (n - 1) }
    return .ends
  | .next n =>
    set { s with skip := if n ≤ 1 then .none else .next (n - 1) }
    return if n ≤ 1 then .again else .ends

/-- Work inside one more loop. -/
def inLoop (work : Act Nat) : Act Nat := do
  modify fun s => { s with loops := s.loops + 1 }
  let status ← work
  modify fun s => { s with loops := s.loops - 1 }
  return status

/-- The turns of a loop with a condition. -/
def runTurns (run : Run) (tested negated : Bool) (condition body : Command) : Nat → Nat → Act Nat
  | 0, status => return status
  | budget + 1, status => do
    let held ← run true condition
    match ← takeSkip with
    | .ends => return if (← get).skip = .giveBack then held else status
    | .again => runTurns run tested negated condition body budget status
    | .goesOn =>
      if (held = 0) = negated then return status
      else
        let status ← run tested body
        if (← takeSkip) = .ends then return status
        else runTurns run tested negated condition body budget status

/-- The turns of a loop over texts. -/
def runOver (run : Run) (tested : Bool) (name : Octets) (body : Command) :
    List Octets → Nat → Act Nat
  | [], status => return status
  | value :: rest, _ => do
    Act.assign name value
    let status ← run tested body
    if (← takeSkip) = .ends then return status else runOver run tested name body rest status

/-- Whether one of some patterns holds for a text. -/
def anyPattern (capture : Capture) (cs : Octets) : List Word → Act Bool
  | [] => return false
  | word :: rest => do
    if (← patternOf capture word).holds cs then return true else anyPattern capture cs rest

/-- The command of the first case with a pattern that holds. -/
def chooseCase (capture : Capture) (cs : Octets) : List (List Word × Command) → Act Command
  | [] => return .nothing
  | (patterns, command) :: rest => do
    if ← anyPattern capture cs patterns then return command else chooseCase capture cs rest

/-- Runs commands that hand their output on; the first reads what `source?` leads to. -/
def runPipe (run : Run) (tested : Bool) (source? : Option Nat) : List Command → Act Nat
  | [] => return 0
  | [command] =>
    let prepare (s : State) : State := match source? with
      | some n => s.leadTo 0 (some n)
      | none => s
    inside run prepare (run tested command)
  | command :: rest => do
    let channel ← addChannel (.bytes ByteArray.empty 0)
    let prepare (s : State) : State :=
      let s := s.leadTo 1 (some channel)
      match source? with
      | some n => s.leadTo 0 (some n)
      | none => s
    let _ ← inside run prepare (run tested command)
    runPipe run tested (some channel) rest

/-! ## Programs -/

/-- What a shell complains when a program cannot be started, and the status. -/
def startFailure (name : Octets) (e : Disk.Error) : Act Nat := do
  match e with
  | .notFound | .notDirectory =>
    Act.warn (name ++ Octets.ofString ": not found")
    return 127
  | e =>
    Act.warn (name ++ Octets.ofString (": " ++ errorText e))
    return 126

/-- The status of a command that ended, which is reported if a signal ended it. -/
def reportEnd : ExitStatus → Act Nat
  | .code n => return n
  | .signal n => do
    match deathMessage? n with
    | some message => Act.write 2 (Octets.ofString (message ++ "\n"))
    | none => pure ()
    return signalStatus n

/-- Runs a script in a new shell, which has the variables that programs are given. -/
def runScript (run : Run) (name : Octets) (arguments : List Octets) (options : List Char)
    (text : Octets) : Act ExitStatus := do
  let s ← get
  let fresh := State.start s.disk name arguments
  let given := s.bindings.filterMap fun (n, v) =>
    if v.exported then some (n, { v with locked := false }) else none
  let start := given.foldl (fun t (n, v) => t.putVariable n (some v))
    { fresh with
      bindings := fresh.bindings.filter fun (_, v) => !v.exported
      streams := s.streams
      channels := s.channels
      documents := s.documents
      nextDocument := s.nextDocument
      nextProcess := s.nextProcess
      options }
  match finish run (runText run false text) start with
  | (.ok result, inner) =>
    set (rejoin s inner)
    match result with
    | .ok status => return .code (status % 256)
    | .error signal => return .signal signal
  | (.error _, inner) =>
    set (rejoin s inner)
    return .code 2

/-- How the shell is called: its options, whether its first operand is the script, and its
operands. -/
structure ShellCall where
  options : List Char
  given : Bool
  operands : List Octets

/-- Reads the letters of options; "c" and "o" are seen to elsewhere. -/
def addOptions (on : Bool) : List Char → List Char → Except Octets (List Char)
  | options, [] => .ok options
  | options, letter :: letters =>
    if letter = 'c' || letter = 'o' || letter = 'l' then addOptions on options letters
    else
      match withOption? on letter options with
      | some options => addOptions on options letters
      | none => .error (Octets.ofString "Illegal option -" ++ [letter])

/-- Reads the arguments of the shell, on a budget. -/
def readShellCall : Nat → ShellCall → Except Octets ShellCall
  | 0, call => .ok call
  | budget + 1, call =>
    match call.operands with
    | [] => .ok call
    | ['-'] :: rest | ['-', '-'] :: rest => .ok { call with operands := rest }
    | (sign :: letters) :: rest =>
      if sign ≠ '-' && sign ≠ '+' then .ok call
      else
        let on := sign = '-'
        let given := call.given || letters.contains 'c'
        match addOptions on call.options letters with
        | .error message => .error message
        | .ok options =>
          match (if letters.contains 'o' then rest.head? else none) with
          | none => readShellCall budget ⟨options, given, rest⟩
          | some name =>
            match (optionNames.lookup (String.ofList name)).bind fun letter =>
                withOption? on letter options with
            | some options => readShellCall budget ⟨options, given, rest.tail⟩
            | none => .error (Octets.ofString "Illegal option -o " ++ name)
    | [] :: _ => .ok call

/-- Runs the shell as a program: a script between its arguments, in a file or in its input. -/
def shellProgram (run : Run) (name : Octets) (arguments : List Octets) : Act ExitStatus := do
  let refuse (message : Octets) : Act ExitStatus := do
    Act.write 2 (name ++ Octets.ofString ": 0: " ++ message ++ ['\n'])
    return .code 2
  let fromInput (options : List Char) (arguments : List Octets) : Act ExitStatus := do
    let text := Octets.ofBytes ((← get).readStream 0)
    modify (State.advance 0 text.length)
    runScript run name arguments options text
  match readShellCall (arguments.length + 1) ⟨[], false, arguments⟩ with
  | .error message => refuse message
  | .ok ⟨_, true, []⟩ => refuse (Octets.ofString "-c requires an argument")
  | .ok ⟨options, true, [text]⟩ => runScript run name [] options text
  | .ok ⟨options, true, text :: title :: arguments⟩ => runScript run title arguments options text
  | .ok ⟨options, false, []⟩ => fromInput ((withOption? true 's' options).getD options) []
  | .ok ⟨options, false, file :: arguments⟩ =>
    if options.contains 's' then fromInput options (file :: arguments)
    else
      match fileText (← get).disk file with
      | .ok text => runScript run file arguments options text
      | .error e => refuse (Octets.ofString "cannot open " ++ file ++ Octets.ofString (": "
          ++ openingFault false e))

/-- The interpreter that a script names in its first line. -/
def interpreter? (text : Octets) : Option Octets :=
  match text with
  | '#' :: '!' :: rest =>
    let line := (rest.takeWhile (· != '\n')).dropWhile isSpace
    some ((line.takeWhile fun c => !isSpace c))
  | _ => none

/-- Whether an interpreter is the shell. -/
def isShell (interpreter : Octets) : Bool :=
  ["/bin/sh", "/bin/dash", "/bin/bash", "/usr/bin/sh", "/usr/bin/dash", "/usr/bin/bash",
    "/usr/bin/env"].contains (String.ofList interpreter)

/-- Runs a file. -/
def runFile (programs : Programs) (run : Run) (name path : Octets) (arguments : List Octets) :
    Act Nat := do
  let s ← get
  match s.disk.find (pathOf path) true with
  | .error e => startFailure name e
  | .ok (.absent _ _ _) => startFailure name .notFound
  | .ok (.present _ (.file content true)) =>
    match programs (pathOf path) (arguments.map Octets.toString) s.disk with
    | some (output, disk) =>
      set { s with disk }
      Act.write 1 (Octets.ofBytes output.out)
      Act.write 2 (Octets.ofBytes output.err)
      reportEnd output.status
    | none =>
      -- A file that is no program and names no interpreter is a script all the same.
      let text := Octets.ofBytes content
      match interpreter? text with
      | none => reportEnd (← runScript run name arguments [] text)
      | some interpreter =>
        if isShell interpreter then reportEnd (← runScript run path arguments [] text)
        else startFailure name .notFound
  | .ok (.present _ _) => startFailure name .denied

/-- Where a program is that a script names, and its name. -/
def locate? (s : State) (name : Octets) : Option Octets :=
  if name.contains '/' then some name else s.programPath? name

/-- Runs a program. -/
def runProgramNamed (programs : Programs) (run : Run) (name : Octets) (arguments : List Octets)
    (wrapped : Octets → List Octets → Act Nat) : Act Nat := do
  let s ← get
  if name.isEmpty then
    Act.warn (Octets.ofString ": Permission denied")
    return 127
  else
    match locate? s name with
    | none => startFailure name .notFound
    | some path =>
      match installedAt? path with
      | none => runFile programs run name path arguments
      | some installed =>
        let text := String.ofList installed
        match tools.lookup text with
        | some tool => runTool tool name arguments
        | none =>
          if ["sh", "dash", "bash"].contains text then reportEnd (← shellProgram run name arguments)
          else wrapped installed arguments

/-! ## Commands that run others -/

/-- Words with the variables that stand in front of them. -/
def splitEnvironment : List Octets → List (Octets × Octets) × List Octets
  | [] => ([], [])
  | word :: rest =>
    match Text.splitOnceChars ['='] word with
    | some (name, value) =>
      let (given, rest) := splitEnvironment rest
      ((name, value) :: given, rest)
    | none => ([], word :: rest)

/-- The items of an input, held apart by blanks; quotes and backslashes keep blanks. On a
budget. -/
def inputItems : Nat → Octets → List Octets
  | 0, _ => []
  | budget + 1, cs =>
    match cs.dropWhile isSpace with
    | [] => []
    | cs =>
      let (item, rest) := word cs
      item :: inputItems budget rest
where
  /-- An item and what is behind it. -/
  word : Octets → Octets × Octets
    | [] => ([], [])
    | '\\' :: c :: rest =>
      let (item, rest) := word rest
      (c :: item, rest)
    | c :: rest =>
      if isSpace c then ([], c :: rest)
      else if c = '"' || c = singleQuote then quotedPart c rest
      else
        let (item, rest) := word rest
        (c :: item, rest)
  /-- The rest of an item inside quotes. -/
  quotedPart (mark : Char) : Octets → Octets × Octets
    | [] => ([], [])
    | c :: rest =>
      let (item, rest) := if c = mark then word rest else quotedPart mark rest
      (if c = mark then item else c :: item, rest)

/-- Lists of at most `n` items. -/
def chunks {α : Type} (n : Nat) : Nat → List α → List (List α)
  | 0, _ => []
  | budget + 1, items =>
    if items.isEmpty then [] else items.take (max 1 n) :: chunks n budget (items.drop (max 1 n))

/-- Runs a command for the items of its input. -/
def xargs (start : Octets → List Octets → Act Nat) (arguments : List Octets) : Act Nat := do
  let t : OptionTable :=
    ⟨['0', 'r', 't', 'x', 'p'], ['n', 'I', 'd', 'L', 'P', 's', 'E', 'a'],
      [("null", '0'), ("no-run-if-empty", 'r'), ("max-args", 'n'), ("delimiter", 'd'),
        ("max-procs", 'P'), ("verbose", 't')], 1⟩
  match t.read true arguments with
  | .error message =>
    Act.write 2 (Octets.ofString "xargs: " ++ message ++ ['\n'])
    return 1
  | .ok a =>
    let text := Octets.ofBytes ((← get).readStream 0)
    modify (State.advance 0 text.length)
    let cutAt (c : Char) : List Octets :=
      let pieces := Text.splitChars c text
      if pieces.getLast? = some [] then pieces.dropLast else pieces
    let items := if a.has '0' then cutAt '\x00'
      else match a.value? 'd' with
        | some mark => cutAt ((unescape mark).1.headD '\n')
        | none =>
          if a.has 'I' then
            (((Octets.lines text).1.map fun line => line.dropWhile isSpace)).filter
              fun line => !line.isEmpty
          else inputItems (text.length + 1) text
    let command := if a.operands.isEmpty then ["echo".toList] else a.operands
    let calls : List (List Octets) := match a.value? 'I' with
      | some mark =>
        items.map fun item => command.map fun word =>
          if mark.isEmpty then word else Text.replaceFrom mark item 0 word
      | none =>
        let size := (a.value? 'n').orElse fun _ => a.value? 'L'
        let groups := match size with
          | some n => chunks (digitsValue n) (items.length + 1) items
          | none => if items.isEmpty then [] else [items]
        let groups := if groups.isEmpty && !a.has 'r' then [[]] else groups
        groups.map (command ++ ·)
    let statuses ← calls.mapM fun call =>
      match call with
      | [] => pure 0
      | name :: arguments => do
        if a.has 't' then Act.write 2 (Octets.join [' '] call ++ ['\n'])
        start name arguments
    return if statuses.any (· == 127) then 127 else if statuses.any (· == 126) then 126
      else if statuses.any (· != 0) then 123 else 0

/-- Runs a command with other variables. -/
def env (start : Octets → List Octets → Act Nat) (arguments : List Octets) : Act Nat := do
  let t : OptionTable := ⟨['i', '0'], ['u'], [("ignore-environment", 'i'), ("unset", 'u')], 125⟩
  match t.read true arguments with
  | .error message =>
    Act.write 2 (Octets.ofString "env: " ++ message ++ ['\n'])
    return 125
  | .ok a =>
    let (given, command) := splitEnvironment a.operands
    let s ← get
    let hidden := (a.options.filter fun (letter, _) => letter = 'u').map Prod.snd
    let kept := s.bindings.map fun (name, v) =>
      (name, { v with exported := v.exported && !a.has 'i' && !hidden.contains name })
    set (given.foldl (fun t (name, value) =>
      t.putVariable name (some ⟨some value, true, false⟩)) { s with bindings := kept })
    let status ← match command with
      | [] => do
        (← get).environment.forM fun (name, value) =>
          Act.print (name ++ '=' :: value ++ ['\n'])
        pure 0
      | name :: arguments =>
        if (locate? (← get) name).isNone then do
          Act.write 2 (Octets.ofString "env: " ++ quoteName name
            ++ Octets.ofString ": No such file or directory\n")
          pure 127
        else start name arguments
    modify fun after => { after with bindings := s.bindings }
    return status

/-- Tells where programs are. -/
def which (names : List Octets) : Act Nat := do
  let s ← get
  let paths := names.map fun name =>
    if name.contains '/' then
      match s.disk.find (pathOf name) true with
      | .ok (.present _ (.file _ true)) => some name
      | _ => if (installedAt? name).isSome then some name else none
    else s.programPath? name
  Act.print (Octets.unlines (paths.filterMap id))
  return if paths.isEmpty || paths.any Option.isNone then 1 else 0

/-- Runs one of the commands that run others. -/
def runWrapper (start : Octets → List Octets → Act Nat) (name : Octets)
    (arguments : List Octets) : Act Nat := do
  let first (arguments : List Octets) : Act Nat := match arguments with
    | [] => return 125
    | name :: arguments => start name arguments
  match String.ofList name with
  | "env" => env start arguments
  | "which" => which arguments
  | "xargs" => xargs start arguments
  | "timeout" => first (arguments.dropWhile fun word => word.head? = some '-').tail
  | "nice" =>
    first (match arguments with
      | ['-', 'n'] :: _ :: rest => rest
      | rest => rest)
  | _ => first arguments

/-- Starts a program, which may itself start another one; on a budget. -/
def startProgram (programs : Programs) (run : Run) : Nat → Octets → List Octets → Act Nat
  | 0, name, _ => startFailure name .notFound
  | budget + 1, name, arguments =>
    runProgramNamed programs run name arguments
      (runWrapper (startProgram programs run budget))

/-- Runs a program. -/
def runExternal (programs : Programs) (run : Run) (name : Octets) (arguments : List Octets) :
    Act Nat :=
  startProgram programs run 20 name arguments

/-! ## Simple commands -/

/-- The words that are reserved, as texts. -/
def isReserved (name : Octets) : Bool := reservedWords.contains (String.ofList name)

/-- What a name stands for, in words. -/
def describeName (s : State) (name : Octets) : Option Octets :=
  if isReserved name then some (Octets.ofString " is a shell keyword")
  else if (s.functions.lookup name).isSome then some (Octets.ofString " is a shell function")
  else if isBuiltin name then
    some (Octets.ofString
      (if isSpecial name then " is a special shell builtin" else " is a shell builtin"))
  else
    let path? : Option Octets :=
      if name.contains '/' then
        if (installedAt? name).isSome || s.disk.isFile (pathOf name) then some name else none
      else s.programPath? name
    path?.map fun path => Octets.ofString " is " ++ path

/-- Tells what names stand for. -/
def typeBuiltin : Builtin := fun names => do
  let results ← names.mapM fun name => do
    match describeName (← get) name with
    | some text =>
      Act.print (name ++ text ++ ['\n'])
      pure 0
    | none =>
      Act.print (name ++ Octets.ofString ": not found\n")
      pure 127
  return results.foldl max 0

/-- Tells what would be run under a name. -/
def describeCommand (verbose : Bool) (name : Octets) : Act Nat := do
  let s ← get
  match describeName s name with
  | none =>
    if verbose then Act.print (name ++ Octets.ofString ": not found\n")
    return 127
  | some text =>
    let isOwn := isReserved name || (s.functions.lookup name).isSome || isBuiltin name
    let path := (locate? s name).getD name
    Act.print ((if verbose then name ++ text else if isOwn then name else path) ++ ['\n'])
    return 0

/-- What a simple command comes to. -/
inductive Plan where
  /-- Nothing but assignments. -/
  | nothing
  | function (name : Octets) (arguments : List Octets) (body : Command)
  | builtin (name : Octets) (arguments : List Octets) (special : Bool)
  | program (name : Octets) (arguments : List Octets)
  | describe (verbose : Bool) (name : Octets)

/-- What fields come to; behind the word "command", functions do not count and failures do not end
the script. -/
def planOf (s : State) (plain : Bool) : List Octets → Plan
  | [] => .nothing
  | name :: arguments =>
    match (if plain then none else s.functions.lookup name) with
    | some body => .function name arguments body
    | none =>
      if name = "command".toList then
        match arguments with
        | ['-', 'v'] :: name :: _ => .describe false name
        | ['-', 'V'] :: name :: _ => .describe true name
        | ['-', 'p'] :: rest => planOf s true rest
        | ['-', '-'] :: rest => planOf s true rest
        | rest => planOf s true rest
      else if isBuiltin name then .builtin name arguments (isSpecial name && !plain)
      else .program name arguments

/-- Whether failures of the plan end the script. -/
def Plan.isSpecial : Plan → Bool
  | .builtin _ _ special => special
  | _ => false

/-- The fields of the words of a command: words that assign are not split where the command takes
assignments. -/
def commandFields (capture : Capture) : List Word → List Octets → Act (List Octets)
  | [], fields => return fields
  | word :: rest, fields => do
    let s ← get
    let name? := (fields.dropWhile (· = "command".toList)).head?
    let isFunction := name?.any fun name => (s.functions.lookup name).isSome
    match (if name?.any takesAssignments && !isFunction then splitAssignment? word else none) with
    | some (name, value) =>
      let text ← textOf capture .value value
      commandFields capture rest (fields ++ [name ++ '=' :: text])
    | none =>
      let more ← fieldsOf capture word
      commandFields capture rest (fields ++ more)

/-- Makes assignments; with `keep`, the variables are put back later and are given to programs. -/
def makeAssignments (capture : Capture) (keep : Bool) : List Word → Act (List Octets)
  | [] => return []
  | word :: rest => do
    match splitAssignment? word with
    | none => makeAssignments capture keep rest
    | some (name, value) =>
      let text ← textOf capture .value value
      if keep then Act.keep name
      Act.assign name text
      if keep then
        modify fun s =>
          s.putVariable name ((s.lookup? name).map fun v => { v with exported := true })
      return (name ++ '=' :: text) :: (← makeAssignments capture keep rest)

/-- Writes what is about to run to where complaints go, if that is asked for. -/
def trace (capture : Capture) (channel? : Option Nat) (words : List Octets) : Act Unit := do
  let s ← get
  if s.has 'x' && !words.isEmpty then
    let mark := (s.value? "PS4".toList).getD []
    let source : Source := ⟨mark, 1, none, [], [], s.nextDocument, false⟩
    let nested : Nested := ⟨return .nothing, return .nothing⟩
    let shown ← match (readParts nested (mark.length + 2) (.document ⟨0, ['\n'], false, false⟩
        false)).run source with
      | .ok (word, _) => textOf capture .document word
      | .error _ => pure mark
    match channel? with
    | some channel =>
      modify (State.writeChannel channel (Octets.toBytes
        (shown ++ Octets.join [' '] words ++ ['\n'])))
    | none => return ()

/-- Calls a function. -/
def callFunction (run : Run) (tested : Bool) (arguments : List Octets) (body : Command) :
    Act Nat := do
  let s ← get
  let status ← Act.keeping do
    modify fun s => { s with arguments, loops := 0 }
    run tested body
  modify fun after =>
    { after with
      arguments := s.arguments
      loops := s.loops
      skip := if after.skip = .giveBack then .none else after.skip }
  return status

/-- The text of a file that is read in as a part of the script. -/
def sourceText (name : Octets) : Act (Octets × Octets) := do
  let s ← get
  if name.contains '/' then
    match fileText s.disk name with
    | .ok text => return (name, text)
    | .error e =>
      Act.fail (Octets.ofString "cannot open " ++ name
        ++ Octets.ofString (": " ++ openingFault false e))
  else
    let paths := s.searchPath.map fun directory =>
      if directory.isEmpty then name else directory ++ '/' :: name
    match paths.findSome? fun path => (fileText s.disk path).toOption.map (path, ·) with
    | some found => return found
    | none => Act.fail (name ++ Octets.ofString ": not found")

/-- Runs one of the commands of the shell that run others. -/
def runRunning (programs : Programs) (run : Run) (tested : Bool) (name : Octets)
    (arguments : List Octets) : Act Nat := do
  match String.ofList name with
  | "eval" => runText run tested (Octets.join [' '] arguments)
  | "." =>
    match arguments with
    | [] => return 0
    | file :: _ =>
      let (path, text) ← sourceText file
      modify fun s => { s with command := some path }
      let status ← runText run false text
      modify fun s => { s with skip := if s.skip = .giveBack then .none else s.skip }
      return status
  | "type" => typeBuiltin arguments
  | _ =>
    match arguments with
    | [] => return 0
    | name :: arguments =>
      -- The program takes the place of the shell, which leaves nothing to be done at its end.
      if (locate? (← get) name).isSome then modify fun s => { s with traps := [] }
      let status ← runExternal programs run name arguments
      modify fun s => { s with status }
      Act.stop .exits

/-- Work whose output is missed if there is nowhere for it to go. -/
def minding (name : Octets) (work : Act Nat) : Act Nat := do
  if ((← get).streams.lookup 1).isSome then work
  else
    let channel ← addChannel (.bytes ByteArray.empty 0)
    modify (State.leadTo 1 (some channel))
    let status ← work
    modify (State.leadTo 1 none)
    if ((← get).contentOf channel).isEmpty then return status
    else
      Act.warn (name ++ Octets.ofString ": I/O error")
      return 1

/-- Runs a command of the shell itself. -/
def runBuiltin (programs : Programs) (run : Run) (tested : Bool) (name : Octets)
    (arguments : List Octets) (special : Bool) : Act Nat := do
  let before := (← get).command
  modify fun s => { s with command := some name }
  let work : Act Nat := match builtins.lookup (String.ofList name) with
    | some builtin => minding name (builtin arguments)
    | none => runRunning programs run tested name arguments
  let result ← attempt work
  modify fun s => { s with command := before }
  match result with
  | .ok status => return status
  | .error .fails => if special then Act.stop .fails else return (← get).status
  | .error i => Act.stop i

/-- Runs a simple command. -/
def runSimple (programs : Programs) (run : Run) (tested : Bool) (assignments words : List Word)
    (redirections : List Redirection) : Act Nat := do
  modify fun s => { s with outputStatus := 0 }
  let capture := captureWith run
  let fields ← commandFields capture words []
  let plan := planOf (← get) false fields
  let requests ← requestsOf capture redirections
  let before ← get
  let complaints := before.streams.lookup 2
  match ← attempt (followRequests capture requests) with
  | .error .fails => if plan.isSpecial then Act.stop .fails else return 2
  | .error i => Act.stop i
  | .ok () =>
    let keeps := match plan with
      | .nothing => false
      | plan => !plan.isSpecial
    let assigned : Act Unit := do
      let shown ← makeAssignments capture keeps assignments
      trace capture complaints (shown ++ fields)
    let work : Act Nat := match plan with
      | .nothing => do
        assigned
        return (← get).outputStatus
      | .function _ arguments body => do
        assigned
        callFunction run tested arguments body
      | .builtin name arguments special => do
        assigned
        runBuiltin programs run tested name arguments special
      | .program name arguments => do
        assigned
        runExternal programs run name arguments
      | .describe verbose name => do
        assigned
        describeCommand verbose name
    let work := if keeps && !assignments.isEmpty then Act.keeping work else work
    match plan with
    -- Without a program to run, the redirections are for the shell itself.
    | .builtin ['e', 'x', 'e', 'c'] [] _ => work
    | _ => restoring (requests.map StreamRequest.number) before work

/-! ## All commands -/

/-- Tells the line that runs. -/
def atLine (line : Nat) : Act Unit := modify fun s => { s with line }

/-- Runs a command, given how the commands inside it are run. -/
def stepBody (programs : Programs) (run : Run) (tested : Bool) (command : Command) : Act Nat := do
  let capture := captureWith run
  match command with
  | .nothing => return 0
  | .simple line assignments words redirections =>
    atLine line
    runSimple programs run tested assignments words redirections
  | .redirected line body redirections =>
    atLine line
    let requests ← requestsOf capture redirections
    let before ← get
    match ← attempt (followRequests capture requests) with
    | .ok () => restoring (requests.map StreamRequest.number) before (run tested body)
    | .error .fails => return 2
    | .error i => Act.stop i
  | .both first second =>
    let status ← run tested first
    if (← get).skip ≠ .none then return status else run tested second
  | .andThen first second =>
    let status ← run true first
    if status ≠ 0 || (← get).skip ≠ .none then return status else run tested second
  | .orElse first second =>
    let status ← run true first
    if status = 0 || (← get).skip ≠ .none then return status else run tested second
  | .negation body =>
    let status ← run true body
    if (← get).skip ≠ .none then return status else return if status = 0 then 1 else 0
  | .pipe commands => runPipe run tested none commands
  | .background body =>
    let s ← get
    let number := s.nextProcess
    let channel ← addChannel .nothing
    modify fun s => { s with nextProcess := number + 1 }
    let status ← inside run (State.leadTo 0 (some channel)) (run false body)
    modify fun s =>
      { s with lastBackground := some number, finished := (number, status) :: s.finished }
    return 0
  | .separate line body redirections =>
    atLine line
    let requests ← requestsOf capture redirections
    inside run id do
      followRequests capture requests
      run tested body
  | .branch condition body alternative =>
    let status ← run true condition
    if (← get).skip ≠ .none then return status
    else if status = 0 then run tested body
    else run tested alternative
  | .loop negated condition body =>
    inLoop (runTurns run tested negated condition body turnLimit 0)
  | .each line name words body =>
    atLine line
    let values ← fieldsOfWords capture words
    inLoop (runOver run tested name body values 0)
  | .select line subject cases =>
    atLine line
    let text ← textOf capture .single subject
    run tested (← chooseCase capture text cases)
  | .define _ name body =>
    modify fun s =>
      let others := s.functions.filter fun (other, _) => other != name
      { s with functions := (name, body) :: others }
    return 0

/-- Whether a failure of the command may end the script. -/
def isChecked : Command → Bool
  | .simple _ _ _ _ | .separate _ _ _ | .pipe _ => true
  | _ => false

/-- Runs a command and does what has to be done behind every command. -/
def step (programs : Programs) (run : Run) : Run := fun tested command => do
  if (← get).has 'n' then return 0
  else
    let status ← stepBody programs run tested command
    match command with
    | .nothing => return 0
    | command =>
      modify fun s => { s with status }
      runTraps run
      if isChecked command && !tested && status ≠ 0 && (← get).has 'e' then Act.stop .exits
      else return status

/-- Runs a command, on a budget of nested commands. -/
def eval (programs : Programs) : Nat → Run
  | 0 => fun _ _ => Act.stop .exits
  | budget + 1 => step programs (eval programs budget)

/-- Runs the shell with its own arguments. -/
def runProgram (programs : Programs) (arguments : List String) (d : Disk) : ProcessOutput × Disk :=
  let run := eval programs depthLimit
  let work := shellProgram run "sh".toList (arguments.map Octets.ofString)
  let (result, s) := work (State.start d "sh".toList [])
  let status : ExitStatus := match result with
    | .ok status => status
    | .error _ => .code 2
  (⟨status, s.contentOf 1, s.contentOf 2⟩, { s.disk with home := d.home })

end Expansion.Shell
