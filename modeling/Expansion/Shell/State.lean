import Expansion.Disk.Access
import Expansion.DriverProgram.Process
import Expansion.Shell.Field
import Expansion.Shell.Syntax

/-!
# The state of a shell

What a shell script reads and changes while it runs.

* **A stream is a number that leads to a channel.** Two streams may lead to one channel, and shells
  that come from one another share their channels, so what one of them has read is gone for all.
* A variable may be known without having a value: it may be exported or locked before it gets one.
* Work of a shell is an `Act`, which ends either with a result or with an `Interrupt`; the state is
  there in both cases, so output and files do not depend on how things end.
-/

namespace Expansion.Shell

/-- A variable of a shell. -/
structure Variable where
  value : Option Octets
  exported : Bool
  locked : Bool

/-- Where a stream may lead. -/
inductive Channel where
  /-- To nothing: there is never anything to read, and what is written is gone. -/
  | nothing
  /-- To bytes in order, of which some have been read. -/
  | bytes (content : ByteArray) (position : Nat)
  /-- To a file; everything goes to its end if `append` asks for that. -/
  | file (place : Location) (position : Nat) (append : Bool)

/-- A change of the order in which commands run. -/
inductive Skip where
  | none
  /-- Out of so many loops. -/
  | leave (loops : Nat)
  /-- To the next turn of the loop that is so many further out. -/
  | next (loops : Nat)
  /-- Out of a function or a script. -/
  | giveBack
  deriving DecidableEq, Repr

/-- Why no further command runs. -/
inductive Interrupt where
  /-- The shell is over. -/
  | exits
  /-- Something is wrong and has been complained about. -/
  | fails
  /-- The shell has been ended by a signal. -/
  | killed (signal : Nat)
  deriving DecidableEq, Repr

/-- The state of a shell. -/
structure State where
  disk : Disk
  name : Octets
  arguments : List Octets
  bindings : List (Octets × Variable)
  functions : List (Octets × Command)
  documents : List (Nat × Word)
  nextDocument : Nat
  channels : Array Channel
  /-- The channels of the streams that are open. -/
  streams : List (Nat × Nat)
  status : Nat
  /-- The status of the last commands whose output was put into a word. -/
  outputStatus : Nat
  /-- The letters of the options that are set. -/
  options : List Char
  /-- The line of the command that runs, counted from where its text begins. -/
  line : Nat
  /-- The command of the shell itself that runs. -/
  command : Option Octets
  /-- The number of loops around the command. -/
  loops : Nat
  skip : Skip
  /-- What to do at the end (0) and when signals come. -/
  traps : List (Nat × Octets)
  /-- The signals that have come. -/
  pending : List Nat
  /-- The variables to put back when a function is over, the innermost function first. -/
  saved : List (List (Octets × Option Variable))
  /-- The number of the last command that was started to run beside others. -/
  lastBackground : Option Nat
  /-- The status of commands that ran beside others and have not been waited for. -/
  finished : List (Nat × Nat)
  /-- The number of the next process. -/
  nextProcess : Nat
  /-- How many characters of its argument `getopts` has read. -/
  optionOffset : Nat
  mask : Nat
  /-- The status with which the shell ends, once it does. -/
  ending : Option Nat

/-- Work of a shell. -/
abbrev Act (α : Type) := ExceptT Interrupt (StateM State) α

/-- The number of the shell among the programs that run. -/
def processNumber : Nat := 4242

/-- The separators of a shell that has not been told any. -/
def defaultSeparators : Octets := [' ', '\t', '\n']

/-- The directories in which programs are. -/
def standardPath : String := "/usr/local/sbin:/usr/local/bin:/usr/sbin:/usr/bin:/sbin:/bin"

namespace State

/-- The place of the directory that paths start from, as a path. -/
def directory (d : Disk) : Octets :=
  if d.home.isEmpty then ['/'] else d.home.flatMap fun name => '/' :: Octets.ofString name

/-- The variables in which a shell starts. -/
def startVariables (d : Disk) : List (Octets × Variable) :=
  let given (name value : Octets) : Octets × Variable := (name, ⟨some value, true, false⟩)
  let own (name value : Octets) : Octets × Variable := (name, ⟨some value, false, false⟩)
  [given "HOME".toList "/root".toList, given "PATH".toList standardPath.toList,
    given "PWD".toList (directory d), given "TMPDIR".toList (Octets.ofString d.scratch.text),
    own "IFS".toList defaultSeparators, own "OPTIND".toList ['1'], own "PS1".toList ['$', ' '],
    own "PS2".toList ['>', ' '], own "PS4".toList ['+', ' '], own "PPID".toList "4241".toList]

/-- The state in which a script starts. -/
def start (d : Disk) (name : Octets) (arguments : List Octets) : State where
  disk := d
  name := name
  arguments := arguments
  bindings := startVariables d
  functions := []
  documents := []
  nextDocument := 0
  channels := #[.nothing, .bytes ByteArray.empty 0, .bytes ByteArray.empty 0]
  streams := [(0, 0), (1, 1), (2, 2)]
  status := 0
  outputStatus := 0
  options := []
  line := 0
  command := none
  loops := 0
  skip := .none
  traps := []
  pending := []
  saved := []
  lastBackground := none
  finished := []
  nextProcess := processNumber + 1
  optionOffset := 0
  mask := 0o022
  ending := none

/-- The variable of a name, if it is known. -/
def lookup? (s : State) (name : Octets) : Option Variable := s.bindings.lookup name

/-- The value of a variable, if it has one. -/
def value? (s : State) (name : Octets) : Option Octets :=
  (s.lookup? name).bind Variable.value

/-- The characters at which values are split. -/
def separators (s : State) : Octets := (s.value? "IFS".toList).getD defaultSeparators

/-- Whether an option is set. -/
def has (s : State) (option : Char) : Bool := s.options.contains option

/-- The state with a variable as it is given, or without it. -/
def putVariable (name : Octets) (new? : Option Variable) (s : State) : State :=
  let others := s.bindings.filter fun (other, _) => other != name
  { s with bindings := new?.toList.map (name, ·) ++ others }

/-- The channel of a stream. -/
def channel? (s : State) (stream : Nat) : Option Channel :=
  (s.streams.lookup stream).bind fun n => s.channels[n]?

/-- The state with a stream led to a channel, or closed. -/
def leadTo (stream : Nat) (channel? : Option Nat) (s : State) : State :=
  let others := s.streams.filter fun (other, _) => other != stream
  { s with streams := channel?.toList.map (stream, ·) ++ others }

/-- The state with one more channel, and its number. -/
def addChannel (channel : Channel) (s : State) : Nat × State :=
  (s.channels.size, { s with channels := s.channels.push channel })

/-- The bytes of a file with some of them written at a position; a gap is filled with zeros. -/
def overwrite (content : ByteArray) (position : Nat) (more : ByteArray) : ByteArray :=
  let gap : ByteArray := ⟨(List.replicate (position - content.size) (0 : UInt8)).toArray⟩
  content.extract 0 position ++ gap ++ more
    ++ content.extract (position + more.size) content.size

/-- The state after bytes went to a channel. -/
def writeChannel (number : Nat) (more : ByteArray) (s : State) : State :=
  match s.channels[number]? with
  | some (.bytes content position) =>
    { s with channels := s.channels.set! number (.bytes (content ++ more) position) }
  | some (.file place position append) =>
    match s.disk.get? place with
    | some (.file content runnable) =>
      let position := if append then content.size else position
      let content := overwrite content position more
      { s with
        disk := s.disk.set place (.file content runnable)
        channels := s.channels.set! number (.file place (position + more.size) append) }
    | _ => s
  | _ => s

/-- What a stream still has to read, and the state after the first `count` bytes were read. -/
def readStream (stream : Nat) (s : State) : ByteArray :=
  match s.channel? stream with
  | some (.bytes content position) => content.extract position content.size
  | some (.file place position _) =>
    match s.disk.get? place with
    | some (.file content _) => content.extract position content.size
    | _ => ByteArray.empty
  | _ => ByteArray.empty

/-- The state after so many bytes were read from a stream. -/
def advance (stream count : Nat) (s : State) : State :=
  match s.streams.lookup stream with
  | some number =>
    match s.channels[number]? with
    | some (.bytes content position) =>
      { s with channels := s.channels.set! number (.bytes content (position + count)) }
    | some (.file place position append) =>
      { s with channels := s.channels.set! number (.file place (position + count) append) }
    | _ => s
  | none => s

/-- The bytes that a channel has been given. -/
def contentOf (s : State) (number : Nat) : ByteArray :=
  match s.channels[number]? with
  | some (.bytes content _) => content
  | _ => ByteArray.empty

end State

namespace Act

/-- Interrupts the shell. -/
def stop {α : Type} (i : Interrupt) : Act α := fun s => (.error i, s)

/-- Writes a text to a stream; what is written to a closed stream is gone. -/
def write (stream : Nat) (text : Octets) : Act Unit :=
  modify fun s =>
    match s.streams.lookup stream with
    | some number => s.writeChannel number (Octets.toBytes text)
    | none => s

/-- Prints a text. -/
def print (text : Octets) : Act Unit := write 1 text

/-- Complains about what the current command does. -/
def warn (message : Octets) : Act Unit := do
  let s ← get
  let place := s.name ++ Octets.ofString ": " ++ Octets.ofNat s.line ++ Octets.ofString ": "
  let command := match s.command with
    | some name => name ++ Octets.ofString ": "
    | none => []
  write 2 (place ++ command ++ message ++ ['\n'])

/-- Complains and gives up. -/
def fail {α : Type} (message : Octets) : Act α := do
  warn message
  modify fun s => { s with status := 2 }
  stop .fails

/-- Complains with a fixed text and gives up. -/
def failWith {α : Type} (message : String) : Act α := fail (Octets.ofString message)

/-- Gives a variable a value. -/
def assign (name value : Octets) : Act Unit := do
  let s ← get
  if !isName name then fail (name ++ Octets.ofString ": bad variable name")
  else
    match s.lookup? name with
    | some old =>
      if old.locked then fail (name ++ Octets.ofString ": is read only")
      else
        let exported := old.exported || s.has 'a'
        modify (State.putVariable name (some ⟨some value, exported, false⟩))
    | none => modify (State.putVariable name (some ⟨some value, s.has 'a', false⟩))
    if name = "OPTIND".toList then modify fun s => { s with optionOffset := 0 }

/-- Forgets a variable. -/
def forget (name : Octets) : Act Unit := do
  match (← get).lookup? name with
  | some old =>
    if old.locked then fail (name ++ Octets.ofString ": is read only")
    else modify (State.putVariable name none)
  | none => return ()

/-- Keeps a variable as it is for the end of the innermost function. -/
def keep (name : Octets) : Act Unit :=
  modify fun s =>
    match s.saved with
    | frame :: rest =>
      if frame.any fun (other, _) => other == name then s
      else { s with saved := ((name, s.lookup? name) :: frame) :: rest }
    | [] => s

/-- Work at the end of which variables that it kept are put back. -/
def keeping {α : Type} (work : Act α) : Act α := fun s =>
  let (result, after) := work { s with saved := [] :: s.saved }
  match after.saved with
  | frame :: rest =>
    let back := frame.foldl (fun t (name, old?) => t.putVariable name old?) after
    (result, { back with saved := rest })
  | [] => (result, after)

end Act

end Expansion.Shell
