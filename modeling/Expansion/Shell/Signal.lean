import Expansion.Shell.State

/-!
# Signals and traps

The signals that a script may name, what they do to a shell, and the command `kill`.
-/

namespace Expansion.Shell

/-- The names of the signals; the end of a shell counts as one. -/
def signalNames : List (Nat × String) :=
  [(0, "EXIT"), (1, "HUP"), (2, "INT"), (3, "QUIT"), (4, "ILL"), (5, "TRAP"), (6, "ABRT"),
    (7, "BUS"), (8, "FPE"), (9, "KILL"), (10, "USR1"), (11, "SEGV"), (12, "USR2"), (13, "PIPE"),
    (14, "ALRM"), (15, "TERM"), (16, "STKFLT"), (17, "CHLD"), (18, "CONT"), (19, "STOP"),
    (20, "TSTP"), (21, "TTIN"), (22, "TTOU"), (23, "URG"), (24, "XCPU"), (25, "XFSZ"),
    (26, "VTALRM"), (27, "PROF"), (28, "WINCH"), (29, "IO"), (30, "PWR"), (31, "SYS")]

/-- The signals that do nothing to a shell that has no trap for them. -/
def harmlessSignals : List Nat := [0, 17, 18, 19, 20, 21, 22, 23, 28]

/-- The signal that a word names. -/
def signal? (word : Octets) : Option Nat :=
  if !word.isEmpty && word.all Char.isDigit then
    let n := digitsValue word
    if n < 65 then some n else none
  else
    let upper := String.ofList (word.map Char.toUpper)
    (signalNames.find? fun (_, name) => name = upper).map Prod.fst

/-- The name of a signal. -/
def signalName (n : Nat) : Octets :=
  match signalNames.lookup n with
  | some name => name.toList
  | none => Octets.ofNat n

/-- What a shell says about a command that a signal ended. -/
def deathMessage? (signal : Nat) : Option String :=
  [(1, "Hangup"), (3, "Quit"), (4, "Illegal instruction"), (5, "Trace/breakpoint trap"),
    (6, "Aborted"), (7, "Bus error"), (8, "Floating point exception"), (9, "Killed"),
    (10, "User defined signal 1"), (11, "Segmentation fault"), (12, "User defined signal 2"),
    (14, "Alarm clock"), (15, "Terminated"), (16, "Stack fault"), (24, "CPU time limit exceeded"),
    (25, "File size limit exceeded"), (26, "Virtual timer expired"),
    (27, "Profiling timer expired"), (29, "I/O possible"), (30, "Power failure"),
    (31, "Bad system call")].lookup signal

/-- Sends a signal to the shell. -/
def receive (signal : Nat) : Act Unit := do
  let s ← get
  match s.traps.lookup signal with
  | some action => if action.isEmpty then return () else set { s with pending := s.pending ++ [signal] }
  | none => if harmlessSignals.contains signal then return () else Act.stop (.killed signal)

/-- How `kill` is used. -/
def killUsage : String :=
  "Usage: kill [-s sigspec | -signum | -sigspec] [pid | job]... or\nkill -l [exitstatus]"

/-- Sends a signal to programs by their numbers. -/
def sendTo (signal : Nat) : List Octets → Act Nat
  | [] => return 0
  | target :: rest => do
    let s ← get
    if target.isEmpty || !target.all Char.isDigit then
      Act.fail (Octets.ofString "Illegal number: " ++ target)
    else
      let number := digitsValue target
      if number = processNumber then
        receive signal
        sendTo signal rest
      else if (s.finished.lookup number).isSome then sendTo signal rest
      else
        Act.warn (Octets.ofString "No such process")
        Act.write 2 ['\n']
        let _ ← sendTo signal rest
        return 1

/-- Sends signals. -/
def killCommand (arguments : List Octets) : Act Nat := do
  let send (signal? : Option Nat) (word : Octets) (targets : List Octets) : Act Nat :=
    match signal? with
    | none => Act.fail (Octets.ofString "invalid signal number or name: " ++ word)
    | some signal => if targets.isEmpty then Act.failWith killUsage else sendTo signal targets
  match arguments with
  | [] => Act.failWith killUsage
  | ['-', 'l'] :: [] =>
    let names := signalNames.map fun (n, name) => if n = 0 then "0".toList else name.toList
    Act.print (Octets.unlines names)
    return 0
  | ['-', 'l'] :: status :: _ =>
    if status.isEmpty || !status.all Char.isDigit then
      Act.fail (Octets.ofString "Illegal number: " ++ status)
    let n := digitsValue status
    Act.print (signalName (if 128 < n then n - 128 else n) ++ ['\n'])
    return 0
  | ['-', 's'] :: name :: targets => send (signal? name) name targets
  | ['-', '-'] :: targets => send (some 15) [] targets
  | ('-' :: c :: name) :: targets =>
    match signal? (c :: name) with
    | some signal => send (some signal) [] targets
    | none => Act.fail (Octets.ofString "Illegal option -" ++ [c])
  | targets => send (some 15) [] targets

end Expansion.Shell
