import Expansion.Disk.Basic

/-!
# Running programs

What is left of a program that ran: how it ended and what it printed. A runner is a function from
the disk that a program starts on to the outcome and the disk that it leaves.
-/

namespace Expansion

/-- How a program ended. -/
inductive ExitStatus where
  | code (n : Nat)
  | signal (n : Nat)
  deriving DecidableEq, Repr

namespace ExitStatus

/-- Whether the program says that all went well. -/
def isSuccess (s : ExitStatus) : Bool := s == .code 0

/-- The names of the signals that end a program. -/
def signalNames : List (Nat × String) :=
  [(1, "SIGHUP"), (2, "SIGINT"), (3, "SIGQUIT"), (4, "SIGILL"), (5, "SIGTRAP"), (6, "SIGABRT"),
    (7, "SIGBUS"), (8, "SIGFPE"), (9, "SIGKILL"), (10, "SIGUSR1"), (11, "SIGSEGV"), (12, "SIGUSR2"),
    (13, "SIGPIPE"), (14, "SIGALRM"), (15, "SIGTERM"), (16, "SIGSTKFLT"), (24, "SIGXCPU"),
    (25, "SIGXFSZ"), (26, "SIGVTALRM"), (27, "SIGPROF"), (29, "SIGIO"), (30, "SIGPWR"),
    (31, "SIGSYS")]

/-- The status in words. -/
def describe : ExitStatus → String
  | .code n => "exit status: " ++ toString n
  | .signal n =>
    match signalNames.lookup n with
    | some name => "signal: " ++ toString n ++ " (" ++ name ++ ")"
    | none => "signal: " ++ toString n

end ExitStatus

/-- What is left of a program that ran. -/
structure ProcessOutput where
  status : ExitStatus
  out : ByteArray
  err : ByteArray

/-- Runs the program at a path with some arguments, or tells why it cannot be started. -/
abbrev Runner := FilePath → List String → Disk → Except Disk.Error ProcessOutput × Disk

end Expansion
