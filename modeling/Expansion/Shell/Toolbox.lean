import Expansion.Digest.Hex
import Expansion.Digest.Sha256
import Expansion.Shell.Format
import Expansion.Shell.State
import Expansion.Shell.Tool.Columns
import Expansion.Shell.Tool.Expression
import Expansion.Shell.Tool.Files
import Expansion.Shell.Tool.Grep
import Expansion.Shell.Tool.Order
import Expansion.Shell.Tool.Sed.Run

/-!
# The tools by name

Which tools there are, under which paths they may be called, and how a shell runs one of them.
-/

namespace Expansion.Shell

open Expansion.Shell.Tool

/-- Prints its arguments. -/
def echoTool : Tool := fun c =>
  let flags := c.arguments.takeWhile fun argument =>
    match argument with
    | '-' :: d :: rest => (d :: rest).all (['n', 'e', 'E'].contains ·)
    | _ => false
  let given := flags.flatMap List.tail
  let words := c.arguments.drop flags.length
  let escapes := (given.filter (· != 'n')).getLast? = some 'e'
  let (text, goesOn) := if escapes then echoWords words else (Octets.join [' '] words, true)
  c.print (if goesOn && !given.contains 'n' then text ++ ['\n'] else text)

/-- Prints with a format. -/
def printfTool : Tool := fun c =>
  match c.arguments with
  | [] => c.missingOperand 1
  | format :: arguments =>
    let p := printFormatted format arguments
    ⟨p.status, p.out, p.complaints.flatMap c.complaint, c.disk, 0⟩

/-- Prints the digests of files. -/
def sha256sum : Tool :=
  OptionTable.run ⟨['b', 't'], [], [], 1⟩ false fun c a =>
    let files := filesOf a.operands
    let p := files.foldl (fun p file =>
      match c.textOf file with
      | .ok text =>
        let digest := Digest.sha256 (Octets.toBytes text).data.toList
        p.print ((Digest.hex digest).toList ++ ' ' :: ' ' :: file ++ ['\n'])
      | .error e => p.complain c (aboutFile file e)) Progress.start
    p.finish c files 1

/-- The tools. -/
def tools : List (String × Tool) :=
  [("basename", basename), ("cat", cat), ("chmod", chmod), ("cmp", cmp), ("comm", comm), ("cp", cp),
    ("cut", cut), ("dirname", dirname), ("echo", echoTool), ("egrep", Grep.tool),
    ("expr", Expression.tool), ("false", idle 1), ("fgrep", Grep.tool), ("fold", fold),
    ("grep", Grep.tool), ("head", head), ("id", Tool.id),
    ("ln", ln), ("ls", ls), ("mkdir", mkdir), ("mktemp", mktemp), ("mv", mv), ("nl", nl),
    ("paste", paste), ("printenv", printenv), ("printf", printfTool), ("pwd", pwd),
    ("readlink", readlink), ("realpath", realpath), ("rev", rev), ("rm", rm), ("rmdir", rmdir),
    ("sed", Sed.tool), ("seq", seq), ("sha256sum", sha256sum), ("sleep", sleep), ("sort", sort),
    ("sync", idle 0), ("tac", tac), ("tail", tail), ("tee", tee), ("touch", touch), ("tr", tr),
    ("true", idle 0), ("uname", say "Linux\n"), ("uniq", uniq), ("wc", wc),
    ("whoami", say "root\n")]

/-- The commands that run other commands or look for them. -/
def wrappers : List String :=
  ["env", "nice", "nohup", "sh", "dash", "bash", "timeout", "which", "xargs"]

/-- The directories in which the tools are. -/
def toolDirectories : List String := ["/usr/bin", "/bin"]

/-- Whether there is a program of a name beside the files of the disk. -/
def isInstalled (name : Octets) : Bool :=
  let text := String.ofList name
  (tools.lookup text).isSome || wrappers.contains text

/-- The name of the installed program that a path leads to. -/
def installedAt? (path : Octets) : Option Octets :=
  toolDirectories.findSome? fun directory =>
    match Text.afterPrefix? (directory ++ "/").toList path with
    | some name => if isInstalled name then some name else none
    | none => none

/-- The directories that are searched for programs. -/
def State.searchPath (s : State) : List Octets :=
  Text.splitChars ':' ((s.value? "PATH".toList).getD [])

/-- Where a program of a name is. -/
def State.programPath? (s : State) (name : Octets) : Option Octets :=
  s.searchPath.findSome? fun directory =>
    let path := if directory.isEmpty then name else directory ++ '/' :: name
    if (installedAt? path).isSome then some path
    else
      match s.disk.find (pathOf path) true with
      | .ok (.present _ (.file _ true)) => some path
      | _ => none

/-- The variables that a program is given. -/
def State.environment (s : State) : List (Octets × Octets) :=
  s.bindings.filterMap fun (name, v) =>
    if v.exported then v.value.map fun value => (name, value) else none

/-- Runs a tool. -/
def runTool (tool : Tool) (name : Octets) (arguments : List Octets) : Act Nat := do
  let s ← get
  let fromFile := match s.channel? 0 with
    | some (.file _ _ _) => true
    | _ => false
  let output := tool ⟨name, arguments, s.readStream 0, fromFile, s.environment, s.disk⟩
  set ({ s with disk := output.disk }.advance 0 output.used)
  Act.write 1 output.out
  Act.write 2 output.err
  return output.status

end Expansion.Shell
