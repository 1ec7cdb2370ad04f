import Expansion.Disk.Access
import Expansion.Shell.Octets

/-!
# Tools

The small programs that scripts use. A tool is a function: from its arguments, its input, the
variables that it is given and the disk to what it prints, its status and the disk that it leaves.

* **A tool takes only the input that it needs**: `used` is how much of the input is gone, which
  matters to a command that shares its input with others.
* `Options.read` understands the options of all tools in the same way: letters may stand together,
  an option may have its value behind it or as the next argument, long options may be cut short, and
  options may stand behind other arguments.
-/

namespace Expansion.Shell

/-- What a tool is called with. -/
structure Call where
  name : Octets
  arguments : List Octets
  input : ByteArray
  /-- Whether the input is a file, of which one may leave the rest to others. -/
  fromFile : Bool
  environment : List (Octets × Octets)
  disk : Disk

/-- What is left of a tool that ran. -/
structure ToolOutput where
  status : Nat
  out : Octets
  err : Octets
  disk : Disk
  /-- The number of bytes of the input that are gone. -/
  used : Nat

/-- A tool. -/
abbrev Tool := Call → ToolOutput

namespace Call

/-- The whole input as a text. -/
def inputText (c : Call) : Octets := Octets.ofBytes c.input

/-- Ends with a status. -/
def done (c : Call) (status : Nat) : ToolOutput := ⟨status, [], [], c.disk, 0⟩

/-- Prints a text and ends well. -/
def print (c : Call) (out : Octets) : ToolOutput := ⟨0, out, [], c.disk, 0⟩

/-- A complaint. -/
def complaint (c : Call) (message : Octets) : Octets :=
  c.name ++ Octets.ofString ": " ++ message ++ ['\n']

/-- Complains and ends. -/
def fail (c : Call) (status : Nat) (message : Octets) : ToolOutput :=
  ⟨status, [], c.complaint message, c.disk, 0⟩

/-- The end of complaints about how a tool is called. -/
def hint (c : Call) : Octets :=
  Octets.ofString "Try '" ++ c.name ++ Octets.ofString " --help' for more information.\n"

/-- Complains about how the tool is called and ends. -/
def misuse (c : Call) (status : Nat) (message : Octets) : ToolOutput :=
  ⟨status, [], c.complaint message ++ c.hint, c.disk, 0⟩

/-- Complains that an operand is missing. -/
def missingOperand (c : Call) (status : Nat) : ToolOutput :=
  c.misuse status (Octets.ofString "missing operand")

/-- Complains that an operand is missing behind another one. -/
def missingBehind (c : Call) (what : String) (operand : Octets) (status : Nat) : ToolOutput :=
  c.misuse status (Octets.ofString ("missing " ++ what ++ " after '") ++ operand
    ++ Octets.ofString "'")

/-- Complains about an operand too many. -/
def extraOperand (c : Call) (operand : Octets) (status : Nat) : ToolOutput :=
  c.misuse status (Octets.ofString "extra operand '" ++ operand ++ Octets.ofString "'")

end Call

/-- An error of the disk in words. -/
def errorText : Disk.Error → String
  | .notFound => "No such file or directory"
  | .denied => "Permission denied"
  | .alreadyThere => "File exists"
  | .notDirectory => "Not a directory"
  | .isDirectory => "Is a directory"
  | .nameTooLong => "File name too long"
  | .tooManyLinks => "Too many levels of symbolic links"
  | .notProgram => "Exec format error"
  | _ => "Invalid argument"

/-- A text between the quotation marks of complaints. -/
def quoteName (cs : Octets) : Octets := singleQuote :: cs ++ [singleQuote]

/-- The text of a complaint about a file. -/
def aboutFile (file : Octets) (e : Disk.Error) : Octets :=
  file ++ Octets.ofString (": " ++ errorText e)

/-- The text of a complaint that something cannot be done to a file. -/
def cannot (what : String) (file : Octets) (e : Disk.Error) : Octets :=
  Octets.ofString (what ++ " ") ++ quoteName file ++ Octets.ofString (": " ++ errorText e)

/-- The path of a text. -/
def pathOf (file : Octets) : FilePath := ⟨Octets.toString file⟩

/-- The bytes of a file; devices are empty. -/
def fileText (d : Disk) (file : Octets) : Except Disk.Error Octets :=
  if file = "/dev/null".toList then .ok []
  else (d.readBytes (pathOf file)).map Octets.ofBytes

/-- The text of an operand, where a dash and the file of the input stand for the input. -/
def Call.textOf (c : Call) (file : Octets) : Except Disk.Error Octets :=
  if file = ['-'] || file = "/dev/stdin".toList then .ok c.inputText else fileText c.disk file

/-- Whether one of the files is the input. -/
def readsInput (files : List Octets) : Bool :=
  files.isEmpty || files.any fun file => file = ['-'] || file = "/dev/stdin".toList

/-! ## Options -/

/-- The options that a tool knows. -/
structure OptionTable where
  /-- Letters that stand alone. -/
  flags : List Char
  /-- Letters with a value. -/
  valued : List Char
  /-- Long names for letters. -/
  long : List (String × Char)
  /-- The status for options that are unknown. -/
  status : Nat

/-- The options and the other arguments of a call. -/
structure Arguments where
  /-- The options in order, each with its value. -/
  options : List (Char × Octets)
  operands : List Octets

namespace Arguments

/-- Whether an option is given. -/
def has (a : Arguments) (letter : Char) : Bool := a.options.any fun (other, _) => other == letter

/-- The last value of an option. -/
def value? (a : Arguments) (letter : Char) : Option Octets :=
  (a.options.filter fun (other, _) => other == letter).getLast?.map Prod.snd

/-- The last of some options that is given. -/
def lastOf? (a : Arguments) (letters : List Char) : Option Char :=
  (a.options.filter fun (other, _) => letters.contains other).getLast?.map Prod.fst

/-- The arguments with one more option in front. -/
def consOption (letter : Char) (value : Octets) (a : Arguments) : Arguments :=
  { a with options := (letter, value) :: a.options }

end Arguments

namespace OptionTable

/-- The long option of a name, which may be cut short if only one name begins so. -/
def longOption? (t : OptionTable) (name : Octets) : Except Octets Char :=
  let text := String.ofList name
  match t.long.lookup text with
  | some letter => .ok letter
  | none =>
    match t.long.filter fun (other, _) => Octets.startsWith name other.toList with
    | [(_, letter)] => .ok letter
    | _ => .error (Octets.ofString "unrecognized option '--" ++ name ++ Octets.ofString "'")

/-- What letters behind a dash ask for, and whether the last one still needs a value. -/
def letters (t : OptionTable) : Octets → Except Octets (List (Char × Octets) × Option Char)
  | [] => .ok ([], none)
  | c :: rest =>
    if t.flags.contains c then do
      let (options, open?) ← letters t rest
      return ((c, []) :: options, open?)
    else if t.valued.contains c then
      if rest.isEmpty then .ok ([], some c) else .ok ([(c, rest)], none)
    else .error (Octets.ofString "invalid option -- '" ++ [c] ++ Octets.ofString "'")

/-- Reads options and other arguments; with `strict`, no option stands behind another argument. -/
def read (t : OptionTable) (strict : Bool) : List Octets → Except Octets Arguments
  | [] => .ok ⟨[], []⟩
  | ['-', '-'] :: rest => .ok ⟨[], rest⟩
  | ('-' :: '-' :: name) :: rest =>
    match Text.splitOnceChars ['='] name with
    | some (name, value) => do
      let letter ← t.longOption? name
      if t.valued.contains letter then
        return (← read t strict rest).consOption letter value
      else
        .error (Octets.ofString "option '--" ++ name
          ++ Octets.ofString "' doesn't allow an argument")
    | none => do
      let letter ← t.longOption? name
      if t.valued.contains letter then
        match rest with
        | value :: rest => return (← read t strict rest).consOption letter value
        | [] =>
          .error (Octets.ofString "option '--" ++ name
            ++ Octets.ofString "' requires an argument")
      else return (← read t strict rest).consOption letter []
  | ('-' :: c :: more) :: rest => do
    let (options, open?) ← t.letters (c :: more)
    match open?, rest with
    | none, rest =>
      let a ← read t strict rest
      return { a with options := options ++ a.options }
    | some letter, value :: rest =>
      let a ← read t strict rest
      return { a with options := options ++ (letter, value) :: a.options }
    | some letter, [] =>
      .error (Octets.ofString "option requires an argument -- '" ++ [letter]
        ++ Octets.ofString "'")
  | operand :: rest =>
    if strict then .ok ⟨[], operand :: rest⟩
    else do
      let a ← read t strict rest
      return { a with operands := operand :: a.operands }

/-- Runs a tool with its options read. -/
def run (t : OptionTable) (strict : Bool) (body : Call → Arguments → ToolOutput) : Tool :=
  fun c =>
    match t.read strict c.arguments with
    | .ok a => body c a
    | .error message => c.misuse t.status message

end OptionTable

/-- The work of a tool on one file after the other: what it prints, what it complains about and
whether anything went wrong. -/
structure Progress where
  out : Octets
  err : Octets
  failed : Bool

namespace Progress

/-- Nothing done yet. -/
def start : Progress := ⟨[], [], false⟩

/-- Prints a text. -/
def print (text : Octets) (p : Progress) : Progress := { p with out := p.out ++ text }

/-- Complains about something. -/
def complain (c : Call) (message : Octets) (p : Progress) : Progress :=
  { p with err := p.err ++ c.complaint message, failed := true }

/-- The output of work on some files. -/
def finish (c : Call) (files : List Octets) (status : Nat) (p : Progress) : ToolOutput :=
  { status := if p.failed then status else 0
    out := p.out
    err := p.err
    disk := c.disk
    used := if readsInput files then c.input.size else 0 }

end Progress

/-- The files that a tool reads: its operands, or else its input. -/
def filesOf (operands : List Octets) : List Octets :=
  if operands.isEmpty then [['-']] else operands

/-- The texts of files one behind the other; a file that cannot be read is complained about. -/
def Call.allTexts (c : Call) (files : List Octets) : Progress :=
  files.foldl (fun p file =>
    match c.textOf file with
    | .ok text => p.print text
    | .error e => p.complain c (aboutFile file e)) .start

end Expansion.Shell
