import Expansion.Outline.Command
import Expansion.Shell.Run

/-!
# The programs of a machine

A machine knows two programs, which serve as drivers: the shell, and the compiler of outlines, which
is what every runnable file on the disk is that holds `outlineImage`. A runnable file that names its
interpreter in its first line is a script. `Programs.runner` starts the program that a path names,
or says why it cannot.
-/

namespace Expansion.Programs

/-- The names of the shell. -/
def shellNames : List String := ["sh", "/bin/sh", "/usr/bin/sh"]

/-- Why no program has a name without a slash: the directories that are searched do not have it, or
it cannot be the name of a file, or it is a directory that each of them has. -/
def nameError (name : String) : Disk.Error :=
  if Disk.nameLimit < name.utf8ByteSize then .nameTooLong
  else if name = "." ∨ name = ".." then .denied
  else .notFound

/-- Why a file cannot be run, if it cannot. -/
def startError? (d : Disk) (p : FilePath) : Option Disk.Error :=
  if !Text.hasChar '/' p.text then some (nameError p.text)
  else
    match d.find p true with
    | .error e => some e
    | .ok (.present _ (.file _ true)) => none
    | .ok (.present _ _) => some .denied
    | .ok (.absent _ _ _) => some .notFound

/-- What a file with the compiler of outlines holds. -/
def outlineImage : ByteArray := "outline compiler".toUTF8

/-- What a runnable file holds, if there is one at a path. -/
def runnableContent? (d : Disk) (p : FilePath) : Option ByteArray :=
  match d.find p true with
  | .ok (.present _ (.file content true)) => some content
  | _ => none

/-- Runs a file of the disk, if it is a program and no script. -/
def runFile : Shell.Programs := fun p arguments d =>
  if (runnableContent? d p).any fun content => content.data == outlineImage.data then
    some (Outline.runProgram arguments d)
  else none

/-- Runs a program. -/
def runner : Runner := fun p arguments d =>
  let shell (arguments : List String) : Except Disk.Error ProcessOutput × Disk :=
    let (output, d) := Shell.runProgram runFile arguments d
    (.ok output, d)
  if shellNames.contains p.text then shell arguments
  else
    match startError? d p with
    | some e => (.error e, d)
    | none =>
      match runFile p arguments d with
      | some (output, d) => (.ok output, d)
      | none =>
        let text := Shell.Octets.ofBytes ((runnableContent? d p).getD ByteArray.empty)
        match Shell.interpreter? text with
        | none => (.error .notProgram, d)
        | some interpreter =>
          if Shell.isShell interpreter then shell (p.text :: arguments) else (.error .notFound, d)

end Expansion.Programs
