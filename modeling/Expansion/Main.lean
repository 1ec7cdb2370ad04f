import Expansion.CommandLine.Run
import Expansion.Programs

/-!
# The program

The command line as a program of its own: the working directory is read into a disk, the command
line is run on it, and the files that changed are written back. Everything that is decided is
decided elsewhere.
-/

namespace Expansion.Program

/-- Where scratch files are on the disk of a run. -/
def scratchDirectory : String := "scratch"

/-- The files below a directory, with their locations. -/
partial def readTree (directory : String) (place : Location) :
    IO (List (Location × Disk.Entry)) := do
  let mut found := []
  for entry in ← (System.mkFilePath [directory]).readDir do
    let path := directory ++ "/" ++ entry.fileName
    let here := place ++ [entry.fileName]
    if ← (System.mkFilePath [path]).isDir then
      let below ← readTree path here
      found := found ++ [(here, .directory)] ++ below
    else
      let content ← IO.FS.readBinFile path
      found := found ++ [(here, .file content false)]
  return found

/-- The disk of a run: the working directory, an empty scratch directory, and the compiler of
outlines. -/
def diskOf (files : List (Location × Disk.Entry)) : Disk where
  entries := [([scratchDirectory], .directory), (["work"], .directory),
      (["outline"], .file ByteArray.empty true)]
    ++ files.map fun (place, entry) => ("work" :: place, entry)
  home := ["work"]
  scratch := ⟨"/" ++ scratchDirectory⟩

/-- Writes back what is new or changed. -/
def writeBack (before after : Disk) : IO Unit := do
  for (place, entry) in after.entries do
    match place with
    | "work" :: name :: rest =>
      let path := "/".intercalate (name :: rest)
      match entry with
      | .directory => IO.FS.createDirAll path
      | .file content _ =>
        let same := match before.get? place with
          | some (.file old _) => old == content
          | _ => false
        if !same then IO.FS.writeBinFile path content
      | .link _ => pure ()
    | _ => pure ()

/-- The variables of the environment that the program looks at. -/
def readEnvironment : IO (List (String × String)) := do
  let names := ["TYPEXPAND_COMPILER", "TYPEXPAND_BASELINE_REFS", "RUST_LOG"]
  let values ← names.mapM fun name => do return (← IO.getEnv name).map fun value => (name, value)
  return values.filterMap id

end Expansion.Program

open Expansion Expansion.Program in
/-- Runs the command line. -/
def main (arguments : List String) : IO UInt32 := do
  let before := diskOf (← readTree "." [])
  let (outcome, after) := CommandLine.run Programs.runner (← readEnvironment) arguments before
  writeBack before after
  for event in outcome.events do
    IO.eprintln (match outcome.format with
      | .json => event.toJson.compact
      | .pretty => event.level.label ++ " " ++ event.message)
  IO.eprint outcome.err
  IO.print outcome.out
  return UInt32.ofNat outcome.code
