import Expansion.Disk.Basic
import Expansion.Text.Utf8

/-!
# Reading and writing files

The operations that the rest of the library uses, each a function from a disk to an answer or to
another disk. An operation of one step that fails leaves no other disk behind, so its failure changes
nothing; what an operation of several steps (`Attempt`) has done when it fails stays done.

* `isFile`, `readBytes`, `readText` and `canonical?` only look.
* `writeFile` replaces a file's bytes or makes a new file in a directory that is there; through a
  symbolic link it writes to what the link points to.
* **`attemptDirectories`** makes a directory and those above it that are missing, the highest first,
  and `makeDirectories` is the disk with all of them.
-/

namespace Expansion.Disk

/-- Whether a path leads to a regular file. -/
def isFile (d : Disk) (p : FilePath) : Bool :=
  match d.find p true with
  | .ok (.present _ (.file _ _)) => true
  | _ => false

/-- Whether a path leads to a directory. -/
def isDirectory (d : Disk) (p : FilePath) : Bool :=
  match d.find p true with
  | .ok (.present _ .directory) => true
  | _ => false

/-- Whether a path leads to anything. -/
def leadsSomewhere (d : Disk) (p : FilePath) : Bool :=
  match d.find p true with
  | .ok (.present _ _) => true
  | _ => false

/-- The place that a path leads to, if anything is there. -/
def canonical? (d : Disk) (p : FilePath) : Option Location :=
  match d.find p true with
  | .ok (.present place _) => some place
  | _ => none

/-- Whether two paths name the same file: in the same way, or by leading to the same place. -/
def sameFile (d : Disk) (p q : FilePath) : Bool :=
  p.same q ||
    match d.canonical? p, d.canonical? q with
    | some a, some b => a == b
    | _, _ => false

/-- The bytes of a file. -/
def readBytes (d : Disk) (p : FilePath) : Except Error ByteArray :=
  match d.find p true with
  | .error e => .error e
  | .ok (.present _ (.file content _)) => .ok content
  | .ok (.present _ _) => .error .isDirectory
  | .ok (.absent _ _ _) => .error .notFound

/-- The text of a file. -/
def readText (d : Disk) (p : FilePath) : Except Error String :=
  match d.readBytes p with
  | .error e => .error e
  | .ok content =>
    match String.fromUTF8? content with
    | some text => .ok text
    | none => .error .notText

/-- The disk with these bytes as the content of a file. -/
def writeFile (d : Disk) (p : FilePath) (content : ByteArray) : Except Error Disk :=
  match d.find p true with
  | .error e => .error e
  | .ok (.present place (.file _ runnable)) => .ok (d.set place (.file content runnable))
  | .ok (.present _ _) => .error .isDirectory
  | .ok (.absent parent name asDirectory) =>
    if asDirectory then .error .isDirectory
    else .ok (d.set (parent ++ [name]) (.file content false))

/-- The disk with one file's content copied to another. -/
def copyFile (d : Disk) (source target : FilePath) : Except Error Disk :=
  match d.find source true with
  | .error e => .error e
  | .ok (.present _ (.file content _)) => d.writeFile target content
  | .ok (.present _ _) => .error .notRegular
  | .ok (.absent _ _ _) => .error .notFound

/-- The disk with a new directory. -/
def makeDirectory (d : Disk) (p : FilePath) : Except Error Disk :=
  match d.find p false with
  | .error e => .error e
  | .ok (.present _ _) => .error .alreadyThere
  | .ok (.absent parent name _) => .ok (d.set (parent ++ [name]) .directory)

/-- What an operation of several steps comes to, and the disk that it leaves. -/
abbrev Attempt := Except Error Unit × Disk

/-- The disk that an operation leaves if it succeeds. -/
def Attempt.complete : Attempt → Except Error Disk
  | (.ok (), d) => .ok d
  | (.error e, _) => .error e

theorem Attempt.complete_ok {attempt : Attempt} {d : Disk} (h : attempt.complete = .ok d) :
    attempt = (.ok (), d) := by
  obtain ⟨result, left⟩ := attempt
  cases result with
  | ok _ =>
    cases h
    rfl
  | error e => cases h

/-- What making a directory comes to when the directory may be there already. -/
def orIsDirectory (d : Disk) (p : FilePath) : Except Error Disk → Attempt
  | .ok made => (.ok (), made)
  | .error e => if d.isDirectory p then (.ok (), d) else (.error e, d)

/-- Makes a directory and those above it, on a budget of levels. -/
def attemptDirectoriesFrom : Nat → Disk → FilePath → Attempt
  | 0, d, _ => (.error .notFound, d)
  | budget + 1, d, p =>
    if p.text.isEmpty then (.ok (), d)
    else
      match d.makeDirectory p with
      | .ok made => (.ok (), made)
      | .error .notFound =>
        match p.parent? with
        | none => (.error .notFound, d)
        | some parent =>
          match attemptDirectoriesFrom budget d parent with
          -- The directories above that could be made are there, whatever comes next.
          | (.error e, left) => (.error e, left)
          | (.ok (), made) => made.orIsDirectory p (made.makeDirectory p)
      | .error e => d.orIsDirectory p (.error e)

/-- Makes a directory and those above it that are missing. -/
def attemptDirectories (d : Disk) (p : FilePath) : Attempt :=
  attemptDirectoriesFrom (p.components.length + 1) d p

/-- Makes the directory that a file should be written to. -/
def attemptParent (d : Disk) (p : FilePath) : Attempt :=
  match p.parent? with
  | some parent => if parent.text.isEmpty then (.ok (), d) else d.attemptDirectories parent
  | none => (.ok (), d)

/-- The disk with a directory and those above it that were missing. -/
def makeDirectories (d : Disk) (p : FilePath) : Except Error Disk :=
  (d.attemptDirectories p).complete

/-- The disk with the directory that a file should be written to. -/
def makeParent (d : Disk) (p : FilePath) : Except Error Disk := (d.attemptParent p).complete

/-- The disk without what a path leads to and all that is below; a symbolic link goes, not what it
points to. -/
def remove (d : Disk) (p : FilePath) : Except Error Disk :=
  match d.find p false with
  | .error e => .error e
  | .ok (.present place _) => .ok (d.eraseTree place)
  | .ok (.absent _ _ _) => .error .notFound

/-- The names in a directory. -/
def namesIn (d : Disk) (place : Location) : List String :=
  d.entries.filterMap fun (other, _) =>
    if other.dropLast = place then other.getLast? else none

/-- A number with at least six digits. -/
def sixDigits (n : Nat) : String :=
  let digits := Nat.toDigits 10 n
  String.ofList (List.replicate (6 - digits.length) '0' ++ digits)

/-- Whether something has the path for its name; a symbolic link is not followed. -/
def isTaken (d : Disk) (p : FilePath) : Bool :=
  match d.find p false with
  | .ok (.present _ _) => true
  | _ => false

/-- The path of a scratch file with a numbered name. -/
def scratchPath (d : Disk) (stem suffix : String) (n : Nat) : FilePath :=
  d.scratch.child (stem ++ sixDigits n ++ suffix)

/-- A path in the scratch directory that nothing has: the first of the numbered names. There are
more of these than there are entries on the disk. -/
def freshScratch (d : Disk) (stem suffix : String) : FilePath :=
  let paths := (List.range (d.entries.length + 1)).map (d.scratchPath stem suffix)
  (paths.find? fun p => !d.isTaken p).getD (d.scratchPath stem suffix 0)

/-- The number of entries of the scratch directory. -/
def scratchCount (d : Disk) : Nat :=
  match d.canonical? d.scratch with
  | some place => (d.namesIn place).length
  | none => 0

end Expansion.Disk
