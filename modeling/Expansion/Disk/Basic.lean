import Expansion.Disk.FilePath

/-!
# The file system

A disk maps locations to directories, files and symbolic links. A location is the list of names from
the top of the file system, so two locations are equal exactly when they are the same place; a path
is only a way to a location, which depends on the disk (`Disk.find`).

* **One view.** `Disk.get?` is what is at a location. `set` and `eraseTree` are described by what
  they do to it (`get?_set`, `get?_eraseTree`), and nothing else about the list of entries matters.
* **`find` follows symbolic links**, at most `linkLimit` of them, as part of walking a path. It
  recurses on the number of links left and then on the names left, so it can be evaluated.
-/

namespace Expansion

/-- The names that lead from the top of the file system to a place. -/
abbrev Location := List String

/-- What may be at a location. -/
inductive Disk.Entry where
  | directory
  | file (content : ByteArray) (runnable : Bool)
  /-- A symbolic link with the text that it points to. -/
  | link (target : String)

/-- Why an operation on files fails. -/
inductive Disk.Error where
  | notFound
  | denied
  | alreadyThere
  | notDirectory
  | isDirectory
  | nameTooLong
  | tooManyLinks
  | notProgram
  | nullInPath
  | nullInArgument
  | notText
  | notRegular
  | noFreeName
  deriving DecidableEq, Repr

/-- The error in words, with the number that the operating system gives it. -/
def Disk.Error.message : Disk.Error → String
  | .notFound => "No such file or directory (os error 2)"
  | .denied => "Permission denied (os error 13)"
  | .alreadyThere => "File exists (os error 17)"
  | .notDirectory => "Not a directory (os error 20)"
  | .isDirectory => "Is a directory (os error 21)"
  | .nameTooLong => "File name too long (os error 36)"
  | .tooManyLinks => "Too many levels of symbolic links (os error 40)"
  | .notProgram => "Exec format error (os error 8)"
  | .nullInPath => "file name contained an unexpected NUL byte"
  | .nullInArgument => "nul byte found in provided data"
  | .notText => "stream did not contain valid UTF-8"
  | .notRegular => "the source path is neither a regular file nor a symlink to a regular file"
  | .noFreeName => "too many temporary files exist"

/-- A file system, the directory that relative paths start from, and the directory in which scratch
files are made. -/
structure Disk where
  entries : List (Location × Disk.Entry)
  home : Location
  scratch : FilePath

namespace Disk

/-- What is at a location. The top of the file system is always a directory. -/
def get? (d : Disk) (place : Location) : Option Entry :=
  if place = [] then some .directory else d.entries.lookup place

/-- Entries with one of them replaced, or added at the end. -/
def setEntry (place : Location) (entry : Entry) : List (Location × Entry) → List (Location × Entry)
  | [] => [(place, entry)]
  | (other, old) :: rest =>
    if other = place then (place, entry) :: rest else (other, old) :: setEntry place entry rest

/-- The disk with something put at a location. -/
def set (d : Disk) (place : Location) (entry : Entry) : Disk :=
  { d with entries := setEntry place entry d.entries }

/-- The disk without a location and everything below it. -/
def eraseTree (d : Disk) (place : Location) : Disk :=
  { d with entries := d.entries.filter fun (other, _) => !place.isPrefixOf other }

theorem lookup_setEntry (place other : Location) (entry : Entry)
    (entries : List (Location × Entry)) :
    (setEntry place entry entries).lookup other =
      if other = place then some entry else entries.lookup other := by
  induction entries with
  | nil =>
    by_cases h : other = place
    · simp [setEntry, h]
    · simp [setEntry, List.lookup_cons, h, beq_eq_false_iff_ne.mpr h]
  | cons head rest ih =>
    obtain ⟨name, old⟩ := head
    by_cases same : name = place
    · subst same
      by_cases h : other = name
      · simp [setEntry, h]
      · have differs : (other == name) = false := beq_eq_false_iff_ne.mpr h
        simp [setEntry, List.lookup_cons, h, differs]
    · by_cases h : other = name
      · subst h
        simp [setEntry, same]
      · have differs : (other == name) = false := beq_eq_false_iff_ne.mpr h
        simp [setEntry, same, List.lookup_cons, differs, ih]

/-- Putting something at a location changes what is there and nothing else. -/
theorem get?_set (d : Disk) (place other : Location) (entry : Entry) (below : place ≠ []) :
    (d.set place entry).get? other = if other = place then some entry else d.get? other := by
  unfold get? set
  by_cases top : other = []
  · subst top
    simp [Ne.symm below]
  · simp [top, lookup_setEntry]

theorem lookup_filter_key {p : Location → Bool} (other : Location)
    (entries : List (Location × Entry)) :
    (entries.filter fun (name, _) => p name).lookup other =
      if p other then entries.lookup other else none := by
  induction entries with
  | nil => simp
  | cons head rest ih =>
    obtain ⟨name, old⟩ := head
    simp only [List.filter_cons]
    by_cases h : other = name
    · subst h
      cases kept : p other <;> simp [ih, kept]
    · have differs : (other == name) = false := beq_eq_false_iff_ne.mpr h
      cases kept : p name <;> simp [List.lookup_cons, differs, ih]

/-- Erasing a tree removes what is at its root or below and nothing else. -/
theorem get?_eraseTree (d : Disk) (place other : Location) (below : other ≠ []) :
    (d.eraseTree place).get? other =
      if place.isPrefixOf other then none else d.get? other := by
  unfold get? eraseTree
  simp only [below, if_false]
  rw [lookup_filter_key (p := fun name => !place.isPrefixOf name)]
  by_cases h : place.isPrefixOf other <;> simp [h]

/-! ## Walking a path -/

/-- Where a path leads. -/
inductive Found where
  /-- To something that is there. -/
  | present (place : Location) (entry : Entry)
  /-- To a name that a directory does not have; a slash behind the name asks for a directory. -/
  | absent (parent : Location) (name : String) (asDirectory : Bool)

/-- The number of symbolic links that one path may lead through. -/
def linkLimit : Nat := 40

/-- The number of bytes of a name. -/
def nameLimit : Nat := 255

/-- The number of bytes of a path. -/
def pathLimit : Nat := 4095

/-- The pieces of a path between its slashes. -/
def piecesOf (text : String) : List String := Text.splitOn '/' text

/-- Whether the entry is a directory. -/
def Entry.isDirectory : Entry → Bool
  | .directory => true
  | _ => false

/-- Walks the pieces of a path from a location. A symbolic link stands for its target, which is seen
from the link's own directory, and `jump` goes on from there; the last piece, if it names a link, is
followed only if `follow` asks for it. -/
def walkPieces (d : Disk) (follow : Bool) (jump : Location → List String → Except Error Found) :
    Location → List String → Except Error Found
  | place, [] =>
    match d.get? place with
    | none => .error .notFound
    | some here => .ok (.present place here)
  | place, piece :: rest =>
    match d.get? place with
    | none => .error .notFound
    | some here =>
      if !here.isDirectory then .error .notDirectory
      else if piece = "" ∨ piece = "." then walkPieces d follow jump place rest
      else if piece = ".." then walkPieces d follow jump place.dropLast rest
      else if nameLimit < piece.utf8ByteSize then .error .nameTooLong
      else
        let next := place ++ [piece]
        match d.get? next with
        | none =>
          -- Only the last name of a path may be one that is not there yet.
          if rest.all (· == "") then .ok (.absent place piece !rest.isEmpty)
          else .error .notFound
        | some (.link target) =>
          if rest.isEmpty && !follow then .ok (.present next (.link target))
          else
            let start := if (FilePath.mk target).isAbsolute then [] else place
            jump start (piecesOf target ++ rest)
        | some _ => walkPieces d follow jump next rest

/-- Walks the pieces of a path from a location, through at most so many symbolic links. -/
def walk (d : Disk) (follow : Bool) : Nat → Location → List String → Except Error Found
  | 0 => walkPieces d follow fun _ _ => .error .tooManyLinks
  | links + 1 => walkPieces d follow (walk d follow links)

theorem walk_zero (d : Disk) (follow : Bool) :
    d.walk follow 0 = d.walkPieces follow fun _ _ => .error .tooManyLinks := rfl

theorem walk_succ (d : Disk) (follow : Bool) (links : Nat) :
    d.walk follow (links + 1) = d.walkPieces follow (d.walk follow links) := rfl

-- Proofs go by these two and by where a path leads; a walk that unfolds would open all its links.
attribute [irreducible] walk

/-- Where a path leads. -/
def find (d : Disk) (p : FilePath) (follow : Bool) : Except Error Found :=
  if p.text.isEmpty then .error .notFound
  else if Text.hasChar '\x00' p.text then .error .nullInPath
  else if pathLimit < p.text.utf8ByteSize then .error .nameTooLong
  else walk d follow linkLimit (if p.isAbsolute then [] else d.home) (piecesOf p.text)

end Disk

end Expansion
