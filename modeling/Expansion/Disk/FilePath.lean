import Expansion.Text.Split

/-!
# Paths

A path is the text that names a file. Two texts may name a file in the same way: repeated slashes,
a `.` inside the path and a slash at its end do not count.

* **`same`** compares paths by their `components`, and it is the equality of this library wherever
  two paths are compared; the text is what is printed and hashed.
* `parent?`, `fileName?`, `stem?` and `extension?` go by components too, so `a.src/` and `a.src/.`
  have the extension of `a.src`, while `a.src/..` has none.
* **A name's extension is what follows its last dot**, unless that dot is its first character.
-/

namespace Expansion

/-- A path, as it was written. -/
structure FilePath where
  text : String
  deriving DecidableEq, Repr, Inhabited

namespace FilePath

/-- A step of a path. -/
inductive Component where
  /-- The top of the file system. -/
  | root
  /-- A dot in front of the path. -/
  | here
  /-- One level up. -/
  | up
  | name (text : List Char)
  deriving DecidableEq, Repr

/-- The component of a piece between slashes that is not the first one. -/
def componentOf? (piece : List Char) : Option Component :=
  if piece = [] ∨ piece = ['.'] then none
  else if piece = ['.', '.'] then some .up
  else some (.name piece)

/-- Whether the path begins at the top of the file system. -/
def isAbsolute (p : FilePath) : Bool := p.text.toList.head? == some '/'

/-- The steps of a path. -/
def components (p : FilePath) : List Component :=
  match Text.splitChars '/' p.text.toList with
  | [] => []
  | first :: pieces =>
    let start : Option Component :=
      if p.isAbsolute then some .root
      else if first = ['.'] then some .here
      else componentOf? first
    start.toList ++ pieces.filterMap componentOf?

/-- Whether two paths name a file in the same way. -/
def same (p q : FilePath) : Bool := p.components == q.components

/-- Whether the pieces say nothing. -/
def isIdle (piece : List Char) : Bool := (componentOf? piece).isNone

/-- The pieces up to the last one that says something. -/
def withoutIdleEnd (pieces : List (List Char)) : List (List Char) :=
  (pieces.reverse.dropWhile isIdle).reverse

/-- Pieces with slashes between them. -/
def joinPieces : List (List Char) → List Char
  | [] => []
  | [piece] => piece
  | piece :: next :: rest => piece ++ '/' :: joinPieces (next :: rest)

/-- The part of a path that stands for itself, the slash or dot in front, and the rest. -/
def splitStart (p : FilePath) : List Char × List Char :=
  let cs := p.text.toList
  if p.isAbsolute then (['/'], cs.drop 1)
  else if (Text.splitChars '/' cs).head? == some ['.'] then (['.'], cs.drop 1)
  else ([], cs)

/-- The path without its last step; the top and the empty path have none. -/
def parent? (p : FilePath) : Option FilePath :=
  let (start, body) := p.splitStart
  match withoutIdleEnd (Text.splitChars '/' body) with
  | [] => if start = ['.'] then some ⟨""⟩ else none
  | piece :: pieces =>
    let above := withoutIdleEnd ((piece :: pieces).dropLast)
    some ⟨String.ofList (start ++ joinPieces above)⟩

/-- The name at the end of a path. -/
def fileName? (p : FilePath) : Option (List Char) :=
  match p.components.getLast? with
  | some (.name text) => some text
  | _ => none

/-- What stands before and after the last dot of a name. -/
def splitLastDot : List Char → Option (List Char × List Char)
  | [] => none
  | c :: rest =>
    match splitLastDot rest with
    | some (stem, extension) => some (c :: stem, extension)
    | none => if c = '.' then some ([], rest) else none

/-- A name's stem and extension. -/
def splitName (name : List Char) : List Char × Option (List Char) :=
  match splitLastDot name with
  | some (c :: stem, extension) => (c :: stem, some extension)
  | _ => (name, none)

/-- The name at the end of a path without its extension. -/
def stem? (p : FilePath) : Option String :=
  p.fileName?.map fun name => String.ofList (splitName name).1

/-- The extension of the name at the end of a path. -/
def extension? (p : FilePath) : Option String :=
  p.fileName?.bind fun name => (splitName name).2.map String.ofList

/-- The path of `q` as seen from the directory `p`. -/
def join (p q : FilePath) : FilePath :=
  if q.isAbsolute then q
  else
    match p.text.toList.getLast? with
    | none => q
    | some '/' => ⟨p.text ++ q.text⟩
    | some _ => ⟨p.text ++ "/" ++ q.text⟩

/-- A file of the directory `p`. -/
def child (p : FilePath) (name : String) : FilePath := p.join ⟨name⟩

theorem same_refl (p : FilePath) : p.same p = true := by simp [same]

theorem same_trans {p q r : FilePath} (first : p.same q = true) (second : q.same r = true) :
    p.same r = true := by
  simp only [same, beq_iff_eq] at *
  exact first.trans second

end FilePath

end Expansion
