import Expansion.Catalog.Basic
import Expansion.Disk.FilePath

/-!
# Compiled modules

A compiled module is what a compiler makes of sources: a catalog, an entry point for each function,
and an image, the bytes that were compiled.

* **A function and its entry point are one item of the module**, so no function can be without one
  or have another's. `catalog` and `entries` are two views of those items.
* An entry point may change a state `σ` when it is called: a call may run a program.
* A module is put together piece by piece (`Piece`, `ofPieces`) in a draft; a later image or location
  replaces an earlier one, and types, functions and entry points queue up in the order in which they
  come.
-/

namespace Expansion

/-- What a function does when it is called with some values. -/
abbrev Entry (σ : Type) := List Value → StateM σ (Except Fault Value)

/-- A compiled module whose functions act on a state. -/
structure CompiledModule (σ : Type) where
  name : String
  types : List TypeInfo
  functions : List (FunctionInfo × Entry σ)
  image : ByteArray
  location : Option FilePath

namespace CompiledModule

variable {σ : Type}

/-- What the module declares. -/
def catalog (m : CompiledModule σ) : Catalog := ⟨m.types, m.functions.map Prod.fst⟩

/-- The entry points, in the order of the catalog's functions. -/
def entries (m : CompiledModule σ) : List (Entry σ) := m.functions.map Prod.snd

/-- What is met on a walk through a module. -/
inductive Visit (σ : Type) where
  | type (info : TypeInfo)
  | function (info : FunctionInfo) (entry : Entry σ)

/-- A walk through a module: every type, then every function with its entry point. -/
def visits (m : CompiledModule σ) : List (Visit σ) :=
  m.types.map .type ++ m.functions.map fun (info, entry) => .function info entry

/-- The module that declares nothing. -/
def empty (name : String) : CompiledModule σ where
  name := name
  types := []
  functions := []
  image := ByteArray.empty
  location := none

/-- A piece that is added to a module. -/
inductive Piece (σ : Type) where
  | image (bytes : ByteArray)
  | location (path : FilePath)
  | type (info : TypeInfo)
  | function (info : FunctionInfo) (entry : Entry σ)

/-- A module in the making: functions and their entry points queue up in two lists, side by side. -/
structure Draft (σ : Type) where
  name : String
  types : List TypeInfo
  functions : List FunctionInfo
  entries : List (Entry σ)
  image : ByteArray
  location : Option FilePath

namespace Draft

/-- The draft of a module that declares nothing. -/
def empty (name : String) : Draft σ where
  name := name
  types := []
  functions := []
  entries := []
  image := ByteArray.empty
  location := none

/-- The draft with one more piece. -/
def add (d : Draft σ) : Piece σ → Draft σ
  | .image bytes => { d with image := bytes }
  | .location path => { d with location := some path }
  | .type info => { d with types := d.types ++ [info] }
  | .function info entry =>
    { d with functions := d.functions ++ [info], entries := d.entries ++ [entry] }

/-- The draft of some pieces. -/
def ofPieces (name : String) (pieces : List (Piece σ)) : Draft σ := pieces.foldl add (empty name)

/-- The module of a draft: every function with the entry point that stands in its place. -/
def complete (d : Draft σ) : CompiledModule σ where
  name := d.name
  types := d.types
  functions := d.functions.zip d.entries
  image := d.image
  location := d.location

end Draft

/-- The module of some pieces. -/
def ofPieces (name : String) (pieces : List (Piece σ)) : CompiledModule σ :=
  (Draft.ofPieces name pieces).complete

/-- The module of a catalog and an image, with the entry point that `entry` gives each function. -/
def ofCatalog (name : String) (catalog : Catalog) (image : ByteArray)
    (entry : FunctionInfo → Entry σ) : CompiledModule σ :=
  ofPieces name
    (.image image :: (catalog.types.map .type
      ++ catalog.functions.map fun info => .function info (entry info)))

/-- The module at a location. -/
def locatedAt (m : CompiledModule σ) (location : FilePath) : CompiledModule σ :=
  { m with location := some location }

/-- The description of a module by its name and sizes. -/
def describe (m : CompiledModule σ) : String :=
  describeFields "Module"
    [("name", Text.quoted m.name), ("types", toString m.types.length),
      ("functions", toString m.functions.length), ("image_len", toString m.image.size),
      ("location", match m.location with
        | some path => "Some(" ++ Text.quoted path.text ++ ")"
        | none => "None")]

end CompiledModule

end Expansion
