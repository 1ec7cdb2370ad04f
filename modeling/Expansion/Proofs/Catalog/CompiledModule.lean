import Expansion.Catalog.CompiledModule

/-!
# Modules out of pieces

A draft keeps functions and entry points in two lists, and the module takes the items that stand in
one place together. Every piece that makes one list longer makes the other longer, so no place has an
item of one list only.

* **`Draft.foldl_add`** says what a draft has after any pieces: the types, functions and entry points
  of those that bring some, in their order, and the image and location of the last that bring one.
* `functions_ofPieces`: the functions of the module are those of the pieces, each with its own entry
  point.
* **`visits_ofPieces`**: so a walk meets what the pieces declare and nothing else, and pieces that
  declare nothing do not matter to it.
* A module that is put together from a catalog has the catalog's types and functions in the catalog's
  order (`ofCatalog_eq`).
-/

namespace Expansion.CompiledModule

variable {σ : Type}

namespace Piece

/-- The type that a piece declares. -/
def type? : Piece σ → Option TypeInfo
  | .type info => some info
  | _ => none

/-- The function that a piece declares, with its entry point. -/
def function? : Piece σ → Option (FunctionInfo × Entry σ)
  | .function info entry => some (info, entry)
  | _ => none

/-- The image that a piece brings. -/
def image? : Piece σ → Option ByteArray
  | .image bytes => some bytes
  | _ => none

/-- The location that a piece brings. -/
def location? : Piece σ → Option FilePath
  | .location path => some path
  | _ => none

/-- Whether a piece declares a type or a function. -/
def declares : Piece σ → Bool
  | .type _ => true
  | .function _ _ => true
  | _ => false

end Piece

/-- The types of some pieces, in their order. -/
def typesOf (pieces : List (Piece σ)) : List TypeInfo := pieces.filterMap Piece.type?

/-- The functions of some pieces with their entry points, in their order. -/
def functionsOf (pieces : List (Piece σ)) : List (FunctionInfo × Entry σ) :=
  pieces.filterMap Piece.function?

/-! ## Drafts -/

namespace Draft

/-- What a draft has after some pieces. -/
theorem foldl_add (d : Draft σ) (pieces : List (Piece σ)) :
    pieces.foldl add d =
      { name := d.name
        types := d.types ++ typesOf pieces
        functions := d.functions ++ (functionsOf pieces).map Prod.fst
        entries := d.entries ++ (functionsOf pieces).map Prod.snd
        image := (pieces.filterMap Piece.image?).getLast?.getD d.image
        location := (pieces.filterMap Piece.location?).getLast?.or d.location } := by
  induction pieces generalizing d with
  | nil => simp [typesOf, functionsOf]
  | cons piece rest ih =>
      rw [List.foldl_cons, ih]
      unfold typesOf functionsOf
      cases piece with
      | image bytes =>
          simp [add, List.filterMap_cons, Piece.type?, Piece.function?, Piece.image?,
            Piece.location?, List.getLast?_cons]
      | location path =>
          simp [add, List.filterMap_cons, Piece.type?, Piece.function?, Piece.image?,
            Piece.location?, List.getLast?_cons]
      | type info =>
          simp [add, List.filterMap_cons, Piece.type?, Piece.function?, Piece.image?,
            Piece.location?]
      | function info entry =>
          simp [add, List.filterMap_cons, Piece.type?, Piece.function?, Piece.image?,
            Piece.location?]

/-- The draft of some pieces has as many entry points as functions: the two lists are the halves of
one. -/
theorem halves_ofPieces (name : String) (pieces : List (Piece σ)) :
    (ofPieces name pieces).functions = (functionsOf pieces).map Prod.fst ∧
      (ofPieces name pieces).entries = (functionsOf pieces).map Prod.snd := by
  unfold ofPieces
  rw [foldl_add]
  exact ⟨rfl, rfl⟩

end Draft

/-! ## Modules -/

/-- The module of some pieces, written out. -/
theorem ofPieces_eq (name : String) (pieces : List (Piece σ)) :
    ofPieces name pieces =
      { name
        types := typesOf pieces
        functions := functionsOf pieces
        image := (pieces.filterMap Piece.image?).getLast?.getD ByteArray.empty
        location := (pieces.filterMap Piece.location?).getLast? } := by
  -- The halves of a list, put together place by place, are the list again.
  have hzip : ((functionsOf pieces).map Prod.fst).zip ((functionsOf pieces).map Prod.snd) =
      functionsOf pieces := by
    rw [List.zip_map', List.map_id']
  unfold ofPieces Draft.ofPieces Draft.complete
  rw [Draft.foldl_add]
  simp only [Draft.empty, List.nil_append, Option.or_none, hzip]

/-- Pieces that declare nothing bring no types and no functions. -/
theorem typesOf_filter (pieces : List (Piece σ)) :
    typesOf (pieces.filter Piece.declares) = typesOf pieces := by
  unfold typesOf
  rw [List.filterMap_filter]
  congr 1
  funext piece
  cases piece <;> rfl

theorem functionsOf_filter (pieces : List (Piece σ)) :
    functionsOf (pieces.filter Piece.declares) = functionsOf pieces := by
  unfold functionsOf
  rw [List.filterMap_filter]
  congr 1
  funext piece
  cases piece <;> rfl

/-- **A walk meets what was added, and every function with its own entry point.** Whatever pieces
come in whatever order, the draft has as many entry points as functions, and the module too. The
module's functions and entry points, put together place by place, are what a walk meets behind the
types: all types of the pieces and then all their functions, in the order of the pieces, and each
function with the entry point that came with it. Images and locations do not matter to this, wherever
they come. -/
theorem visits_ofPieces (name : String) (pieces : List (Piece σ)) :
    let draft := Draft.ofPieces name pieces
    let m := ofPieces name pieces
    draft.entries.length = draft.functions.length ∧
      m.entries.length = m.catalog.functions.length ∧
      m.visits = m.catalog.types.map .type ++ List.zipWith .function m.catalog.functions m.entries ∧
      m.visits = (typesOf pieces).map .type ++
        (functionsOf pieces).map (fun (info, entry) => .function info entry) ∧
      m.visits = (ofPieces name (pieces.filter Piece.declares)).visits := by
  intro draft m
  obtain ⟨hfunctions, hentries⟩ := Draft.halves_ofPieces name pieces
  have hvisits : m.visits = (typesOf pieces).map .type ++
      (functionsOf pieces).map (fun (info, entry) => .function info entry) := by
    show (ofPieces name pieces).visits = _
    rw [ofPieces_eq]
    rfl
  refine ⟨?_, ?_, ?_, hvisits, ?_⟩
  · show (Draft.ofPieces name pieces).entries.length = (Draft.ofPieces name pieces).functions.length
    rw [hfunctions, hentries, List.length_map, List.length_map]
  · show (m.functions.map Prod.snd).length = (m.functions.map Prod.fst).length
    rw [List.length_map, List.length_map]
  · show _ = m.types.map Visit.type ++
      List.zipWith Visit.function (m.functions.map Prod.fst) (m.functions.map Prod.snd)
    rw [List.zipWith_map, List.zipWith_self]
    rfl
  · rw [hvisits, ofPieces_eq, visits, typesOf_filter, functionsOf_filter]

/-- The module of a catalog, written out. -/
theorem ofCatalog_eq (name : String) (catalog : Catalog) (image : ByteArray)
    (entry : FunctionInfo → Entry σ) :
    ofCatalog name catalog image entry =
      { name, types := catalog.types, functions := catalog.functions.map fun f => (f, entry f),
        image, location := none } := by
  have hnone : ∀ {α β : Type} (l : List α), l.filterMap (fun _ => (none : Option β)) = [] :=
    fun l => List.filterMap_eq_nil_iff.mpr fun _ _ => rfl
  unfold ofCatalog
  rw [ofPieces_eq]
  simp [typesOf, functionsOf, List.filterMap_cons, List.filterMap_append, List.filterMap_map,
    Function.comp_def, Piece.type?, Piece.function?, Piece.image?, Piece.location?, hnone]

end Expansion.CompiledModule
