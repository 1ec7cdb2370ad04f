import Expansion.Catalog.Wire
import Expansion.Proofs.Json.Records

/-!
# The wire format loses nothing

* For every type that travels, `slots` are the members that one of its values is told by, and
  `ToldBy` are the objects that tell it: what `encode` writes (`toldBy_encode`), with the members in
  any order, without some that hold their default, and with texts under other names, at every level.
* **Whatever tells a value is read as that value** (`decode_of_toldBy`), and it is not too deep for a
  text (`fits_of_toldBy`).
* **`Report.read_of_toldBy`** puts this together for the texts of reports.
-/

namespace Expansion

open Json

/-! ## Lists -/

section

variable {α : Type} {encode : α → Json} {decode : Decoder α} {room : Nat}

theorem isList_encodeList {tells : α → Json → Prop} (h : ∀ a, tells a (encode a))
    (values : List α) : IsList tells values (encodeList encode values) := by
  refine ⟨values.map encode, rfl, ?_⟩
  rw [List.forall₂_map_right_iff, List.forall₂_same]
  exact fun a _ => h a

theorem decode_encodeList (h : ∀ a, decode (encode a) = .ok a) (values : List α) :
    asList decode (encodeList encode values) = .ok values := by
  have hlist : IsList (fun a j => decode j = .ok a) values (encodeList encode values) :=
    isList_encodeList h values
  exact hlist.decoded fun _ _ hread => hread

theorem fits_encodeList (h : ∀ a, Fits room (encode a)) (values : List α) :
    Fits (room + 1) (encodeList encode values) := by
  have hlist : IsList (fun _ j => Fits room j) values (encodeList encode values) :=
    isList_encodeList h values
  exact hlist.fits fun _ _ hfits => hfits

/-- What is written in one way only is read from there. -/
theorem decode_of_eq {a : α} {written : Json} (h : decode written = .ok a) :
    ∀ value, value = written → decode value = .ok a := by
  rintro value rfl
  exact h

theorem fits_of_eq {written : Json} (h : Fits room written) :
    ∀ value, value = written → Fits room value := by
  rintro value rfl
  exact h

end

theorem serves_text (name text : String) :
    Serves (.required name asText) (.always name (· = .string text)) :=
  serves_required (decode_of_eq (a := text) rfl)

theorem serves_name (name : String) :
    List.Forall₂ Serves nameFields [.always "name" (· = .string name)] :=
  .cons (serves_text "name" name) .nil

/-! ## Types in signatures -/

/-- The members that tell a type in a signature. -/
def TypeRef.slots : TypeRef → List Slot
  | .typeDescriptor => [.tag "type_descriptor"]
  | .string => [.tag "string"]
  | .unit => [.tag "unit"]
  | .named name => [.tag "named", .always "name" (· = .string name)]

/-- The objects that tell a type in a signature. -/
def TypeRef.ToldBy (t : TypeRef) (j : Json) : Prop := IsObject t.slots j

namespace TypeRef

theorem toldBy_encode (t : TypeRef) : t.ToldBy t.encode := by
  cases t with
  | typeDescriptor => exact ⟨_, rfl, (Kept.give rfl .nil).gives⟩
  | string => exact ⟨_, rfl, (Kept.give rfl .nil).gives⟩
  | unit => exact ⟨_, rfl, (Kept.give rfl .nil).gives⟩
  | named name => exact ⟨_, rfl, (Kept.give rfl (.give rfl .nil)).gives⟩

theorem fits_of_toldBy {room : Nat} (t : TypeRef) (j : Json) (h : t.ToldBy j) :
    Fits (room + 1) j := by
  obtain ⟨members, rfl, hgives⟩ := h
  cases t with
  | named name =>
      exact hgives.fits (.cons (serves_tag _) (serves_name name)) (by decide)
        ⟨fits_of_eq trivial, fits_of_eq trivial, trivial⟩
  | _ => exact hgives.fits (.cons (serves_tag _) .nil) (by decide) ⟨fits_of_eq trivial, trivial⟩

theorem decode_of_toldBy (t : TypeRef) (j : Json) (h : t.ToldBy j) :
    TypeRef.decode j = .ok t := by
  have hfits : Fits 1 j := fits_of_toldBy _ _ h
  obtain ⟨members, rfl, hgives⟩ := h
  unfold decode
  cases t with
  | typeDescriptor =>
      obtain ⟨content, htagged, -⟩ := asTagged_of_gives hgives .nil (by decide) hfits
      rw [htagged _ (by decide)]
      rfl
  | string =>
      obtain ⟨content, htagged, -⟩ := asTagged_of_gives hgives .nil (by decide) hfits
      rw [htagged _ (by decide)]
      rfl
  | unit =>
      obtain ⟨content, htagged, -⟩ := asTagged_of_gives hgives .nil (by decide) hfits
      rw [htagged _ (by decide)]
      rfl
  | named name =>
      have hserves := serves_name name
      obtain ⟨content, htagged, hcontent⟩ := asTagged_of_gives hgives hserves (by decide) hfits
      have hcheck := hcontent.checkContent hserves (by decide)
      have hname : readField nameFields "name" asText (.object content) = .ok name :=
        hcontent.readField hserves (by decide) (.head _) (decode_of_eq rfl)
      rw [htagged _ (by decide)]
      simp only [bind, Except.bind]
      rw [if_pos (by decide), hcheck]
      simp only [hname]

end TypeRef

/-! ## Attributes -/

/-- The members that tell a template request. -/
def TemplateRequest.slots (r : TemplateRequest) : List Slot :=
  [.always "name" (· = .string r.name),
    .unless (r.explicit = false) "explicit" (· = .bool r.explicit)]

/-- The objects that tell a template request. -/
def TemplateRequest.ToldBy (r : TemplateRequest) (j : Json) : Prop := IsObject r.slots j

namespace TemplateRequest

theorem toldBy_encode (r : TemplateRequest) : r.ToldBy r.encode :=
  ⟨_, rfl, (Kept.give rfl (.give rfl .nil)).gives⟩

theorem serves (r : TemplateRequest) : List.Forall₂ Serves fields r.slots :=
  .cons (serves_text "name" r.name)
    (.cons (serves_defaulted (decode_of_eq (a := r.explicit) rfl)) .nil)

theorem fits_of_toldBy {room : Nat} (r : TemplateRequest) (j : Json) (h : r.ToldBy j) :
    Fits (room + 1) j := by
  obtain ⟨members, rfl, hgives⟩ := h
  exact hgives.fits r.serves (by decide) ⟨fits_of_eq trivial, fits_of_eq trivial, trivial⟩

theorem decode_of_toldBy (r : TemplateRequest) (j : Json) (h : r.ToldBy j) :
    TemplateRequest.decode j = .ok r := by
  obtain ⟨members, rfl, hgives⟩ := h
  have hcheck := hgives.checkContent r.serves (by decide)
  have hname : readField fields "name" asText (.object members) = .ok r.name :=
    hgives.readField r.serves (by decide) (.head _) (decode_of_eq rfl)
  have hexplicit : readFieldOr false fields "explicit" asFlag (.object members) =
      .ok r.explicit :=
    hgives.readFieldOr r.serves (by decide) (.tail _ (.head _)) id (decode_of_eq rfl)
  unfold decode
  simp only [hcheck, hname, hexplicit, bind, Except.bind]

end TemplateRequest

/-- The members that tell an attribute. -/
def Attribute.slots : Attribute → List Slot
  | .expandable templates =>
    [.tag "expandable", .always "templates" (IsList TemplateRequest.ToldBy templates)]
  | .expander template explicitUse =>
    [.tag "expander", .always "template" (· = .string template),
      .unless (explicitUse = false) "explicit_use" (· = .bool explicitUse)]
  | .other name => [.tag "other", .always "name" (· = .string name)]

/-- The objects that tell an attribute. -/
def Attribute.ToldBy (a : Attribute) (j : Json) : Prop := IsObject a.slots j

namespace Attribute

theorem toldBy_encode (a : Attribute) : a.ToldBy a.encode := by
  cases a with
  | expandable templates =>
      have hlist := isList_encodeList TemplateRequest.toldBy_encode templates
      exact ⟨_, rfl, (Kept.give rfl (.give hlist .nil)).gives⟩
  | expander template explicitUse =>
      exact ⟨_, rfl, (Kept.give rfl (.give rfl (.give rfl .nil))).gives⟩
  | other name => exact ⟨_, rfl, (Kept.give rfl (.give rfl .nil)).gives⟩

theorem serves_expandable (templates : List TemplateRequest) :
    List.Forall₂ Serves expandableFields
      [.always "templates" (IsList TemplateRequest.ToldBy templates)] :=
  .cons (serves_required fun _ htold => htold.decoded TemplateRequest.decode_of_toldBy) .nil

theorem serves_expander (template : String) (explicitUse : Bool) :
    List.Forall₂ Serves expanderFields
      [.always "template" (· = .string template),
        .unless (explicitUse = false) "explicit_use" (· = .bool explicitUse)] :=
  .cons (serves_text "template" template)
    (.cons (serves_defaulted (decode_of_eq (a := explicitUse) rfl)) .nil)

theorem fits_of_toldBy {room : Nat} (a : Attribute) (j : Json) (h : a.ToldBy j) :
    Fits (room + 3) j := by
  obtain ⟨members, rfl, hgives⟩ := h
  cases a with
  | expandable templates =>
      refine hgives.fits (.cons (serves_tag _) (serves_expandable templates)) (by decide)
        ⟨fits_of_eq trivial, fun _ htold => ?_, trivial⟩
      exact htold.fits TemplateRequest.fits_of_toldBy
  | expander template explicitUse =>
      exact hgives.fits (.cons (serves_tag _) (serves_expander template explicitUse)) (by decide)
        ⟨fits_of_eq trivial, fits_of_eq trivial, fits_of_eq trivial, trivial⟩
  | other name =>
      exact hgives.fits (.cons (serves_tag _) (serves_name name)) (by decide)
        ⟨fits_of_eq trivial, fits_of_eq trivial, trivial⟩

theorem decode_of_toldBy (a : Attribute) (j : Json) (h : a.ToldBy j) :
    Attribute.decode j = .ok a := by
  have hfits : Fits 3 j := fits_of_toldBy _ _ h
  obtain ⟨members, rfl, hgives⟩ := h
  unfold decode
  cases a with
  | expandable templates =>
      have hserves := serves_expandable templates
      obtain ⟨content, htagged, hcontent⟩ := asTagged_of_gives hgives hserves (by decide) hfits
      have hcheck := hcontent.checkContent hserves (by decide)
      have hlist : readField expandableFields "templates" (asList TemplateRequest.decode)
          (.object content) = .ok templates :=
        hcontent.readField hserves (by decide) (.head _) fun _ htold =>
          htold.decoded TemplateRequest.decode_of_toldBy
      rw [htagged _ (by decide)]
      simp only [bind, Except.bind]
      rw [if_pos (by decide), hcheck]
      simp only [hlist]
  | expander template explicitUse =>
      have hserves := serves_expander template explicitUse
      obtain ⟨content, htagged, hcontent⟩ := asTagged_of_gives hgives hserves (by decide) hfits
      have hcheck := hcontent.checkContent hserves (by decide)
      have htemplate : readField expanderFields "template" asText (.object content) =
          .ok template :=
        hcontent.readField hserves (by decide) (.head _) (decode_of_eq rfl)
      have hexplicit : readFieldOr false expanderFields "explicit_use" asFlag (.object content) =
          .ok explicitUse :=
        hcontent.readFieldOr hserves (by decide) (.tail _ (.head _)) id (decode_of_eq rfl)
      rw [htagged _ (by decide)]
      simp only [bind, Except.bind]
      rw [if_neg (by decide), if_pos (by decide), hcheck]
      simp only [htemplate, hexplicit]
  | other name =>
      have hserves := serves_name name
      obtain ⟨content, htagged, hcontent⟩ := asTagged_of_gives hgives hserves (by decide) hfits
      have hcheck := hcontent.checkContent hserves (by decide)
      have hname : readField nameFields "name" asText (.object content) = .ok name :=
        hcontent.readField hserves (by decide) (.head _) (decode_of_eq rfl)
      rw [htagged _ (by decide)]
      simp only [bind, Except.bind]
      rw [if_neg (by decide), if_neg (by decide), hcheck]
      simp only [hname]

end Attribute

/-! ## Types and functions -/

/-- The members that tell a type. -/
def TypeInfo.slots (t : TypeInfo) : List Slot :=
  [.always "full_name" (· = .string t.fullName), .list "attributes" Attribute.ToldBy t.attributes]

/-- The objects that tell a type. -/
def TypeInfo.ToldBy (t : TypeInfo) (j : Json) : Prop := IsObject t.slots j

namespace TypeInfo

theorem toldBy_encode (t : TypeInfo) : t.ToldBy t.encode :=
  ⟨_, rfl, (Kept.give rfl
    (.give (isList_encodeList Attribute.toldBy_encode t.attributes) .nil)).gives⟩

theorem serves (t : TypeInfo) : List.Forall₂ Serves fields t.slots :=
  .cons (serves_text "full_name" t.fullName)
    (.cons (serves_list Attribute.decode_of_toldBy "attributes" t.attributes) .nil)

theorem fits_of_toldBy {room : Nat} (t : TypeInfo) (j : Json) (h : t.ToldBy j) :
    Fits (room + 5) j := by
  obtain ⟨members, rfl, hgives⟩ := h
  refine hgives.fits t.serves (by decide) ⟨fits_of_eq trivial, fun _ htold => ?_, trivial⟩
  exact htold.fits Attribute.fits_of_toldBy

theorem decode_of_toldBy (t : TypeInfo) (j : Json) (h : t.ToldBy j) :
    TypeInfo.decode j = .ok t := by
  obtain ⟨members, rfl, hgives⟩ := h
  have hcheck := hgives.checkRecord t.serves (by decide)
  have hname : readField fields "full_name" asText (.object members) = .ok t.fullName :=
    hgives.readField t.serves (by decide) (.head _) (decode_of_eq rfl)
  have hattributes := hgives.readList t.serves (by decide) Attribute.decode_of_toldBy
    (.tail _ (.head _))
  unfold decode
  simp only [hcheck, hname, hattributes, bind, Except.bind]

end TypeInfo

/-- The members that tell a parameter. -/
def Param.slots (p : Param) : List Slot :=
  [.always "name" (· = .string p.name), .always "ty" p.type.ToldBy]

/-- The objects that tell a parameter. -/
def Param.ToldBy (p : Param) (j : Json) : Prop := IsObject p.slots j

namespace Param

theorem toldBy_encode (p : Param) : p.ToldBy p.encode :=
  ⟨_, rfl, (Kept.give rfl (.give p.type.toldBy_encode .nil)).gives⟩

theorem serves (p : Param) : List.Forall₂ Serves fields p.slots :=
  .cons (serves_text "name" p.name)
    (.cons (serves_required p.type.decode_of_toldBy) .nil)

theorem fits_of_toldBy {room : Nat} (p : Param) (j : Json) (h : p.ToldBy j) :
    Fits (room + 2) j := by
  obtain ⟨members, rfl, hgives⟩ := h
  exact hgives.fits p.serves (by decide)
    ⟨fits_of_eq trivial, TypeRef.fits_of_toldBy _, trivial⟩

theorem decode_of_toldBy (p : Param) (j : Json) (h : p.ToldBy j) :
    Param.decode j = .ok p := by
  obtain ⟨members, rfl, hgives⟩ := h
  have hcheck := hgives.checkRecord p.serves (by decide)
  have hname : readField fields "name" asText (.object members) = .ok p.name :=
    hgives.readField p.serves (by decide) (.head _) (decode_of_eq rfl)
  have htype : readField fields "ty" TypeRef.decode (.object members) = .ok p.type :=
    hgives.readField p.serves (by decide) (.tail _ (.head _)) p.type.decode_of_toldBy
  unfold decode
  simp only [hcheck, hname, htype, bind, Except.bind]

end Param

theorem Scope.decode_name (s : Scope) : Scope.decode (.string s.name) = .ok s := by
  cases s <;> rfl

/-- The members that tell a function. -/
def FunctionInfo.slots (f : FunctionInfo) : List Slot :=
  [.always "full_name" (· = .string f.fullName),
    .unless (f.scope = .module) "scope" (· = .string f.scope.name),
    .list "params" Param.ToldBy f.params, .always "returns" f.returns.ToldBy,
    .list "attributes" Attribute.ToldBy f.attributes]

/-- The objects that tell a function. -/
def FunctionInfo.ToldBy (f : FunctionInfo) (j : Json) : Prop := IsObject f.slots j

namespace FunctionInfo

theorem toldBy_encode (f : FunctionInfo) : f.ToldBy f.encode :=
  ⟨_, rfl, (Kept.give rfl (.give rfl (.give (isList_encodeList Param.toldBy_encode f.params)
    (.give f.returns.toldBy_encode
      (.give (isList_encodeList Attribute.toldBy_encode f.attributes) .nil))))).gives⟩

theorem serves (f : FunctionInfo) : List.Forall₂ Serves fields f.slots :=
  .cons (serves_text "full_name" f.fullName)
    (.cons (serves_defaulted (decode_of_eq f.scope.decode_name))
    (.cons (serves_list Param.decode_of_toldBy "params" f.params)
    (.cons (serves_required f.returns.decode_of_toldBy)
    (.cons (serves_list Attribute.decode_of_toldBy "attributes" f.attributes) .nil))))

theorem fits_of_toldBy {room : Nat} (f : FunctionInfo) (j : Json) (h : f.ToldBy j) :
    Fits (room + 5) j := by
  obtain ⟨members, rfl, hgives⟩ := h
  refine hgives.fits f.serves (by decide) ⟨fits_of_eq trivial, fits_of_eq trivial,
    fun _ htold => ?_, TypeRef.fits_of_toldBy _, fun _ htold => ?_, trivial⟩
  · exact htold.fits Param.fits_of_toldBy
  · exact htold.fits Attribute.fits_of_toldBy

theorem decode_of_toldBy (f : FunctionInfo) (j : Json) (h : f.ToldBy j) :
    FunctionInfo.decode j = .ok f := by
  obtain ⟨members, rfl, hgives⟩ := h
  have hcheck := hgives.checkRecord f.serves (by decide)
  have hname : readField fields "full_name" asText (.object members) = .ok f.fullName :=
    hgives.readField f.serves (by decide) (.head _) (decode_of_eq rfl)
  have hscope : readFieldOr .module fields "scope" Scope.decode (.object members) = .ok f.scope :=
    hgives.readFieldOr f.serves (by decide) (.tail _ (.head _)) id (decode_of_eq f.scope.decode_name)
  have hparams := hgives.readList f.serves (by decide) Param.decode_of_toldBy
    (.tail _ (.tail _ (.head _)))
  have hreturns : readField fields "returns" TypeRef.decode (.object members) = .ok f.returns :=
    hgives.readField f.serves (by decide) (.tail _ (.tail _ (.tail _ (.head _))))
      f.returns.decode_of_toldBy
  have hattributes := hgives.readList f.serves (by decide) Attribute.decode_of_toldBy
    (.tail _ (.tail _ (.tail _ (.tail _ (.head _)))))
  unfold decode
  simp only [hcheck, hname, hscope, hparams, hreturns, hattributes, bind, Except.bind]

end FunctionInfo

/-! ## Catalogs -/

/-- The members that tell a catalog. -/
def Catalog.slots (c : Catalog) : List Slot :=
  [.list "types" TypeInfo.ToldBy c.types, .list "functions" FunctionInfo.ToldBy c.functions]

/-- The objects that tell a catalog. -/
def Catalog.ToldBy (c : Catalog) (j : Json) : Prop := IsObject c.slots j

namespace Catalog

theorem toldBy_encode (c : Catalog) : c.ToldBy c.encode :=
  ⟨_, rfl, (Kept.give (isList_encodeList TypeInfo.toldBy_encode c.types)
    (.give (isList_encodeList FunctionInfo.toldBy_encode c.functions) .nil)).gives⟩

theorem serves (c : Catalog) : List.Forall₂ Serves fields c.slots :=
  .cons (serves_list TypeInfo.decode_of_toldBy "types" c.types)
    (.cons (serves_list FunctionInfo.decode_of_toldBy "functions" c.functions) .nil)

theorem fits_of_toldBy {room : Nat} (c : Catalog) (j : Json) (h : c.ToldBy j) :
    Fits (room + 7) j := by
  obtain ⟨members, rfl, hgives⟩ := h
  refine hgives.fits c.serves (by decide) ⟨fun _ htold => ?_, fun _ htold => ?_, trivial⟩
  · exact htold.fits TypeInfo.fits_of_toldBy
  · exact htold.fits FunctionInfo.fits_of_toldBy

theorem decode_of_toldBy (c : Catalog) (j : Json) (h : c.ToldBy j) :
    Catalog.decode j = .ok c := by
  obtain ⟨members, rfl, hgives⟩ := h
  have hcheck := hgives.checkRecord c.serves (by decide)
  have htypes := hgives.readList c.serves (by decide) TypeInfo.decode_of_toldBy
    (.head _)
  have hfunctions := hgives.readList c.serves (by decide) FunctionInfo.decode_of_toldBy
    (.tail _ (.head _))
  unfold decode
  simp only [hcheck, htypes, hfunctions, bind, Except.bind]

theorem fits_encode (c : Catalog) {room : Nat} : Fits (room + 7) c.encode :=
  c.fits_of_toldBy _ c.toldBy_encode

theorem decode_encode (c : Catalog) : Catalog.decode c.encode = .ok c :=
  c.decode_of_toldBy _ c.toldBy_encode

end Catalog

/-! ## Reports -/

theorem Severity.decode_name (s : Severity) : Severity.decode (.string s.name) = .ok s := by
  cases s <;> rfl

/-- A number of 32 bits is one of 64 bits. -/
theorem fits_position (n : UInt32) {room : Nat} : Fits room (.natural n.toNat) :=
  Nat.lt_trans n.toNat_lt (by decide)

theorem asPosition_toNat (n : UInt32) : asPosition (.natural n.toNat) = .ok n := by
  unfold asPosition
  dsimp only
  rw [if_pos n.toNat_lt, UInt32.ofNat_toNat]

theorem serves_position (name : String) (n : UInt32) :
    Serves (.required name asPosition) (.always name (· = .natural n.toNat)) :=
  serves_required (decode_of_eq (asPosition_toNat n))

/-- The members that tell a diagnostic. -/
def Diagnostic.slots (d : Diagnostic) : List Slot :=
  [.always "severity" (· = .string d.severity.name), .always "file" (· = .string d.file),
    .always "start_line" (· = .natural d.startLine.toNat),
    .always "start_column" (· = .natural d.startColumn.toNat),
    .always "end_line" (· = .natural d.endLine.toNat),
    .always "end_column" (· = .natural d.endColumn.toNat),
    .always "message" (· = .string d.message)]

/-- The objects that tell a diagnostic. -/
def Diagnostic.ToldBy (d : Diagnostic) (j : Json) : Prop := IsObject d.slots j

namespace Diagnostic

theorem toldBy_encode (d : Diagnostic) : d.ToldBy d.encode :=
  ⟨_, rfl, (Kept.give rfl (.give rfl (.give rfl (.give rfl (.give rfl (.give rfl
    (.give rfl .nil))))))).gives⟩

theorem serves (d : Diagnostic) : List.Forall₂ Serves fields d.slots :=
  .cons (serves_required (decode_of_eq d.severity.decode_name))
    (.cons (serves_text "file" d.file) (.cons (serves_position "start_line" d.startLine)
    (.cons (serves_position "start_column" d.startColumn)
    (.cons (serves_position "end_line" d.endLine) (.cons (serves_position "end_column" d.endColumn)
    (.cons (serves_text "message" d.message) .nil))))))

theorem fits_of_toldBy {room : Nat} (d : Diagnostic) (j : Json) (h : d.ToldBy j) :
    Fits (room + 1) j := by
  obtain ⟨members, rfl, hgives⟩ := h
  exact hgives.fits d.serves (by decide) ⟨fits_of_eq trivial, fits_of_eq trivial,
    fits_of_eq (fits_position _), fits_of_eq (fits_position _), fits_of_eq (fits_position _),
    fits_of_eq (fits_position _), fits_of_eq trivial, trivial⟩

theorem decode_of_toldBy (d : Diagnostic) (j : Json) (h : d.ToldBy j) :
    Diagnostic.decode j = .ok d := by
  obtain ⟨members, rfl, hgives⟩ := h
  have hcheck := hgives.checkRecord d.serves (by decide)
  have hread : ∀ {α : Type} {name : String} {decode : Decoder α} {a : α} {written : Json},
      .always name (· = written) ∈ d.slots → decode written = .ok a →
        readField fields name decode (.object members) = .ok a :=
    fun hslot hwritten => hgives.readField d.serves (by decide) hslot (decode_of_eq hwritten)
  have hseverity := hread (.head _) d.severity.decode_name
  have hfile : readField fields "file" asText (.object members) = .ok d.file :=
    hread (.tail _ (.head _)) rfl
  have hstartLine := hread (.tail _ (.tail _ (.head _))) (asPosition_toNat d.startLine)
  have hstartColumn := hread (.tail _ (.tail _ (.tail _ (.head _))))
    (asPosition_toNat d.startColumn)
  have hendLine := hread (.tail _ (.tail _ (.tail _ (.tail _ (.head _)))))
    (asPosition_toNat d.endLine)
  have hendColumn := hread (.tail _ (.tail _ (.tail _ (.tail _ (.tail _ (.head _))))))
    (asPosition_toNat d.endColumn)
  have hmessage : readField fields "message" asText (.object members) = .ok d.message :=
    hread (.tail _ (.tail _ (.tail _ (.tail _ (.tail _ (.tail _ (.head _))))))) rfl
  unfold decode
  simp only [hcheck, hseverity, hfile, hstartLine, hstartColumn, hendLine, hendColumn, hmessage,
    bind, Except.bind]

end Diagnostic

/-- What tells a catalog or nothing. -/
def IsOptional {α : Type} (tells : α → Json → Prop) : Option α → Json → Prop
  | none, j => j = .null
  | some a, j => tells a j

/-- The members that tell a report. -/
def Report.slots (r : Report) : List Slot :=
  [.list "diagnostics" Diagnostic.ToldBy r.diagnostics,
    .unless (r.catalog = none) "catalog" (IsOptional Catalog.ToldBy r.catalog)]

/-- The objects that tell a report. -/
def Report.ToldBy (r : Report) (j : Json) : Prop := IsObject r.slots j

theorem asOptional_of_toldBy {catalog : Option Catalog} {j : Json}
    (h : IsOptional Catalog.ToldBy catalog j) : asOptional Catalog.decode j = .ok catalog := by
  cases catalog with
  | none =>
      obtain rfl : j = .null := h
      rfl
  | some c =>
      have hread := c.decode_of_toldBy j h
      obtain ⟨members, rfl, -⟩ := h
      have hsome : asOptional Catalog.decode (.object members) =
          (Catalog.decode (.object members)).map some := rfl
      rw [hsome, hread]
      rfl

namespace Report

theorem toldBy_encode (r : Report) : r.ToldBy r.encode := by
  refine ⟨_, rfl, (Kept.give (isList_encodeList Diagnostic.toldBy_encode r.diagnostics)
    (.give ?_ .nil)).gives⟩
  cases r.catalog with
  | none => rfl
  | some c => exact c.toldBy_encode

theorem serves (r : Report) : List.Forall₂ Serves fields r.slots :=
  .cons (serves_list Diagnostic.decode_of_toldBy "diagnostics" r.diagnostics)
    (.cons (serves_defaulted fun _ => asOptional_of_toldBy) .nil)

theorem fits_of_toldBy {room : Nat} (r : Report) (j : Json) (h : r.ToldBy j) :
    Fits (room + 8) j := by
  obtain ⟨members, rfl, hgives⟩ := h
  refine hgives.fits r.serves (by decide) ⟨fun _ htold => ?_, fun value htold => ?_, trivial⟩
  · exact htold.fits Diagnostic.fits_of_toldBy
  · change IsOptional Catalog.ToldBy r.catalog value at htold
    cases hcatalog : r.catalog with
    | none =>
        rw [hcatalog] at htold
        obtain rfl : value = .null := htold
        exact trivial
    | some c =>
        rw [hcatalog] at htold
        exact c.fits_of_toldBy value htold

/-- **Whatever tells a report is read as that report.** -/
theorem decode_of_toldBy (r : Report) (j : Json) (h : r.ToldBy j) :
    Report.decode j = .ok r := by
  obtain ⟨members, rfl, hgives⟩ := h
  have hcheck := hgives.checkRecord r.serves (by decide)
  have hdiagnostics := hgives.readList r.serves (by decide) Diagnostic.decode_of_toldBy
    (.head _)
  have hcatalog : readFieldOr none fields "catalog" (asOptional Catalog.decode)
      (.object members) = .ok r.catalog :=
    hgives.readFieldOr r.serves (by decide) (.tail _ (.head _)) id fun _ => asOptional_of_toldBy
  unfold decode
  simp only [hcheck, hdiagnostics, hcatalog, bind, Except.bind]

/-- So is every text of it. -/
theorem decodeText_of_toldBy (r : Report) {j : Json} (h : r.ToldBy j) {room : Nat}
    {gap text tail : List Char} (hgap : IsGap gap) (hspells : Spells room j text)
    (htail : IsGap tail) :
    decodeText Report.decode (String.ofList (gap ++ text ++ tail)) = .ok r := by
  have hread := decodeText_of_spells Report.decode hgap
    (hspells.of_fits (r.fits_of_toldBy j h)) htail
  rw [r.decode_of_toldBy j h] at hread
  exact hread

/-- What a program prints as a report is read as this report. -/
theorem decodeText_compact (r : Report) :
    decodeText Report.decode (r.encode.compact ++ "\n") = .ok r := by
  have hgap : IsGap ['\n'] := rfl
  have hread := Json.decodeText_compact Report.decode (r.fits_of_toldBy _ r.toldBy_encode) hgap
  rw [r.decode_of_toldBy _ r.toldBy_encode] at hread
  exact hread

/-- **The wire format loses nothing and bears with sparse encoders.** What is written for a report
tells it, and so does everything that comes of this by reordering the members of objects, leaving out
members that hold their default and adding texts under names that are not declared. Whatever tells a
report is read as this report, in either layout and in every other text of it. -/
theorem read_of_toldBy (r : Report) :
    r.ToldBy r.encode ∧
      ∀ j, r.ToldBy j →
        Report.decode j = .ok r ∧
        decodeText Report.decode j.compact = .ok r ∧
        decodeText Report.decode j.pretty = .ok r ∧
        ∀ room gap text tail, IsGap gap → Spells room j text → IsGap tail →
          decodeText Report.decode (String.ofList (gap ++ text ++ tail)) = .ok r := by
  refine ⟨r.toldBy_encode, fun j htold => ⟨r.decode_of_toldBy j htold, ?_, ?_, ?_⟩⟩
  · have hfits : Fits 8 j := r.fits_of_toldBy j htold
    have hread := r.decodeText_of_toldBy htold isGap_nil (spells_compact hfits) isGap_nil
    rw [List.nil_append, List.append_nil] at hread
    exact hread
  · have hread := Json.decodeText_pretty Report.decode (r.fits_of_toldBy j htold)
    rw [r.decode_of_toldBy j htold] at hread
    exact hread
  · intro room gap text tail hgap hspells htail
    exact r.decodeText_of_toldBy htold hgap hspells htail

/-- A report of a module with one function. -/
def sparseReport : Report where
  diagnostics := []
  catalog := some ⟨[], [⟨"make", .module, [], .named "Unit", []⟩]⟩

/-- The report as a sparse encoder may write it: no lists that are empty, no scope, the tag of the
type behind its name, and a member that nobody knows. -/
def sparseText : Json :=
  .object [("encoder", .string "sparse"), ("catalog", .object [("functions", .array [.object
    [("returns", .object [("name", .string "Unit"), ("kind", .string "named")]),
      ("full_name", .string "make")]])])]

theorem read_of_sparse :
    sparseReport.ToldBy sparseText ∧
      decodeText Report.decode sparseText.compact = .ok sparseReport := by
  have hreturns : (TypeRef.named "Unit").ToldBy
      (.object [("name", .string "Unit"), ("kind", .string "named")]) :=
    ⟨_, rfl, _, [], .swap _ _ [], .give rfl (.give rfl .nil), .nil _⟩
  have hfunction : FunctionInfo.ToldBy ⟨"make", .module, [], .named "Unit", []⟩
      (.object [("returns", .object [("name", .string "Unit"), ("kind", .string "named")]),
        ("full_name", .string "make")]) :=
    ⟨_, rfl, _, [], .swap _ _ [],
      .give rfl (.drop rfl (.drop rfl (.give hreturns (.drop rfl .nil)))), .nil _⟩
  have hfunctions : IsList FunctionInfo.ToldBy [⟨"make", .module, [], .named "Unit", []⟩] _ :=
    ⟨_, rfl, .cons hfunction .nil⟩
  have hcatalog : Catalog.ToldBy ⟨[], [⟨"make", .module, [], .named "Unit", []⟩]⟩ _ :=
    ⟨_, rfl, (Kept.drop rfl (.give hfunctions .nil)).gives⟩
  have htold : sparseReport.ToldBy sparseText := by
    refine ⟨_, rfl, _, [("encoder", .string "sparse")], .swap _ _ [],
      .drop rfl (.give hcatalog .nil), by decide, by decide, ?_⟩
    intro extra hextra
    obtain rfl := List.mem_singleton.mp hextra
    exact ⟨"sparse", rfl⟩
  exact ⟨htold, ((read_of_toldBy sparseReport).2 sparseText htold).2.1⟩

end Report

end Expansion
