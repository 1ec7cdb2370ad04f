import Expansion.Proofs.Json.Layout
import Mathlib.Data.List.Forall2

/-!
# Records in any order, with gaps and with more

An encoder writes a record as it likes: its members come in any order, some of those that have a
default are left out where they hold it, and there are texts under names that the record does not
know.

* `Slot` is one member as the record has it: its name, the values that tell what it holds, and whether
  it may be left out. **`Gives slots members`**: the members are those of the slots, reordered, with
  some left out and with texts added.
* What gives its slots passes its check (`Gives.checkRecord`, `Gives.checkContent`), each field is
  read from its member (`Gives.readField`) or has its default (`Gives.readFieldOr`).
* A tagged value is found wherever its tag stands (`asTagged_of_gives`), and its content gives the
  other slots.
-/

namespace Expansion.Json

variable {α : Type} {decode : Decoder α} {j value : Json} {a : α} {fields : List Field}
variable {members kept : List (String × Json)} {kind name : String} {isKind : String → Bool}

/-! ## Lists -/

/-- An array of what tells values, one by one. -/
def IsList (tells : α → Json → Prop) (values : List α) (j : Json) : Prop :=
  ∃ items, j = .array items ∧ List.Forall₂ tells values items

theorem decodeAll_of_forall₂ {tells : α → Json → Prop} (h : ∀ a j, tells a j → decode j = .ok a)
    {values : List α} {items : List Json} (htells : List.Forall₂ tells values items) :
    decodeAll decode items = .ok values := by
  induction htells with
  | nil => rfl
  | cons hfirst _ ih => rw [decodeAll, h _ _ hfirst, ih]

/-- A list is read if all of its items are. -/
theorem IsList.decoded {tells : α → Json → Prop} {values : List α}
    (hlist : IsList tells values j) (h : ∀ a j, tells a j → decode j = .ok a) :
    asList decode j = .ok values := by
  obtain ⟨items, rfl, htells⟩ := hlist
  exact decodeAll_of_forall₂ h htells

theorem IsList.fits {tells : α → Json → Prop} {room : Nat} {values : List α}
    (hlist : IsList tells values j) (h : ∀ a j, tells a j → Fits room j) :
    Fits (room + 1) j := by
  obtain ⟨items, rfl, htells⟩ := hlist
  show FitsItems room items
  induction htells with
  | nil => exact trivial
  | cons hfirst _ ih => exact ⟨h _ _ hfirst, ih⟩

/-- The members of an object are read if all of their values are. -/
theorem decodeMembers_map {encode : α → Json} (h : ∀ a, decode (encode a) = .ok a)
    (values : List (String × α)) :
    decodeMembers decode (values.map fun (key, a) => (key, encode a)) = .ok values := by
  induction values with
  | nil => rfl
  | cons first rest ih =>
      obtain ⟨key, a⟩ := first
      rw [List.map_cons, decodeMembers, h a, ih]

/-! ## Members that their fields take -/

theorem faultOf_of_ok (h : decode j = .ok a) : faultOf decode j = none := by
  unfold faultOf
  rw [h]

/-- No name comes twice, every field takes its value and is there if it must be, and what belongs to
no field can be skipped. -/
structure Filled (fields : List Field) (members : List (String × Json)) : Prop where
  distinct : (members.map Prod.fst).Nodup
  taken : ∀ field ∈ fields, ∀ value, (field.name, value) ∈ members → field.fault? value = none
  given : ∀ field ∈ fields, field.mayMiss = true ∨ field.name ∈ members.map Prod.fst
  others : ∀ member ∈ members, member.1 ∉ fields.map Field.name → skipFault? member.2 = none

/-- By induction on the members, behind those that have been seen. -/
theorem membersFault?_of_taken (hdistinct : (members.map Prod.fst).Nodup)
    (htaken : ∀ field ∈ fields, ∀ value, (field.name, value) ∈ members →
      field.fault? value = none)
    (hothers : ∀ member ∈ members, member.1 ∉ fields.map Field.name →
      skipFault? member.2 = none)
    (seen : List String) (hseen : ∀ key ∈ members.map Prod.fst, key ∉ seen) :
    membersFault? fields seen members = none := by
  induction members generalizing seen with
  | nil => rfl
  | cons first rest ih =>
      obtain ⟨key, value⟩ := first
      rw [List.map_cons, List.nodup_cons] at hdistinct
      have hrest := ih hdistinct.2
        (fun field hfield value hmem => htaken field hfield value (List.mem_cons_of_mem _ hmem))
        (fun member hmem => hothers member (List.mem_cons_of_mem _ hmem))
      rw [membersFault?]
      cases hfind : fields.find? fun field => field.name == key with
      | none =>
          have hother : key ∉ fields.map Field.name := by
            intro hin
            obtain ⟨field, hfield, hname⟩ := List.mem_map.mp hin
            exact List.find?_eq_none.mp hfind field hfield (by simp [hname])
          dsimp only
          rw [hothers (key, value) List.mem_cons_self hother, hrest seen]
          · rfl
          · intro other hin
            exact hseen other (List.mem_cons_of_mem _ hin)
      | some field =>
          have hname : field.name = key := by simpa using List.find?_some hfind
          have hvalue := htaken field (List.mem_of_find?_eq_some hfind) value
            (by rw [hname]; exact List.mem_cons_self)
          have hfresh : seen.contains key = false := by
            rw [Bool.eq_false_iff]
            intro hold
            exact hseen key List.mem_cons_self (List.contains_iff_mem.mp hold)
          dsimp only
          rw [hfresh, hvalue, hrest (key :: seen)]
          · rfl
          · intro other hin hold
            rcases List.mem_cons.mp hold with rfl | hold
            · exact hdistinct.1 hin
            · exact hseen other (List.mem_cons_of_mem _ hin) hold

theorem Filled.recordFault? (h : Filled fields members) (extra : Fault) :
    recordFault? extra fields (.object members) = none := by
  have hmissing : missingFault? fields members = none := by
    unfold missingFault?
    rw [if_pos]
    rw [List.all_eq_true]
    intro field hfield
    rw [Bool.or_eq_true, List.any_eq_true]
    rcases h.given field hfield with hmiss | hin
    · exact .inl hmiss
    · obtain ⟨member, hmember, hname⟩ := List.mem_map.mp hin
      exact .inr ⟨member, hmember, by simp [hname]⟩
  rw [Json.recordFault?, membersFault?_of_taken h.distinct h.taken h.others [] (by simp), hmissing]
  rfl

/-! ## Slots -/

/-- One member as a record has it. -/
structure Slot where
  name : String
  /-- The values that tell what the record holds here. -/
  tells : Json → Prop
  /-- Whether a record without the member holds the same. -/
  mayMiss : Prop

/-- A member that is always there. -/
def Slot.always (name : String) (tells : Json → Prop) : Slot := ⟨name, tells, False⟩

/-- A member that may be left out where it holds its default. -/
def Slot.unless (isDefault : Prop) (name : String) (tells : Json → Prop) : Slot :=
  ⟨name, tells, isDefault⟩

/-- A list that may be left out where it is empty. -/
def Slot.list (name : String) (tells : α → Json → Prop) (values : List α) : Slot :=
  .unless (values = []) name (IsList tells values)

/-- The member that names the kind of a tagged value. -/
def Slot.tag (kind : String) : Slot := .always tagName (· = .string kind)

/-- The members for slots, in their order, without some that may miss. -/
inductive Kept : List Slot → List (String × Json) → Prop
  | nil : Kept [] []
  | give {slot : Slot} {slots : List Slot} {value : Json} {members : List (String × Json)} :
      slot.tells value → Kept slots members → Kept (slot :: slots) ((slot.name, value) :: members)
  | drop {slot : Slot} {slots : List Slot} {members : List (String × Json)} :
      slot.mayMiss → Kept slots members → Kept (slot :: slots) members

/-- Texts under names of their own. -/
structure Extras (slots : List Slot) (extras : List (String × Json)) : Prop where
  distinct : (extras.map Prod.fst).Nodup
  fresh : ∀ extra ∈ extras, extra.1 ∉ slots.map Slot.name
  texts : ∀ extra ∈ extras, ∃ text, extra.2 = .string text

/-- The members of some slots in any order, without some that may miss and with texts under names
that are no slot's. -/
def Gives (slots : List Slot) (members : List (String × Json)) : Prop :=
  ∃ kept extras, members.Perm (kept ++ extras) ∧ Kept slots kept ∧ Extras slots extras

/-- An object that gives some slots. -/
def IsObject (slots : List Slot) (j : Json) : Prop :=
  ∃ members, j = .object members ∧ Gives slots members

variable {slots : List Slot} {slot : Slot} {sense : Json → Prop}

theorem Extras.nil (slots : List Slot) : Extras slots [] :=
  ⟨List.nodup_nil, by simp, by simp⟩

/-- What leaves nothing out and adds nothing. -/
theorem Kept.gives (h : Kept slots members) : Gives slots members :=
  ⟨members, [], by rw [List.append_nil], h, .nil slots⟩

theorem Kept.names (h : Kept slots kept) :
    (kept.map Prod.fst).Sublist (slots.map Slot.name) := by
  induction h with
  | nil => exact List.Sublist.refl _
  | give _ _ ih => exact ih.cons_cons _
  | drop _ _ ih => exact ih.cons _

theorem Kept.told (hnames : (slots.map Slot.name).Nodup) (h : Kept slots kept)
    (hslot : slot ∈ slots) (hvalue : (slot.name, value) ∈ kept) : slot.tells value := by
  induction h with
  | nil => cases hslot
  | @give first slots own kept htells hkept ih =>
      rw [List.map_cons, List.nodup_cons] at hnames
      rcases List.mem_cons.mp hslot with rfl | hslot
      · rcases List.mem_cons.mp hvalue with hown | hvalue
        · injection hown with _ hown
          exact hown ▸ htells
        · exact absurd (hkept.names.subset (List.mem_map_of_mem hvalue)) hnames.1
      · rcases List.mem_cons.mp hvalue with hown | hvalue
        · injection hown with hname _
          exact absurd (hname ▸ List.mem_map_of_mem hslot) hnames.1
        · exact ih hnames.2 hslot hvalue
  | @drop first slots kept _ hkept ih =>
      rw [List.map_cons, List.nodup_cons] at hnames
      rcases List.mem_cons.mp hslot with rfl | hslot
      · exact absurd (hkept.names.subset (List.mem_map_of_mem hvalue)) hnames.1
      · exact ih hnames.2 hslot hvalue

theorem Kept.given (h : Kept slots kept) (hslot : slot ∈ slots) :
    slot.mayMiss ∨ ∃ value, (slot.name, value) ∈ kept := by
  induction h with
  | nil => cases hslot
  | give htells _ ih =>
      rcases List.mem_cons.mp hslot with rfl | hslot
      · exact .inr ⟨_, List.mem_cons_self⟩
      · exact (ih hslot).imp id fun ⟨value, hvalue⟩ => ⟨value, List.mem_cons_of_mem _ hvalue⟩
  | drop hmiss _ ih =>
      rcases List.mem_cons.mp hslot with rfl | hslot
      · exact .inl hmiss
      · exact ih hslot

namespace Gives

theorem distinct (hnames : (slots.map Slot.name).Nodup) (h : Gives slots members) :
    (members.map Prod.fst).Nodup := by
  obtain ⟨kept, extras, hperm, hkept, hextras⟩ := h
  rw [(hperm.map Prod.fst).nodup_iff, List.map_append, List.nodup_append]
  refine ⟨hnames.sublist hkept.names, hextras.distinct, ?_⟩
  rintro key hkey other hother rfl
  obtain ⟨extra, hextra, rfl⟩ := List.mem_map.mp hother
  exact hextras.fresh extra hextra (hkept.names.subset hkey)

theorem told (hnames : (slots.map Slot.name).Nodup) (h : Gives slots members) (hslot : slot ∈ slots)
    (hvalue : (slot.name, value) ∈ members) : slot.tells value := by
  obtain ⟨kept, extras, hperm, hkept, hextras⟩ := h
  rcases List.mem_append.mp (hperm.mem_iff.mp hvalue) with hvalue | hextra
  · exact hkept.told hnames hslot hvalue
  · exact absurd (List.mem_map_of_mem hslot) (hextras.fresh _ hextra)

theorem given (h : Gives slots members) (hslot : slot ∈ slots) :
    slot.mayMiss ∨ ∃ value, (slot.name, value) ∈ members := by
  obtain ⟨kept, extras, hperm, hkept, -⟩ := h
  exact (hkept.given hslot).imp id fun ⟨value, hvalue⟩ =>
    ⟨value, hperm.mem_iff.mpr (List.mem_append_left _ hvalue)⟩

/-- A member is one of the slots', or a text. -/
theorem cases (hnames : (slots.map Slot.name).Nodup) (h : Gives slots members)
    {member : String × Json} (hmember : member ∈ members) :
    (∃ slot ∈ slots, slot.name = member.1 ∧ slot.tells member.2) ∨
      (member.1 ∉ slots.map Slot.name ∧ ∃ text, member.2 = .string text) := by
  by_cases hin : member.1 ∈ slots.map Slot.name
  · obtain ⟨slot, hslot, hname⟩ := List.mem_map.mp hin
    exact .inl ⟨slot, hslot, hname, h.told hnames hslot (by rw [hname]; exact hmember)⟩
  · obtain ⟨kept, extras, hperm, hkept, hextras⟩ := h
    rcases List.mem_append.mp (hperm.mem_iff.mp hmember) with hkeep | hextra
    · exact absurd (hkept.names.subset (List.mem_map_of_mem hkeep)) hin
    · exact .inr ⟨hin, hextras.texts _ hextra⟩

end Gives

/-- Whether whatever tells one of the slots fits. -/
def FitSlots (room : Nat) : List Slot → Prop
  | [] => True
  | slot :: rest => (∀ value, slot.tells value → Fits room value) ∧ FitSlots room rest

theorem FitSlots.fits {room : Nat} (h : FitSlots room slots) (hslot : slot ∈ slots)
    (htells : slot.tells value) : Fits room value := by
  induction slots with
  | nil => cases hslot
  | cons first rest ih =>
      rcases List.mem_cons.mp hslot with rfl | hrest
      · exact h.1 value htells
      · exact ih h.2 hrest

/-! ## Fields for slots -/

/-- The field reads what tells the slot. -/
structure Serves (field : Field) (slot : Slot) : Prop where
  name : field.name = slot.name
  mayMiss : slot.mayMiss → field.mayMiss = true
  taken : ∀ value, slot.tells value → field.fault? value = none

theorem serves_required (h : ∀ value, sense value → decode value = .ok a) :
    Serves (.required name decode) (.always name sense) :=
  ⟨rfl, False.elim, fun value htells => faultOf_of_ok (h value htells)⟩

theorem serves_defaulted {isDefault : Prop} (h : ∀ value, sense value → decode value = .ok a) :
    Serves (.defaulted name decode) (.unless isDefault name sense) :=
  ⟨rfl, fun _ => rfl, fun value htells => faultOf_of_ok (h value htells)⟩

theorem serves_list {tells : α → Json → Prop} (h : ∀ a j, tells a j → decode j = .ok a)
    (name : String) (values : List α) :
    Serves (.defaulted name (asList decode)) (.list name tells values) :=
  serves_defaulted fun _ htold => htold.decoded h

theorem serves_tag (kind : String) : Serves (.required tagName asText) (.tag kind) := by
  refine serves_required (a := kind) ?_
  rintro value rfl
  rfl

theorem names_of_serves (hserves : List.Forall₂ Serves fields slots) :
    slots.map Slot.name = fields.map Field.name := by
  induction hserves with
  | nil => rfl
  | cons hfirst _ ih => rw [List.map_cons, List.map_cons, ih, hfirst.name]

theorem exists_slot (hserves : List.Forall₂ Serves fields slots) {field : Field}
    (hfield : field ∈ fields) : ∃ slot ∈ slots, Serves field slot := by
  induction hserves with
  | nil => cases hfield
  | @cons first slot _ _ hfirst _ ih =>
      rcases List.mem_cons.mp hfield with rfl | hrest
      · exact ⟨slot, List.mem_cons_self, hfirst⟩
      · obtain ⟨slot, hslot, hserve⟩ := ih hrest
        exact ⟨slot, List.mem_cons_of_mem _ hslot, hserve⟩

/-- Where no name comes twice, an entry is found by its name. -/
theorem lookup_of_mem {β : Type} {entries : List (String × β)} {value : β}
    (hdistinct : (entries.map Prod.fst).Nodup) (hmem : (name, value) ∈ entries) :
    entries.lookup name = some value := by
  induction entries with
  | nil => cases hmem
  | cons first rest ih =>
      obtain ⟨key, own⟩ := first
      rw [List.map_cons, List.nodup_cons] at hdistinct
      rw [List.lookup_cons]
      rcases List.mem_cons.mp hmem with hown | hrest
      · injection hown with hname hvalue
        rw [hname, beq_self_eq_true, hvalue]
      · have hne : (name == key) = false := by
          rw [beq_eq_false_iff_ne]
          intro hname
          exact hdistinct.1 (List.mem_map.mpr ⟨_, hrest, hname⟩)
        rw [hne]
        exact ih hdistinct.2 hrest

namespace Gives

theorem fits {room : Nat} (h : Gives slots members) (hserves : List.Forall₂ Serves fields slots)
    (hnames : (fields.map Field.name).Nodup)
    (hfits : FitSlots room slots) : Fits (room + 1) (.object members) := by
  rw [← names_of_serves hserves] at hnames
  show FitsMembers room members
  rw [fitsMembers_iff]
  intro member hmember
  rcases h.cases hnames hmember with ⟨slot, hslot, -, htells⟩ | ⟨-, text, htext⟩
  · exact hfits.fits hslot htells
  · rw [htext]
    exact trivial

theorem filled (h : Gives slots members) (hserves : List.Forall₂ Serves fields slots)
    (hnames : (fields.map Field.name).Nodup) : Filled fields members := by
  have hsame := names_of_serves hserves
  rw [← hsame] at hnames
  refine ⟨h.distinct hnames, ?_, ?_, ?_⟩
  · intro field hfield value hvalue
    obtain ⟨slot, hslot, hserve⟩ := exists_slot hserves hfield
    exact hserve.taken value (h.told hnames hslot (hserve.name ▸ hvalue))
  · intro field hfield
    obtain ⟨slot, hslot, hserve⟩ := exists_slot hserves hfield
    rcases h.given hslot with hmiss | ⟨value, hvalue⟩
    · exact .inl (hserve.mayMiss hmiss)
    · exact .inr (hserve.name ▸ List.mem_map_of_mem hvalue)
  · intro member hmember hother
    rcases h.cases hnames hmember with ⟨slot, hslot, hname, -⟩ | ⟨-, text, htext⟩
    · exact absurd (hname ▸ List.mem_map_of_mem hslot) (hsame ▸ hother)
    · rw [htext]
      rfl

/-- A record that gives its slots passes its check. -/
theorem checkRecord (h : Gives slots members) (hserves : List.Forall₂ Serves fields slots)
    (hnames : (fields.map Field.name).Nodup) : checkRecord fields (.object members) = .ok () := by
  unfold Json.checkRecord
  rw [(h.filled hserves hnames).recordFault?]

/-- So does the content of a tagged value. -/
theorem checkContent (h : Gives slots members) (hserves : List.Forall₂ Serves fields slots)
    (hnames : (fields.map Field.name).Nodup) : checkContent fields (.object members) = .ok () := by
  unfold Json.checkContent
  rw [(h.filled hserves hnames).recordFault?]

/-- A field that is always there is read from the member of its name. -/
theorem readField (h : Gives slots members) (hserves : List.Forall₂ Serves fields slots)
    (hnames : (fields.map Field.name).Nodup) (hslot : .always name sense ∈ slots)
    (hdecode : ∀ value, sense value → decode value = .ok a) :
    readField fields name decode (.object members) = .ok a := by
  rw [← names_of_serves hserves] at hnames
  rcases h.given hslot with hmiss | ⟨value, hvalue⟩
  · exact hmiss.elim
  · have hlookup : members.lookup name = some value := lookup_of_mem (h.distinct hnames) hvalue
    have hread := hdecode value (h.told hnames hslot hvalue)
    simp only [Json.readField, fieldValue?, hlookup, hread]

/-- A field that may be left out is read from its member, or has its default. -/
theorem readFieldOr {isDefault : Prop} {default : α} (h : Gives slots members)
    (hserves : List.Forall₂ Serves fields slots) (hnames : (fields.map Field.name).Nodup)
    (hslot : .unless isDefault name sense ∈ slots) (hdefault : isDefault → a = default)
    (hdecode : ∀ value, sense value → decode value = .ok a) :
    readFieldOr default fields name decode (.object members) = .ok a := by
  rw [← names_of_serves hserves] at hnames
  cases hlookup : members.lookup name with
  | some value =>
      obtain ⟨before, behind, hmembers, -⟩ := List.lookup_eq_some_iff.mp hlookup
      have hvalue : (name, value) ∈ members := by
        rw [hmembers]
        exact List.mem_append_right _ List.mem_cons_self
      have hread := hdecode value (h.told hnames hslot hvalue)
      simp only [Json.readFieldOr, fieldValue?, hlookup, hread]
  | none =>
      rcases h.given hslot with hmiss | ⟨value, hvalue⟩
      · simp only [Json.readFieldOr, fieldValue?, hlookup, hdefault hmiss]
      · have hsome : members.lookup name = some value := lookup_of_mem (h.distinct hnames) hvalue
        rw [hlookup] at hsome
        cases hsome

/-- A list is read from its member, or it is empty. -/
theorem readList {tells : α → Json → Prop} {values : List α} (h : Gives slots members)
    (hserves : List.Forall₂ Serves fields slots) (hnames : (fields.map Field.name).Nodup)
    (hread : ∀ a j, tells a j → decode j = .ok a) (hslot : .list name tells values ∈ slots) :
    Json.readFieldOr [] fields name (asList decode) (.object members) = .ok values :=
  h.readFieldOr hserves hnames hslot id fun _ htold => htold.decoded hread

end Gives

/-! ## Tagged values -/

/-- An object that can be read into memory has no fault as a tagged value, if the tag comes once and
names a kind: by induction on the members, behind the tag or before it. -/
theorem taggedMembersFault?_of_tags (hdistinct : (members.map Prod.fst).Nodup)
    (htags : ∀ value, (tagName, value) ∈ members → value = .string kind)
    (hkind : isKind kind = true) (hbuffer : bufferFaultOfMembers? members = none) (seen : Bool)
    (hseen : seen = true → tagName ∉ members.map Prod.fst) :
    taggedMembersFault? isKind seen members = none := by
  induction members generalizing seen with
  | nil => rfl
  | cons first rest ih =>
      obtain ⟨key, value⟩ := first
      rw [List.map_cons, List.nodup_cons] at hdistinct
      rw [bufferFaultOfMembers?, Option.or_eq_none_iff] at hbuffer
      have hrest := ih hdistinct.2 (fun value hmem => htags value (List.mem_cons_of_mem _ hmem))
        hbuffer.2
      unfold taggedMembersFault?
      by_cases hkey : key = tagName
      · subst hkey
        have hnot : seen = false := by
          rw [Bool.eq_false_iff]
          intro hold
          exact hseen hold List.mem_cons_self
        rw [htags value List.mem_cons_self]
        simp only [beq_self_eq_true, if_true, hnot, Bool.false_eq_true, if_false, hkind]
        exact hrest true fun _ => hdistinct.1
      · rw [beq_eq_false_iff_ne.mpr hkey, hbuffer.1]
        exact hrest seen fun hold hin => hseen hold (List.mem_cons_of_mem _ hin)

/-- A tagged value is its kind and the members that are not the tag, which give the other slots. -/
theorem asTagged_of_gives {room : Nat} (h : Gives (.tag kind :: slots) members)
    (hserves : List.Forall₂ Serves fields slots)
    (hnames : (tagName :: fields.map Field.name).Nodup) (hfits : Fits room (.object members)) :
    ∃ content, (∀ isKind, isKind kind = true →
        asTagged isKind (.object members) = .ok (kind, .object content)) ∧
      Gives slots content := by
  have hnames : ((Slot.tag kind :: slots).map Slot.name).Nodup := by
    rw [List.map_cons, names_of_serves hserves]
    exact hnames
  have hfirst : Slot.tag kind ∈ Slot.tag kind :: slots := List.mem_cons_self
  have htags : ∀ value, (tagName, value) ∈ members → value = .string kind := fun _ hvalue =>
    h.told hnames hfirst hvalue
  have hlookup : members.lookup tagName = some (.string kind) := by
    rcases h.given hfirst with hmiss | ⟨value, hvalue⟩
    · exact hmiss.elim
    · rw [← htags value hvalue]
      exact lookup_of_mem (h.distinct hnames) hvalue
  refine ⟨members.filter fun member => member.1 != tagName, ?_, ?_⟩
  · intro isKind hkind
    have hfault : taggedMembersFault? isKind false members = none :=
      taggedMembersFault?_of_tags (h.distinct hnames) htags hkind (bufferFault?_of_fits hfits) false
        (fun hold => by cases hold)
    unfold asTagged
    simp only [hfault, hlookup]
  · -- The tag is one of the members that are kept, and none of the others has its name.
    rw [List.map_cons, List.nodup_cons] at hnames
    obtain ⟨kept, extras, hperm, hkept, hextras⟩ := h
    cases hkept with
    | drop hmiss _ => exact hmiss.elim
    | @give _ _ _ kept _ hkept =>
        have hbehind : kept.filter (fun member => member.1 != tagName) = kept := by
          rw [List.filter_eq_self]
          intro member hmember
          rw [bne_iff_ne]
          intro hname
          exact hnames.1 (hkept.names.subset (List.mem_map.mpr ⟨member, hmember, hname⟩))
        have hothers : extras.filter (fun member => member.1 != tagName) = extras := by
          rw [List.filter_eq_self]
          intro member hmember
          rw [bne_iff_ne]
          intro hname
          exact hextras.fresh member hmember (hname ▸ List.mem_cons_self)
        refine ⟨kept, extras, ?_, hkept, hextras.distinct, ?_, hextras.texts⟩
        · have hfilter := hperm.filter fun member => member.1 != tagName
          rw [List.cons_append, List.filter_cons_of_neg (by simp [Slot.tag, Slot.always]),
            List.filter_append, hbehind, hothers] at hfilter
          exact hfilter
        · intro extra hextra hin
          exact hextras.fresh extra hextra (List.mem_cons_of_mem _ hin)

end Expansion.Json
