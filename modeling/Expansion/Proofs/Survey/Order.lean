import Expansion.Document
import Expansion.Survey.Fragments
import Mathlib.Data.List.Nodup

/-!
# The order of a survey

A compiler may list the types and functions of a module in any order. A survey sorts what it takes
by full name, so the order of the list is lost in it, unless two of its types or two of its
expanders share a name.

* **`mergeSort_eq_of_perm`**: where no two items have one key, the sorted list depends on the items
  alone.
* **`types_eq_of_perm`**, **`expanders_eq_of_perm`**: so do the two lists of a survey, each expander
  with the entry point of its function. What the survey leaves out may have any names.
* **`survey_of_reordered`**: so the expansion gives one document, or ends with one fault.
-/

namespace Expansion

/-- Whether the attribute lets a type be expanded. -/
def Attribute.isExpandable : Attribute → Bool
  | .expandable _ => true
  | _ => false

/-- Whether the type has an attribute that lets it be expanded. -/
def TypeInfo.mayExpand (t : TypeInfo) : Bool := t.attributes.any Attribute.isExpandable

/-- Whether the function is marked as an expander and has the shape of one. -/
def FunctionInfo.isExpander (f : FunctionInfo) : Bool :=
  (Survey.expanderTag? f.attributes).isSome && (Survey.misshape? f).isNone

namespace Survey

variable {σ : Type} {m n : CompiledModule σ}

/-! ## What a survey takes -/

theorem isSome_requestsOf? (attributes : List Attribute) :
    (requestsOf? attributes).isSome = attributes.any Attribute.isExpandable := by
  induction attributes with
  | nil => rfl
  | cons tag rest ih =>
      rw [List.any_cons, ← ih]
      cases tag <;> simp [requestsOf?, Attribute.isExpandable]

theorem isSome_expandable? (t : TypeInfo) : (expandable? t).isSome = t.mayExpand := by
  rw [expandable?, Option.isSome_map, isSome_requestsOf?]
  rfl

theorem info_of_expandable? {t : TypeInfo} {taken : ExpandableType}
    (h : expandable? t = some taken) : taken.info = t := by
  obtain ⟨requests, -, rfl⟩ := Option.map_eq_some_iff.mp h
  rfl

theorem name_of_expandable? {t : TypeInfo} {taken : ExpandableType}
    (h : expandable? t = some taken) : taken.name = t.fullName :=
  congrArg TypeInfo.fullName (info_of_expandable? h)

theorem isSome_expander? (f : FunctionInfo × Entry σ) : (expander? f).isSome = f.1.isExpander := by
  unfold expander? FunctionInfo.isExpander
  cases expanderTag? f.1.attributes <;> cases misshape? f.1 <;> rfl

/-- A function that is taken as an expander keeps its name, and calls its own entry point. -/
theorem bound_of_expander? {f : FunctionInfo × Entry σ} {taken : Expander σ}
    (h : expander? f = some taken) :
    taken.name = f.1.fullName ∧ taken.call = bind f.1.fullName f.2 := by
  unfold expander? at h
  split at h
  · cases h
    exact ⟨rfl, rfl⟩
  · cases h

theorem mem_types_iff {t : ExpandableType} :
    t ∈ (ofModule m).types ↔ ∃ info ∈ m.types, expandable? info = some t := by
  unfold ofModule
  rw [List.mem_mergeSort, List.mem_filterMap]

theorem mem_expanders_iff {e : Expander σ} :
    e ∈ (ofModule m).expanders ↔ ∃ f ∈ m.functions, expander? f = some e := by
  unfold ofModule
  rw [List.mem_mergeSort, List.mem_filterMap]

/-- What is taken from a list is made, in order, of the items that something is taken from. -/
theorem forall₂_filterMap {α β : Type} {take : α → Option β} {isTaken : α → Bool}
    {R : α → β → Prop} (htaken : ∀ a, (take a).isSome = isTaken a)
    (hmade : ∀ a b, take a = some b → R a b) (l : List α) :
    List.Forall₂ R (l.filter isTaken) (l.filterMap take) := by
  induction l with
  | nil => exact .nil
  | cons a rest ih =>
      have ha := htaken a
      cases htake : take a with
      | none =>
          rw [htake] at ha
          rw [List.filterMap_cons_none htake, List.filter_cons_of_neg (by simp [← ha])]
          exact ih
      | some b =>
          rw [htake] at ha
          rw [List.filterMap_cons_some htake, List.filter_cons_of_pos ha.symm]
          exact .cons (hmade a b htake) ih

/-- The keys of what is taken from a list are those of the items that something is taken from. -/
theorem map_filterMap_of_isSome {α β κ : Type} {take : α → Option β} {isTaken : α → Bool}
    {before : α → κ} {key : β → κ} (htaken : ∀ a, (take a).isSome = isTaken a)
    (hkey : ∀ a b, take a = some b → key b = before a) (l : List α) :
    (l.filterMap take).map key = (l.filter isTaken).map before := by
  have hkeys : List.Forall₂ Eq ((l.filterMap take).map key) ((l.filter isTaken).map before) := by
    rw [List.forall₂_map_left_iff, List.forall₂_map_right_iff]
    exact (forall₂_filterMap htaken hkey l).flip
  exact List.forall₂_eq_eq_eq ▸ hkeys

/-! ## Sorting forgets the order -/

/-- The order by a key is one that a list can be sorted in. -/
theorem key_le_trans {α : Type} (key : α → String) (a b c : α) :
    decide (key a ≤ key b) = true → decide (key b ≤ key c) = true →
      decide (key a ≤ key c) = true := by
  intro hab hbc
  exact decide_eq_true (String.le_trans (of_decide_eq_true hab) (of_decide_eq_true hbc))

theorem key_le_total {α : Type} (key : α → String) (a b : α) :
    (decide (key a ≤ key b) || decide (key b ≤ key a)) = true := by
  simpa using String.le_total (key a) (key b)

/-- Lists of the same items, no two of which have one key, are sorted into the same list. -/
theorem mergeSort_eq_of_perm {α : Type} (key : α → String) {l l' : List α} (h : l.Perm l')
    (hkeys : (l.map key).Nodup) :
    l.mergeSort (fun a b => decide (key a ≤ key b)) =
      l'.mergeSort (fun a b => decide (key a ≤ key b)) := by
  have hsorted : ∀ items : List α,
      (items.mergeSort fun a b => decide (key a ≤ key b)).Pairwise fun a b =>
        decide (key a ≤ key b) = true :=
    List.pairwise_mergeSort (key_le_trans key) (key_le_total key)
  refine List.Perm.eq_of_pairwise ?_ (hsorted l) (hsorted l') ?_
  · -- Two items that may stand in either order have one key, and then they are one item.
    intro a b ha hb hab hba
    have hkey : key a = key b :=
      String.le_antisymm (of_decide_eq_true hab) (of_decide_eq_true hba)
    have ha : a ∈ l := List.mem_mergeSort.mp ha
    have hb : b ∈ l := h.symm.subset (List.mem_mergeSort.mp hb)
    exact List.inj_on_of_nodup_map hkeys ha hb hkey
  · exact (List.mergeSort_perm l _).trans (h.trans (List.mergeSort_perm l' _).symm)

/-- The types of a survey, without the compiler's order. -/
theorem types_eq_of_perm (h : m.types.Perm n.types)
    (hnames : ((m.types.filter TypeInfo.mayExpand).map TypeInfo.fullName).Nodup) :
    (ofModule m).types = (ofModule n).types := by
  refine mergeSort_eq_of_perm ExpandableType.name (h.filterMap expandable?) ?_
  rw [map_filterMap_of_isSome isSome_expandable? fun _ _ => name_of_expandable?]
  exact hnames

/-- The expanders of a survey, without the compiler's order. -/
theorem expanders_eq_of_perm (h : m.functions.Perm n.functions)
    (hnames : ((m.functions.filter fun f => f.1.isExpander).map fun f => f.1.fullName).Nodup) :
    (ofModule m).expanders = (ofModule n).expanders := by
  refine mergeSort_eq_of_perm Expander.name (h.filterMap expander?) ?_
  rw [map_filterMap_of_isSome isSome_expander? fun _ _ h => (bound_of_expander? h).1]
  exact hnames

/-! ## The document of a survey -/

/-- The document that a survey is expanded to, or the fault that ends the expansion. -/
def document (s : Survey σ) : StateM σ (Except ExpansionFault String) := do
  match ← s.expand with
  | .ok fragments => pure (.ok (Document.ofFragments fragments))
  | .error fault => pure (.error fault)

/-- **The compiler's order does not show.** Take two modules with the same types and the same
functions, each with its own entry point, in any two orders. If no two types that may be expanded
share a name, and no two functions that are expanders, then the modules have one survey, and from
every state it is expanded to one document, or ends with one fault of one pair. -/
theorem survey_of_reordered (htypes : m.types.Perm n.types)
    (hfunctions : m.functions.Perm n.functions)
    (htypeNames : ((m.types.filter TypeInfo.mayExpand).map TypeInfo.fullName).Nodup)
    (hexpanderNames :
      ((m.functions.filter fun f => f.1.isExpander).map fun f => f.1.fullName).Nodup) :
    ofModule m = ofModule n ∧
      ∀ state, (ofModule m).document state = (ofModule n).document state := by
  have hsurvey : ofModule m = ofModule n := by
    have htypes' := types_eq_of_perm htypes htypeNames
    have hexpanders' := expanders_eq_of_perm hfunctions hexpanderNames
    calc ofModule m = ⟨(ofModule m).types, (ofModule m).expanders⟩ := rfl
      _ = ⟨(ofModule n).types, (ofModule n).expanders⟩ := by rw [htypes', hexpanders']
  exact ⟨hsurvey, fun state => by rw [hsurvey]⟩

/-! ## A module in two orders -/

/-- A function that names the type, and gives up on ants. -/
def nameOf : Entry Unit
  | [.typeDescriptor type] =>
    if type.fullName = "Ant" then pure (.error ⟨"too small"⟩)
    else pure (.ok (.string type.fullName))
  | _ => pure (.ok .unit)

/-- A module whose types and expanders are not listed by name. What is not expanded comes twice.
-/
def menagerie : CompiledModule Unit where
  name := "menagerie"
  types := [⟨"Emu", [.expandable [⟨"Name", false⟩]]⟩, .bare "cage", .bare "cage",
    ⟨"Ant", [.expandable [⟨"Name", false⟩], .expandable [⟨"Quiet", true⟩]]⟩]
  functions := [(.generator "say" [.expander "Name" false], nameOf), (.generator "feed" [], nameOf),
    (.generator "hum" [.expander "Quiet" true], fun _ => pure (.ok (.string "")))]
  image := ByteArray.empty
  location := none

/-- The same module, listed from the end. -/
def menagerieReversed : CompiledModule Unit :=
  { menagerie with
    types := menagerie.types.reverse
    functions := menagerie.functions.reverse }

/-- Both list the ant before the emu and `hum` before `say`, and both give up on the ant. -/
theorem survey_of_menagerie :
    ((menagerie.types.filter TypeInfo.mayExpand).map TypeInfo.fullName).Nodup ∧
    ofModule menagerie = ofModule menagerieReversed ∧
    (ofModule menagerieReversed).document () = (.error ⟨"say", "Ant", "too small"⟩, ()) := by
  have hnames : ((menagerie.types.filter TypeInfo.mayExpand).map TypeInfo.fullName).Nodup := by
    decide
  obtain ⟨hsurvey, -⟩ := survey_of_reordered (n := menagerieReversed)
    (List.reverse_perm _).symm (List.reverse_perm _).symm hnames (by decide)
  -- What is taken from the reversed lists is in the order of the names.
  have htypes : (ofModule menagerieReversed).types =
      menagerieReversed.types.filterMap expandable? :=
    List.mergeSort_of_pairwise (by decide)
  have hexpanders : (ofModule menagerieReversed).expanders =
      menagerieReversed.functions.filterMap expander? :=
    List.mergeSort_of_pairwise (by decide)
  refine ⟨hnames, hsurvey, ?_⟩
  unfold document expand
  rw [htypes, hexpanders]
  rfl

end Survey

end Expansion
