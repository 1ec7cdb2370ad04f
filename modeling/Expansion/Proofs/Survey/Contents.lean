import Expansion.Proofs.Survey.Answers
import Expansion.Proofs.Survey.Order
import Expansion.Proofs.Survey.Templates
import Expansion.Proofs.Workbench.Scan

/-!
# What is in a survey

A survey takes the types that may be expanded and the functions that expand them, each as it stands
in the catalog and as often as it stands there.

* **`StablySorted`**: a list in the order of names, in which the items of one name are in the order
  of the catalog. There is only one such list of the same items.
* **`ExpandableType.OfType`** says what is known of a type: its description as it is, and each
  template that one of its requests names, marked if an explicit one does.
* **`Expander.OfFunction`** says what is known of a function: the template and the use of its first
  mark, and that a call is one call of its own entry point with nothing but the type.
* **`surveyModule_contents`**: a survey is made of these and of nothing else. What it leaves behind
  depends on the catalog alone, for no entry point is called.
-/

namespace Expansion

/-- Whether the attribute marks a function as an expander. -/
def Attribute.isExpander : Attribute → Bool
  | .expander _ _ => true
  | _ => false

/-- Whether the function is marked as an expander, stands in the module itself, and makes a text of
the description of a type and of nothing else. -/
def FunctionInfo.expands (f : FunctionInfo) : Bool :=
  f.attributes.any Attribute.isExpander && f.scope = .module && f.returns = .string &&
    f.params.map Param.type = [.typeDescriptor]

/-- Whether one of the attributes makes the request. -/
def Attribute.Asked (attributes : List Attribute) (request : TemplateRequest) : Prop :=
  ∃ requests, .expandable requests ∈ attributes ∧ request ∈ requests

/-- Whether an attribute of the type makes the request. -/
def TypeInfo.Asks (t : TypeInfo) (request : TemplateRequest) : Prop :=
  Attribute.Asked t.attributes request

/-- The expandable type that a type is surveyed as: unchanged, with one entry for each template that
it asks for, marked if one of the requests for it is explicit. -/
structure ExpandableType.OfType (info : TypeInfo) (t : ExpandableType) : Prop where
  unchanged : t.info = info
  sorted : Entries.Sorted t.templates
  templates : ∀ name marked, (name, marked) ∈ t.templates ↔
    (∃ request, info.Asks request ∧ request.name = name) ∧
      (marked = true ↔ ∃ request, info.Asks request ∧ request.name = name ∧ request.explicit = true)

/-- The text that a function answered: the fault it gave up with, or a fault where it answered
something else than a text. -/
def Expander.textOf (name : String) : Except Fault Value → Except Fault String
  | .ok (.string text) => .ok text
  | .ok other => .error ⟨name ++ " returned " ++ other.describe ++ " instead of a string"⟩
  | .error fault => .error fault

/-- The expander that a function is surveyed as: with the template and the use of the first mark,
and bound to the function's entry point. -/
structure Expander.OfFunction {σ : Type} (f : FunctionInfo × Entry σ) (e : Expander σ) : Prop where
  name : e.name = f.1.fullName
  mark : ∃ before after, f.1.attributes = before ++ .expander e.template e.explicitUse :: after ∧
    before.any Attribute.isExpander = false
  call : ∀ type n, e.call type n =
    (textOf f.1.fullName (f.2 [.typeDescriptor type] n).1, (f.2 [.typeDescriptor type] n).2)

namespace Attribute

variable {tags : List Attribute} {request : TemplateRequest}

@[simp] theorem asked_expandable {requests : List TemplateRequest} :
    Asked (.expandable requests :: tags) request ↔ request ∈ requests ∨ Asked tags request := by
  constructor
  · rintro ⟨found, htag, hmem⟩
    rcases List.mem_cons.mp htag with heq | hlater
    · cases heq
      exact .inl hmem
    · exact .inr ⟨found, hlater, hmem⟩
  · rintro (hmem | ⟨found, htag, hmem⟩)
    · exact ⟨requests, List.mem_cons_self, hmem⟩
    · exact ⟨found, List.mem_cons_of_mem _ htag, hmem⟩

theorem asked_other {tag : Attribute} (h : tag.isExpandable = false) :
    Asked (tag :: tags) request ↔ Asked tags request := by
  constructor
  · rintro ⟨found, htag, hmem⟩
    rcases List.mem_cons.mp htag with heq | hlater
    · rw [← heq] at h
      cases h
    · exact ⟨found, hlater, hmem⟩
  · rintro ⟨found, htag, hmem⟩
    exact ⟨found, List.mem_cons_of_mem _ htag, hmem⟩

end Attribute

namespace Survey

variable {σ : Type}

/-- The items of a list in the order of their names, those of one name in the order of the list. -/
structure StablySorted {α : Type} (name : α → String) (listed sorted : List α) : Prop where
  ordered : sorted.Pairwise fun a b => name a ≤ name b
  stable : ∀ key, (sorted.filter fun a => name a = key) = listed.filter fun a => name a = key

/-- What a survey of a module is made of. -/
structure Contents (m : CompiledModule σ) (s : Survey σ) : Prop where
  types : ∃ listed,
    List.Forall₂ ExpandableType.OfType (m.types.filter TypeInfo.mayExpand) listed ∧
      StablySorted ExpandableType.name listed s.types
  expanders : ∃ listed,
    List.Forall₂ Expander.OfFunction (m.functions.filter fun f => f.1.expands) listed ∧
      StablySorted Expander.name listed s.expanders

/-! ## The order -/

/-- The items of one name are in order already, and sorting keeps what is in order. -/
theorem stablySorted_mergeSort {α : Type} (name : α → String) (listed : List α) :
    StablySorted name listed (listed.mergeSort fun a b => decide (name a ≤ name b)) where
  ordered := (List.pairwise_mergeSort (key_le_trans name) (key_le_total name) listed).imp
    of_decide_eq_true
  stable key := by
    have hordered : (listed.filter fun a => name a = key).Pairwise fun a b =>
        decide (name a ≤ name b) = true := by
      refine List.pairwise_of_forall_mem_list fun a ha b hb => ?_
      have ha : name a = key := by simpa using (List.mem_filter.mp ha).2
      have hb : name b = key := by simpa using (List.mem_filter.mp hb).2
      rw [ha, hb]
      exact decide_eq_true (String.le_refl key)
    have hkept := (List.sublist_mergeSort (key_le_trans name) (key_le_total name) hordered
      List.filter_sublist).filter fun a => name a = key
    rw [List.filter_filter] at hkept
    simp only [Bool.and_self] at hkept
    exact (hkept.eq_of_length
      ((List.mergeSort_perm listed _).symm.filter fun a => name a = key).length_eq).symm

/-! ## Types -/

theorem mem_requestsOf? (attributes : List Attribute) (request : TemplateRequest) :
    request ∈ (requestsOf? attributes).getD [] ↔ Attribute.Asked attributes request := by
  induction attributes with
  | nil => simp [requestsOf?, Attribute.Asked]
  | cons tag rest ih =>
      cases tag with
      | expandable templates =>
          have hrest : requestsOf? (.expandable templates :: rest) =
              some (templates ++ (requestsOf? rest).getD []) := rfl
          rw [hrest, Option.getD_some, List.mem_append, ih, Attribute.asked_expandable]
      | expander | other =>
          rw [Attribute.asked_other rfl, ← ih]
          rfl

theorem asks_iff_mem {info : TypeInfo} {requests : List TemplateRequest}
    (h : requestsOf? info.attributes = some requests) (request : TemplateRequest) :
    info.Asks request ↔ request ∈ requests := by
  have hmem := mem_requestsOf? info.attributes request
  rw [h, Option.getD_some] at hmem
  exact hmem.symm

/-- A type accepts the templates that its requests name. -/
theorem accepts_iff {info : TypeInfo} {t : ExpandableType} (h : expandable? info = some t)
    (template : String) :
    t.accepts template = true ↔ ∃ request, info.Asks request ∧ request.name = template := by
  obtain ⟨requests, hrequests, rfl⟩ := Option.map_eq_some_iff.mp h
  unfold ExpandableType.accepts
  rw [isSome_lookup_templatesOf]
  simp [asks_iff_mem hrequests]

/-- It requests those that an explicit one names. -/
theorem requests_iff {info : TypeInfo} {t : ExpandableType} (h : expandable? info = some t)
    (template : String) :
    t.requests template = true ↔
      ∃ request, info.Asks request ∧ request.name = template ∧ request.explicit = true := by
  obtain ⟨requests, hrequests, rfl⟩ := Option.map_eq_some_iff.mp h
  unfold ExpandableType.requests
  rw [getD_lookup_templatesOf]
  simp [asks_iff_mem hrequests]

theorem sorted_templates {info : TypeInfo} {t : ExpandableType} (h : expandable? info = some t) :
    Entries.Sorted t.templates := by
  obtain ⟨requests, -, rfl⟩ := Option.map_eq_some_iff.mp h
  exact sorted_templatesOf requests

theorem ofType_of_expandable? {info : TypeInfo} {t : ExpandableType}
    (h : expandable? info = some t) : ExpandableType.OfType info t := by
  refine ⟨info_of_expandable? h, sorted_templates h, fun name marked => ?_⟩
  rw [Entries.mem_iff_lookup (sorted_templates h), ← accepts_iff h, ← requests_iff h]
  unfold ExpandableType.accepts ExpandableType.requests
  cases t.templates.lookup name with
  | none => simp
  | some found => cases found <;> cases marked <;> simp

/-! ## Functions -/

theorem isSome_expanderTag? (attributes : List Attribute) :
    (expanderTag? attributes).isSome = attributes.any Attribute.isExpander := by
  induction attributes with
  | nil => rfl
  | cons tag rest ih =>
      rw [List.any_cons, ← ih]
      cases tag <;> simp [expanderTag?, Attribute.isExpander]

theorem isNone_misshape? (f : FunctionInfo) :
    (misshape? f).isNone = (f.scope = .module && f.returns = .string &&
      f.params.map Param.type = [.typeDescriptor]) := by
  unfold misshape?
  by_cases hscope : f.scope = .module
  · by_cases hreturns : f.returns = .string
    · rw [if_neg (not_not_intro hscope), if_neg (not_not_intro hreturns), decide_eq_true hscope,
        decide_eq_true hreturns]
      rcases f.params with _ | ⟨param, _ | ⟨second, others⟩⟩
      · rfl
      · by_cases hparam : param.type = .typeDescriptor <;> simp [hparam]
      · simp
    · simp [hscope, hreturns]
  · simp [hscope]

theorem isExpander_eq_expands (f : FunctionInfo) : f.isExpander = f.expands := by
  unfold FunctionInfo.isExpander FunctionInfo.expands
  rw [isSome_expanderTag?, isNone_misshape?]
  simp only [Bool.and_assoc]

theorem ofFunction_of_expander? {f : FunctionInfo × Entry σ} {e : Expander σ}
    (h : expander? f = some e) : Expander.OfFunction f e := by
  unfold expander? at h
  split at h
  · rename_i template explicitUse htag _
    cases h
    refine ⟨rfl, ?_, fun type n => ?_⟩
    · obtain ⟨before, mark, after, hattributes, hmark, hbefore⟩ :=
        List.findSome?_eq_some_iff.mp htag
      refine ⟨before, after, ?_, ?_⟩
      · cases mark with
        | expander =>
            cases hmark
            exact hattributes
        | expandable | other => cases hmark
      · rw [List.any_eq_false]
        intro tag htag
        have hother := hbefore tag htag
        cases tag with
        | expander => cases hother
        | expandable | other => exact Bool.false_ne_true
    · show bind f.1.fullName f.2 type n = _
      unfold bind
      cases hcall : f.2 [.typeDescriptor type] n with
      | mk answer after =>
          rw [bind_of_eq hcall]
          cases answer with
          | error fault => rfl
          | ok value => cases value <;> rfl
  · cases h

/-! ## The survey -/

/-- What is taken of a module's types, in the order of the catalog. -/
theorem taken_types (m : CompiledModule σ) :
    List.Forall₂ ExpandableType.OfType (m.types.filter TypeInfo.mayExpand)
      (m.types.filterMap expandable?) :=
  forall₂_filterMap isSome_expandable? (fun _ _ => ofType_of_expandable?) m.types

/-- What is taken of its functions. -/
theorem taken_functions (m : CompiledModule σ) :
    List.Forall₂ Expander.OfFunction (m.functions.filter fun f => f.1.expands)
      (m.functions.filterMap expander?) :=
  forall₂_filterMap (fun f => (isSome_expander? f).trans (isExpander_eq_expands f.1))
    (fun _ _ => ofFunction_of_expander?) m.functions

/-- A module's survey is made of the module's types and functions. -/
theorem contents_ofModule (m : CompiledModule σ) : Contents m (ofModule m) where
  types := ⟨_, taken_types m, stablySorted_mergeSort ExpandableType.name _⟩
  expanders := ⟨_, taken_functions m, stablySorted_mergeSort Expander.name _⟩

theorem length_types (m : CompiledModule σ) :
    (ofModule m).types.length = (m.catalog.types.filter TypeInfo.mayExpand).length :=
  (List.length_mergeSort _).trans (taken_types m).length_eq.symm

theorem length_expanders (m : CompiledModule σ) :
    (ofModule m).expanders.length =
      (m.catalog.functions.filter FunctionInfo.expands).length := by
  rw [CompiledModule.catalog, List.filter_map, List.length_map]
  exact (List.length_mergeSort _).trans (taken_functions m).length_eq.symm

/-- The functions of a catalog that are marked as expanders but have another shape. -/
def misshapen (catalog : Catalog) : List (String × Misshape) :=
  (catalog.functions.filter fun f => f.attributes.any Attribute.isExpander).filterMap fun f =>
    (misshape? f).map fun misshape => (f.fullName, misshape)

theorem skipped_eq_misshapen (m : CompiledModule σ) : skipped m = misshapen m.catalog := by
  unfold skipped misshapen CompiledModule.catalog
  rw [List.filterMap_filter, List.filterMap_map]
  refine List.filterMap_congr ?_
  rintro ⟨f, entry⟩ -
  rw [Function.comp_apply, ← isSome_expanderTag?]
  cases htag : expanderTag? f.attributes with
  | none => simp only [htag, Option.isSome_none, Bool.false_eq_true, if_false]
  | some tag => cases hshape : misshape? f <;> simp only [htag, hshape] <;> rfl

end Survey

namespace Workbench

/-- The machine that a survey of a catalog leaves: nothing but details are logged, one for each
function that is marked as an expander and has another shape, and one with the sizes of the survey.
-/
def logSurvey (name : String) (catalog : Catalog) (m : Machine) : Machine :=
  ((Survey.misshapen catalog).foldl
    (fun m f => m.log .debug .survey "skipping tagged function with unsupported shape"
      [("function", .text f.1), ("reason", .text f.2.message)] none) m).log
    .debug .survey "scanned module"
    [("module", .text name), ("types", .number (catalog.types.filter TypeInfo.mayExpand).length),
      ("expanders", .number (catalog.functions.filter FunctionInfo.expands).length)] none

/-- **A survey is what the catalog offers.** It always succeeds; its types and its expanders are
those of the catalog, each as often as it is there and in the stable order of names, and the machine
that it leaves is a matter of the name and the catalog: no entry point is called. -/
theorem surveyModule_contents (module : Module) (m : Machine) :
    ∃ s, surveyModule module m = (.ok s, logSurvey module.name module.catalog m) ∧
      Survey.Contents module s := by
  refine ⟨Survey.ofModule module, ?_, Survey.contents_ofModule module⟩
  have hskipped : (Survey.skipped module).forM announceSkipped m =
      (.ok (), (Survey.skipped module).foldl (fun m f => (announceSkipped f m).2) m) :=
    Act.forM_modify (fun f m => (announceSkipped f m).2) _ m
  unfold surveyModule logSurvey
  rw [Act.bind_of_ok hskipped, Survey.skipped_eq_misshapen, ← Survey.length_types,
    ← Survey.length_expanders]
  rfl

end Workbench

end Expansion
