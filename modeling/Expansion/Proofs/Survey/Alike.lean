import Expansion.Proofs.Compiler.Warnings
import Expansion.Survey.Fragments

/-!
# Surveys of modules that are alike

Modules that are alike declare the same, and their functions do the same. A survey takes its order
from the names of what is declared, so it lists the same types, and expanders that do the same, in
one order (`CompiledModule.Alike.survey`); and the expansions are in lockstep, pair by pair
(`Act.Lockstep.fragments`).
-/

namespace Expansion

/-- Expanders for the same template that do the same. -/
structure Expander.Alike (e f : Expander Machine) : Prop where
  name : e.name = f.name
  template : e.template = f.template
  explicitUse : e.explicitUse = f.explicitUse
  calls : ∀ type, Act.Lockstep Eq (e.call type) (f.call type)

/-- Surveys with the same types, and with expanders that do the same in the same order. -/
structure Survey.Alike (s t : Survey Machine) : Prop where
  types : s.types = t.types
  expanders : List.Forall₂ Expander.Alike s.expanders t.expanders

/-! ## The same order -/

/-- Lists that are related item by item are still related when they are sorted, if related items
compare alike. -/
theorem forall₂_mergeSort {α β : Type} {R : α → β → Prop} {le : α → α → Bool} {le' : β → β → Bool}
    {l : List α} {l' : List β} (h : List.Forall₂ R l l')
    (hle : ∀ a a' b b', R a a' → R b b' → le a b = le' a' b') :
    List.Forall₂ R (l.mergeSort le) (l'.mergeSort le') := by
  -- The two lists are the two sides of one list of related pairs, and this one can be sorted.
  obtain ⟨both, rfl, rfl, hboth⟩ : ∃ both : List (α × β),
      both.map Prod.fst = l ∧ both.map Prod.snd = l' ∧ ∀ x ∈ both, R x.1 x.2 := by
    induction h with
    | nil => exact ⟨[], rfl, rfl, by simp⟩
    | @cons a b rest rest' hab _ ih =>
        obtain ⟨both, rfl, rfl, hboth⟩ := ih
        exact ⟨(a, b) :: both, rfl, rfl, List.forall_mem_cons.mpr ⟨hab, hboth⟩⟩
  have hfst : (both.mergeSort fun x y => le x.1 y.1).map Prod.fst = (both.map Prod.fst).mergeSort le :=
    List.map_mergeSort fun _ _ _ _ => rfl
  have hsnd : (both.mergeSort fun x y => le x.1 y.1).map Prod.snd =
      (both.map Prod.snd).mergeSort le' :=
    List.map_mergeSort fun x hx y hy => hle _ _ _ _ (hboth x hx) (hboth y hy)
  rw [← hfst, ← hsnd, List.forall₂_map_left_iff, List.forall₂_map_right_iff, List.forall₂_same]
  intro x hx
  exact hboth x (List.mem_mergeSort.mp hx)

namespace Act.Lockstep

/-- An expander is bound to an entry point alike. -/
theorem call {entry entry' : Entry Machine}
    (h : ∀ values, Lockstep Eq (entry values) (entry' values)) (name : String) (type : TypeInfo) :
    Lockstep Eq (Survey.bind name entry type) (Survey.bind name entry' type) := by
  refine seq (h _) ?_
  rintro answer _ rfl
  cases answer with
  | error fault => exact pure rfl
  | ok value => cases value <;> exact pure rfl

end Act.Lockstep

theorem SameFunction.expander {f g : FunctionInfo × Entry Machine} (h : SameFunction f g) :
    Option.Rel Expander.Alike (Survey.expander? f) (Survey.expander? g) := by
  obtain ⟨info, entry⟩ := f
  obtain ⟨info', entry'⟩ := g
  obtain ⟨rfl, hcalls⟩ : info = info' ∧ _ := h
  unfold Survey.expander?
  dsimp only
  split
  · exact .some ⟨rfl, rfl, rfl, fun type => Act.Lockstep.call hcalls _ type⟩
  · exact .none

namespace CompiledModule.Alike

variable {m n : Module}

/-- The same functions are left out. -/
theorem skipped (h : m.Alike n) : Survey.skipped m = Survey.skipped n := by
  unfold Survey.skipped
  rw [← List.forall₂_eq_eq_eq]
  refine List.rel_filterMap ?_ h.functions
  rintro ⟨info, entry⟩ ⟨info', entry'⟩ hsame
  obtain rfl : info = info' := hsame.1
  dsimp only
  split
  · exact .some rfl
  · exact .none

/-- Modules that are alike offer the same. -/
theorem survey (h : m.Alike n) : (Survey.ofModule m).Alike (Survey.ofModule n) where
  types := by
    unfold Survey.ofModule
    dsimp only
    rw [h.types]
  expanders := by
    have htaken : List.Forall₂ Expander.Alike (m.functions.filterMap Survey.expander?)
        (n.functions.filterMap Survey.expander?) :=
      List.rel_filterMap (fun _ _ hfg => hfg.expander) h.functions
    refine forall₂_mergeSort htaken ?_
    intro e e' f f' he hf
    rw [he.name, hf.name]

end CompiledModule.Alike

/-! ## The expansion -/

namespace Act.Lockstep

theorem fragment {e f : Expander Machine} (h : e.Alike f) (t : ExpandableType) :
    Lockstep Eq (Survey.fragment e t) (Survey.fragment f t) := by
  have happlies : e.appliesTo t = f.appliesTo t := by
    unfold Expander.appliesTo
    rw [h.template, h.explicitUse]
  unfold Survey.fragment
  rw [happlies, h.name]
  split
  · refine seq (h.calls _) ?_
    rintro answer _ rfl
    cases answer <;> exact pure rfl
  · exact pure rfl

/-- The first fault is the same, and so are the fragments before it. -/
theorem fragmentsOf {pairs pairs' : List (Expander Machine × ExpandableType)}
    (h : List.Forall₂ (fun x y => x.1.Alike y.1 ∧ x.2 = y.2) pairs pairs') :
    Lockstep Eq (Survey.fragmentsOf pairs) (Survey.fragmentsOf pairs') := by
  induction h with
  | nil => exact pure rfl
  | @cons x y rest rest' hxy _ ih =>
      obtain ⟨e, t⟩ := x
      obtain ⟨f, t'⟩ := y
      obtain ⟨halike, rfl⟩ : e.Alike f ∧ t = t' := hxy
      refine seq (fragment halike t) ?_
      rintro first _ rfl
      cases first with
      | error fault => exact pure rfl
      | ok text =>
          refine seq ih ?_
          rintro others _ rfl
          cases others <;> exact pure rfl

theorem fragments {s t : Survey Machine} (h : s.Alike t) : Lockstep Eq s.expand t.expand := by
  refine fragmentsOf ?_
  unfold Survey.pairs
  rw [h.types]
  refine List.rel_flatMap h.expanders ?_
  intro e f hef
  rw [List.forall₂_map_left_iff, List.forall₂_map_right_iff, List.forall₂_same]
  exact fun _ _ => ⟨hef, rfl⟩

end Act.Lockstep

end Expansion
