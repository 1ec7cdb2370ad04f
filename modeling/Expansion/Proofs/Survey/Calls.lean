import Expansion.Proofs.Machine.Compositional
import Expansion.Proofs.Survey.Order

/-!
# Who calls whom

An expansion calls the entry points of one module and nothing else: an expander of a survey is bound
to the entry point of a function of the module (`exists_of_mem_expanders`), and a pair has an
expander of the survey (`fst_mem_of_mem_pairs`). So what the entry points have in common the
expansion has too.
-/

namespace Expansion

namespace Survey

variable {σ : Type}

/-- An expander of a module's survey calls the entry point of one of the module's functions. -/
theorem exists_of_mem_expanders {m : CompiledModule σ} {e : Expander σ}
    (h : e ∈ (ofModule m).expanders) :
    ∃ f ∈ m.functions, e.call = bind f.1.fullName f.2 := by
  obtain ⟨f, hf, he⟩ := mem_expanders_iff.mp h
  exact ⟨f, hf, (bound_of_expander? he).2⟩

theorem fst_mem_of_mem_pairs {types : List ExpandableType} {expanders : List (Expander σ)}
    {pair : Expander σ × ExpandableType} (h : pair ∈ pairs types expanders) :
    pair.1 ∈ expanders := by
  obtain ⟨e, he, hpair⟩ := List.mem_flatMap.mp h
  obtain ⟨t, -, rfl⟩ := List.mem_map.mp hpair
  exact he

end Survey

namespace Act.Stepwise

variable {Q : ∀ {α : Type}, StateM Machine α → Prop}

theorem call (hQ : Stepwise Q) {name : String} {entry : Entry Machine} {type : TypeInfo}
    (hentry : Q (entry [.typeDescriptor type])) : Q (Survey.bind name entry type) := by
  refine hQ.seq hentry ?_
  intro answer _ _ _
  cases answer with
  | error fault => exact hQ.pure _
  | ok value => cases value <;> exact hQ.pure _

theorem fragment (hQ : Stepwise Q) {e : Expander Machine} {t : ExpandableType}
    (hcall : Q (e.call t.info)) : Q (Survey.fragment e t) := by
  unfold Survey.fragment
  split
  · refine hQ.seq hcall ?_
    intro answer _ _ _
    cases answer <;> exact hQ.pure _
  · exact hQ.pure _

theorem fragmentsOf (hQ : Stepwise Q) {pairs : List (Expander Machine × ExpandableType)}
    (hcalls : ∀ pair ∈ pairs, ∀ type, Q (pair.1.call type)) : Q (Survey.fragmentsOf pairs) := by
  induction pairs with
  | nil => exact hQ.pure _
  | cons pair rest ih =>
      obtain ⟨e, t⟩ := pair
      refine hQ.seq (hQ.fragment (hcalls (e, t) List.mem_cons_self _)) ?_
      intro first _ _ _
      cases first with
      | error fault => exact hQ.pure _
      | ok text =>
          refine hQ.seq (ih fun other h => hcalls other (List.mem_cons_of_mem _ h)) ?_
          intro others _ _ _
          cases others <;> exact hQ.pure _

/-- An expansion has what the entry points of the module have. -/
theorem fragments (hQ : Stepwise Q) {m : CompiledModule Machine}
    (hcalls : ∀ f ∈ m.functions, ∀ values, Q (f.2 values)) :
    Q (Survey.ofModule m).expand := by
  refine hQ.fragmentsOf ?_
  intro pair hpair type
  obtain ⟨f, hf, hcall⟩ := Survey.exists_of_mem_expanders (Survey.fst_mem_of_mem_pairs hpair)
  rw [hcall]
  exact hQ.call (hcalls f hf _)

end Act.Stepwise

end Expansion
