import Expansion.Proofs.Text.Entries
import Expansion.Survey.Basic

/-!
# What a type asks for

The templates of a type are put together from its requests one by one, and what comes out is what
the requests say together.

* **A type asks for a template if one of its requests names it** (`isSome_lookup_templatesOf`), and
  it asks for it explicitly if one that names it is explicit (`getD_lookup_templatesOf`).
-/

namespace Expansion

/-- A template is explicit from the first request on that is. -/
theorem Templates.insert_eq_put (name : String) (explicit : Bool) (templates : Templates) :
    Templates.insert name explicit templates =
      Entries.put name (fun old? => old?.getD false || explicit) templates := by
  induction templates with
  | nil => rfl
  | cons first rest ih =>
      obtain ⟨other, old⟩ := first
      unfold Templates.insert Entries.put
      rw [ih]
      rfl

/-- The order of the templates stays. -/
theorem Templates.sorted_insert {templates : Templates} (h : Entries.Sorted templates)
    (name : String) (explicit : Bool) :
    Entries.Sorted (Templates.insert name explicit templates) := by
  rw [Templates.insert_eq_put]
  exact Entries.sorted_put h

namespace Survey

variable {templates : Templates}

theorem lookup_foldl_insert (h : Entries.Sorted templates) (requests : List TemplateRequest)
    (template : String) :
    let all := requests.foldl
      (fun templates request => Templates.insert request.name request.explicit templates) templates
    (all.lookup template).isSome =
        ((templates.lookup template).isSome || requests.any fun r => r.name == template) ∧
      (all.lookup template).getD false = ((templates.lookup template).getD false ||
        requests.any fun r => r.name == template && r.explicit) := by
  induction requests generalizing templates with
  | nil => simp
  | cons r rest ih =>
      have hput := Templates.insert_eq_put r.name r.explicit templates
      obtain ⟨hsome, hexplicit⟩ := ih (Templates.sorted_insert h r.name r.explicit)
      dsimp only at hsome hexplicit ⊢
      rw [List.foldl_cons, hsome, hexplicit, hput, Entries.lookup_put h, List.any_cons,
        List.any_cons]
      by_cases hname : template = r.name
      · subst hname
        simp [Bool.or_assoc]
      · have hother : (r.name == template) = false := beq_eq_false_iff_ne.mpr (Ne.symm hname)
        simp [hname, hother]

/-- The templates of some requests are in the order of names, with one entry for each. -/
theorem sorted_templatesOf (requests : List TemplateRequest) :
    Entries.Sorted (templatesOf requests) :=
  List.foldlRecOn requests _ List.Pairwise.nil fun _ h request _ =>
    Templates.sorted_insert h request.name request.explicit

/-- A type asks for a template if one of its requests names it. -/
theorem isSome_lookup_templatesOf (requests : List TemplateRequest) (template : String) :
    ((templatesOf requests).lookup template).isSome =
      requests.any fun r => r.name == template :=
  (lookup_foldl_insert List.Pairwise.nil requests template).1.trans (Bool.false_or _)

/-- It asks for it explicitly if an explicit one names it. -/
theorem getD_lookup_templatesOf (requests : List TemplateRequest) (template : String) :
    ((templatesOf requests).lookup template).getD false =
      requests.any fun r => r.name == template && r.explicit :=
  (lookup_foldl_insert List.Pairwise.nil requests template).2.trans (Bool.false_or _)

end Survey

end Expansion
