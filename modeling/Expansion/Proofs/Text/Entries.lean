import Mathlib.Data.List.Nodup

/-!
# Entries in the order of their names

The texts of expanders and the templates of a type are kept in the same way: a list with one entry
for each name, in the order of names, that grows one entry at a time. What the two do with an entry
that is there already is a parameter here (`put`).

* **One entry is put and the others stay** (`lookup_put`), and the order stays (`sorted_put`).
* Entries that are in order already are put one behind the other (`put_of_greatest`).
-/

namespace Expansion

/-- Values by name. -/
abbrev Entries (α : Type) := List (String × α)

namespace Entries

variable {α : Type} {entries : Entries α} {name other : String} {value : Option α → α}

/-- The entries with the name's one renewed, from what it was if it was there. -/
def put (name : String) (value : Option α → α) : Entries α → Entries α
  | [] => [(name, value none)]
  | (other, old) :: rest =>
    if name = other then (other, value (some old)) :: rest
    else if name < other then (name, value none) :: (other, old) :: rest
    else (other, old) :: put name value rest

/-- Each name comes once, and they are in order. -/
def Sorted (entries : Entries α) : Prop := entries.Pairwise fun a b => a.1 < b.1

theorem lt_of_not_lt {a b : String} (hne : a ≠ b) (hlt : ¬a < b) : b < a := by
  by_cases h : b < a
  · exact h
  · exact absurd (String.le_antisymm (String.not_lt.mp h) (String.not_lt.mp hlt)) hne

/-- The names are the old ones and the new one. -/
theorem name_of_mem_put {entry : String × α} (h : entry ∈ put name value entries) :
    entry.1 = name ∨ ∃ old ∈ entries, entry.1 = old.1 := by
  induction entries with
  | nil => exact .inl (congrArg Prod.fst (List.mem_singleton.mp h))
  | cons first rest ih =>
      obtain ⟨other, old⟩ := first
      unfold put at h
      split at h
      · rcases List.mem_cons.mp h with rfl | hrest
        · exact .inr ⟨(other, old), List.mem_cons_self, rfl⟩
        · exact .inr ⟨entry, List.mem_cons_of_mem _ hrest, rfl⟩
      · split at h
        · rcases List.mem_cons.mp h with rfl | hold
          · exact .inl rfl
          · exact .inr ⟨entry, hold, rfl⟩
        · rcases List.mem_cons.mp h with rfl | hrest
          · exact .inr ⟨(other, old), List.mem_cons_self, rfl⟩
          · rcases ih hrest with hnew | ⟨kept, hkept, hname⟩
            · exact .inl hnew
            · exact .inr ⟨kept, List.mem_cons_of_mem _ hkept, hname⟩

theorem sorted_put (h : Sorted entries) : Sorted (put name value entries) := by
  induction entries with
  | nil => exact List.pairwise_singleton _ _
  | cons first rest ih =>
      obtain ⟨other, old⟩ := first
      obtain ⟨hfirst, hrest⟩ := List.pairwise_cons.mp h
      unfold put
      split
      · exact List.pairwise_cons.mpr ⟨hfirst, hrest⟩
      · rename_i hother
        split
        · rename_i hbefore
          refine List.pairwise_cons.mpr ⟨fun entry hentry => ?_, h⟩
          rcases List.mem_cons.mp hentry with rfl | hentry
          · exact hbefore
          · exact String.lt_trans hbefore (hfirst entry hentry)
        · rename_i hbehind
          refine List.pairwise_cons.mpr ⟨fun entry hentry => ?_, ih hrest⟩
          rcases name_of_mem_put hentry with hnew | ⟨kept, hkept, hname⟩
          · rw [hnew]
            exact lt_of_not_lt hother hbehind
          · rw [hname]
            exact hfirst kept hkept

/-- A name that comes before all others is not among them. -/
theorem lookup_of_least (h : ∀ entry ∈ entries, name < entry.1) : entries.lookup name = none := by
  rw [List.lookup_eq_none_iff]
  intro entry hentry
  have hne : name ≠ entry.1 := by
    intro heq
    exact String.lt_irrefl _ (heq ▸ h entry hentry)
  simpa using hne

theorem lookup_put (h : Sorted entries) (name : String) (value : Option α → α) (other : String) :
    (put name value entries).lookup other =
      if other = name then some (value (entries.lookup name)) else entries.lookup other := by
  induction entries with
  | nil =>
      by_cases hname : other = name
      · simp [put, hname]
      · simp [put, List.lookup_cons, hname, beq_eq_false_iff_ne.mpr hname]
  | cons first rest ih =>
      obtain ⟨key, old⟩ := first
      obtain ⟨hfirst, hrest⟩ := List.pairwise_cons.mp h
      unfold put
      split
      · rename_i hsame
        subst hsame
        by_cases hname : other = name
        · simp [hname]
        · simp [List.lookup_cons, hname, beq_eq_false_iff_ne.mpr hname]
      · rename_i hkey
        split
        · rename_i hbefore
          have hnew : List.lookup name ((key, old) :: rest) = none := by
            refine lookup_of_least fun entry hentry => ?_
            rcases List.mem_cons.mp hentry with rfl | hentry
            · exact hbefore
            · exact String.lt_trans hbefore (hfirst entry hentry)
          rw [hnew]
          by_cases hname : other = name
          · simp [hname]
          · rw [List.lookup_cons, beq_eq_false_iff_ne.mpr hname, if_neg hname]
        · rw [List.lookup_cons, List.lookup_cons, List.lookup_cons, ih hrest,
            beq_eq_false_iff_ne.mpr hkey]
          by_cases hname : other = name
          · subst hname
            simp [beq_eq_false_iff_ne.mpr hkey]
          · rw [if_neg hname, if_neg hname]

/-- An entry is what its name is looked up to. -/
theorem mem_iff_lookup (h : Sorted entries) (name : String) (a : α) :
    (name, a) ∈ entries ↔ entries.lookup name = some a := by
  induction entries with
  | nil => simp
  | cons first rest ih =>
      obtain ⟨other, old⟩ := first
      obtain ⟨hfirst, hrest⟩ := List.pairwise_cons.mp h
      rw [List.mem_cons, List.lookup_cons, ih hrest]
      by_cases hname : name = other
      · subst hname
        simp [lookup_of_least hfirst, eq_comm]
      · simp [hname, beq_eq_false_iff_ne.mpr hname]

/-- Behind all names before it, an entry is put at the end. -/
theorem put_of_greatest (h : ∀ entry ∈ entries, entry.1 < name) :
    put name value entries = entries ++ [(name, value none)] := by
  induction entries with
  | nil => rfl
  | cons first rest ih =>
      obtain ⟨other, old⟩ := first
      have hbefore : other < name := h (other, old) List.mem_cons_self
      have hne : name ≠ other := by
        rintro rfl
        exact String.lt_irrefl _ hbefore
      rw [put, if_neg hne, if_neg (String.lt_asymm hbefore),
        ih fun entry hentry => h entry (List.mem_cons_of_mem _ hentry)]
      rfl

end Entries

end Expansion
