import Expansion.Text.Blank
import Mathlib.Data.List.TakeWhile

/-!
# What trimming leaves

`Trims s t` says what is left of a text without the blanks at its ends, without saying how it is
found: the text is `t` between blanks, and `t` neither begins nor ends with one. `trim` finds it, and
there is no other (`trims_iff`).
-/

namespace Expansion.Text

variable {cs back : List Char} {s t : String}

/-- The text `s` is `t` between blanks, and `t` has none at its ends. -/
structure Trims (s t : String) : Prop where
  around : ∃ front back : List Char, s.toList = front ++ t.toList ++ back ∧
    (∀ c ∈ front, isBlank c = true) ∧ ∀ c ∈ back, isBlank c = true
  first : ∀ c ∈ t.toList.head?, isBlank c = false
  last : ∀ c ∈ t.toList.getLast?, isBlank c = false

/-- Nothing is dropped from what does not begin with a blank. -/
theorem dropWhile_of_head (h : ∀ c ∈ cs.head?, isBlank c = false) : cs.dropWhile isBlank = cs := by
  cases cs with
  | nil => rfl
  | cons c rest => rw [List.dropWhile_cons_of_neg (by simp [h c rfl])]

theorem head?_dropWhile (cs : List Char) : ∀ c ∈ (cs.dropWhile isBlank).head?, isBlank c = false := by
  intro c hc
  have hnot := List.head?_dropWhile_not isBlank cs
  rw [Option.mem_def.mp hc] at hnot
  exact hnot

theorem trimEndChars_append (hlast : ∀ c ∈ cs.getLast?, isBlank c = false)
    (hback : ∀ c ∈ back, isBlank c = true) : trimEndChars (cs ++ back) = cs := by
  unfold trimEndChars
  rw [List.reverse_append, List.dropWhile_append_of_pos (by simpa using hback),
    dropWhile_of_head (by simpa using hlast), List.reverse_reverse]

/-- What is left at the end, and the blanks that were behind it. -/
theorem exists_trimEndChars (cs : List Char) : ∃ back, cs = trimEndChars cs ++ back ∧
    (∀ c ∈ back, isBlank c = true) ∧ ∀ c ∈ (trimEndChars cs).getLast?, isBlank c = false := by
  refine ⟨(cs.reverse.takeWhile isBlank).reverse, ?_, ?_, ?_⟩
  · unfold trimEndChars
    rw [← List.reverse_append, List.takeWhile_append_dropWhile, List.reverse_reverse]
  · intro c hc
    exact List.mem_takeWhile_imp (List.mem_reverse.mp hc)
  · unfold trimEndChars
    rw [List.getLast?_reverse]
    exact head?_dropWhile cs.reverse

/-- **Trimming finds what is between the blanks**, and nothing else is. -/
theorem trims_iff : Trims s t ↔ t = trim s := by
  constructor
  · rintro ⟨⟨front, back, htext, hfront, hback⟩, hfirst, hlast⟩
    unfold trim trimChars
    rw [htext, List.append_assoc, List.dropWhile_append_of_pos hfront]
    cases hchars : t.toList with
    | nil =>
        rw [List.nil_append, List.dropWhile_eq_nil_iff.mpr hback]
        exact String.toList_inj.mp hchars
    | cons c rest =>
        rw [← hchars, dropWhile_of_head, trimEndChars_append hlast hback, String.ofList_toList]
        simpa [hchars] using hfirst
  · rintro rfl
    obtain ⟨back, hrest, hback, hlast⟩ := exists_trimEndChars (s.toList.dropWhile isBlank)
    have hchars : (trim s).toList = trimEndChars (s.toList.dropWhile isBlank) :=
      String.toList_ofList
    rw [← hchars] at hrest hlast
    refine ⟨⟨s.toList.takeWhile isBlank, back, ?_, fun c hc => List.mem_takeWhile_imp hc, hback⟩,
      ?_, hlast⟩
    · rw [List.append_assoc, ← hrest, List.takeWhile_append_dropWhile]
    · have hhead := head?_dropWhile s.toList
      rw [hrest] at hhead
      intro c hc
      exact hhead c (by simp [Option.mem_def.mp hc])

end Expansion.Text
