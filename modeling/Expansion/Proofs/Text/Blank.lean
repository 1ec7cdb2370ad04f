import Expansion.Text.Blank
import Mathlib.Data.List.TakeWhile

/-!
# Blanks at the end

A line break behind a text is nothing to one who trims it (`trim_newline`), and a text is blank
exactly when trimming leaves nothing (`isEmpty_trim`).
-/

namespace Expansion.Text

/-- Trimming leaves nothing exactly when there was nothing but blanks. -/
theorem trimChars_eq_nil_iff {cs : List Char} : trimChars cs = [] ↔ cs.all isBlank = true := by
  rw [List.all_eq_true, ← List.dropWhile_eq_nil_iff]
  unfold trimChars trimEndChars
  rw [List.reverse_eq_nil_iff, List.dropWhile_eq_nil_iff]
  constructor
  · intro h
    cases hrest : cs.dropWhile isBlank with
    | nil => rfl
    | cons c rest =>
        have hfirst := List.head?_dropWhile_not isBlank cs
        rw [hrest] at hfirst h
        have hc : isBlank c = true := h c (by simp)
        simp [hc] at hfirst
  · intro h
    simp [h]

theorem isBlankText_append (s t : String) :
    isBlankText (s ++ t) = (isBlankText s && isBlankText t) := by
  unfold isBlankText
  rw [String.toList_append, List.all_append]

theorem isEmpty_trim (s : String) : (trim s).isEmpty = isBlankText s := by
  rw [Bool.eq_iff_iff, String.isEmpty_iff, isBlankText, ← trimChars_eq_nil_iff, trim]
  constructor
  · intro h
    simpa using congrArg String.toList h
  · intro h
    rw [h]

theorem trimEndChars_blank {c : Char} (hc : isBlank c = true) (cs : List Char) :
    trimEndChars (cs ++ [c]) = trimEndChars cs := by
  unfold trimEndChars
  rw [List.reverse_append, List.reverse_singleton, List.singleton_append,
    List.dropWhile_cons_of_pos hc]

theorem trim_newline (s : String) : trim (s ++ "\n") = trim s := by
  have hend : (s ++ "\n").toList = s.toList ++ ['\n'] := String.toList_append
  unfold trim trimChars
  rw [hend, List.dropWhile_append]
  split
  · rename_i hblank
    rw [List.isEmpty_iff.mp hblank]
    rfl
  · rw [trimEndChars_blank rfl]

end Expansion.Text
