import Expansion.Text.Lowercase

/-!
# Lower case and signs

Taking the lower case of a text makes no signs, such as dots and slashes, and leaves nothing of the
text out, so the lower case of a name is a name still.

* **No letter becomes a character in front of the digits**, where the signs of a path are
  (`sign_not_mem_lowercase`).
* Only the empty text has an empty lower case (`eq_empty_of_lowercase`).
-/

namespace Expansion.Text

/-- Beyond ASCII, no letter has a lower case in front of the digits. -/
theorem lowerRuns_high :
    lowerRuns.all (fun (first, _, _, distance) => decide ((0x30 : Int) ≤ first + distance)) =
      true := by
  decide +kernel

/-- A character in front of the digits, but for the first one of all. -/
structure IsSign (sign : Char) : Prop where
  above : 0 < sign.toNat
  below : sign.toNat < 0x30

section

variable {sign : Char}

theorem IsSign.high_ne (h : IsSign sign) {c : Char} (hc : 0x30 ≤ c.toNat) : c ≠ sign := by
  rintro rfl
  exact absurd h.below (Nat.not_lt.mpr hc)

/-- No number from the digits on is the number of a sign. -/
theorem IsSign.ofNat_ne (h : IsSign sign) {n : Nat} (hn : 0x30 ≤ n) : Char.ofNat n ≠ sign := by
  intro heq
  by_cases hvalid : n.isValidChar
  · have hchar : Char.ofNat n = Char.ofNatAux n hvalid := dif_pos hvalid
    have hnat : n = sign.toNat := congrArg Char.toNat (hchar.symm.trans heq)
    have hbelow := h.below
    omega
  · -- not a character at all, so `Char.ofNat` gives the character with number zero
    have hchar : Char.ofNat n = '\x00' := dif_neg hvalid
    have hzero : 0 = sign.toNat := congrArg Char.toNat (hchar.symm.trans heq)
    have habove := h.above
    omega

theorem IsSign.toLower_ne (h : IsSign sign) {c : Char} (hc : c ≠ sign) : c.toLower ≠ sign := by
  unfold Char.toLower
  split
  · rename_i hupper
    apply h.high_ne
    show 0x30 ≤ (c.val + ('a'.val - 'A'.val)).toNat
    have hlow : 65 ≤ c.val.toNat := UInt32.le_iff_toNat_le.mp hupper.1
    have hhigh : c.val.toNat ≤ 90 := UInt32.le_iff_toNat_le.mp hupper.2
    have hdistance : ('a'.val - 'A'.val).toNat = 32 := rfl
    rw [UInt32.toNat_add]
    omega
  · exact hc

theorem IsSign.lowerChar_ne (h : IsSign sign) {c : Char} (hc : c ≠ sign) : lowerChar c ≠ sign := by
  unfold lowerChar
  dsimp only
  split
  · exact h.toLower_ne hc
  · split
    · rename_i first last step distance hfind
      have hrun := List.find?_some hfind
      have hhigh := List.all_eq_true.mp lowerRuns_high _ (List.mem_of_find?_eq_some hfind)
      simp only [Bool.and_eq_true, decide_eq_true_eq] at hrun hhigh
      refine h.ofNat_ne ?_
      omega
    · exact hc

theorem IsSign.not_mem_lowerFrom (h : IsSign sign) {before cs : List Char} (hcs : sign ∉ cs) :
    sign ∉ lowerFrom before cs := by
  induction cs generalizing before with
  | nil => exact hcs
  | cons c rest ih =>
      rw [List.mem_cons, not_or] at hcs
      -- the letters of the two special rules are all behind the digits
      have hnot : ∀ low : Char, low ≠ sign → sign ∉ [low] := fun low hlow hmem =>
        hlow (List.mem_singleton.mp hmem).symm
      unfold lowerFrom
      dsimp only
      rw [List.mem_append, not_or]
      refine ⟨?_, ih hcs.2⟩
      split
      · apply hnot
        split
        · exact h.high_ne (by decide)
        · exact h.high_ne (by decide)
      · split
        · rw [List.mem_cons, not_or]
          exact ⟨Ne.symm (h.high_ne (by decide)), hnot _ (h.high_ne (by decide))⟩
        · exact hnot _ (h.lowerChar_ne (Ne.symm hcs.1))

/-- The lower case of a text without a sign does not have it. -/
theorem sign_not_mem_lowercase (h : IsSign sign) {s : String} (hs : sign ∉ s.toList) :
    sign ∉ (lowercase s).toList := by
  unfold lowercase
  rw [String.toList_ofList]
  exact h.not_mem_lowerFrom hs

end

theorem isSign_slash : IsSign '/' := ⟨by decide, by decide⟩

theorem isSign_dot : IsSign '.' := ⟨by decide, by decide⟩

/-- Only the empty text has an empty lower case. -/
theorem eq_empty_of_lowercase {s : String} (h : lowercase s = "") : s = "" := by
  unfold lowercase at h
  have hnil : lowerFrom [] s.toList = [] := by
    rw [← String.toList_ofList (l := lowerFrom [] s.toList), h]
    rfl
  cases htext : s.toList with
  | nil => exact String.toList_eq_nil_iff.mp htext
  | cons c rest =>
      rw [htext] at hnil
      unfold lowerFrom at hnil
      dsimp only at hnil
      rw [List.append_eq_nil_iff] at hnil
      have hlow := hnil.1
      split at hlow
      · cases hlow
      · split at hlow <;> cases hlow

end Expansion.Text
