import Expansion.Proofs.Disk.Making
import Mathlib.Data.List.Nodup
import Mathlib.Data.List.Perm.Subperm

/-!
# Free names for scratch files

Scratch files are numbered, and **one of the numbers that are tried is free**
(`isTaken_freshScratch`): the numbers name different entries of the scratch directory
(`sixDigits_injective`), and the disk does not have that many entries.
-/

namespace Expansion.Disk

variable {d : Disk} {p : FilePath} {place : Location} {name piece stem suffix : String}
variable {rest : List String}

/-! ## Numbered names -/

/-- The digits of a number tell the number. -/
theorem sixDigits_injective : Function.Injective sixDigits := by
  intro k n h
  have hread : ∀ i, Nat.ofDigitChars 10 (sixDigits i).toList 0 = i := by
    intro i
    unfold sixDigits
    rw [String.toList_ofList, Nat.ofDigitChars_append, Nat.ofDigitChars_replicate_zero, Nat.mul_zero,
      Nat.ofDigitChars_toDigits (by decide) (by decide)]
  rw [← hread k, h, hread]

/-- Numbered names have the number in their first piece. -/
theorem exists_pieces_numbered (hslash : '/' ∉ stem.toList) (suffix : String) :
    ∃ first rest, ∀ n, piecesOf (stem ++ sixDigits n ++ suffix) =
      (stem ++ sixDigits n ++ first) :: rest := by
  cases hsplit : Text.splitChars '/' suffix.toList with
  | nil => exact absurd hsplit (Text.splitChars_ne_nil '/' suffix.toList)
  | cons first others =>
      refine ⟨String.ofList first, others.map String.ofList, ?_⟩
      intro n
      have hnumber : '/' ∉ (stem ++ sixDigits n).toList := by
        rw [String.toList_append, List.mem_append, not_or]
        exact ⟨hslash, slash_not_mem_sixDigits n⟩
      obtain ⟨first', others', hsplit', hname⟩ :=
        Text.splitChars_of_not_mem hnumber suffix.toList
      obtain ⟨rfl, rfl⟩ := List.cons.inj (hsplit.symm.trans hsplit')
      unfold piecesOf Text.splitOn
      rw [String.toList_append, hname, List.map_cons, String.ofList_append, String.ofList_toList]

theorem isPlain_numbered {c : Char} (hhead : stem.toList.head? = some c) (hdot : c ≠ '.') (n : Nat)
    (first : String) : IsPlain (stem ++ sixDigits n ++ first) := by
  refine isPlain_of_head ?_ hdot
  rw [String.toList_append, String.toList_append, List.head?_append, List.head?_append, hhead]
  rfl

/-! ## Taken names -/

/-- If the path of a child is taken, the directory has its first piece. -/
theorem get?_of_isTaken (hname : piecesOf name = piece :: rest) (hplain : IsPlain piece)
    (h : d.isTaken (p.child name) = true) :
    ∃ q, Leads d true linkLimit (d.start p) (front p) (.present q .directory) ∧
      d.get? (q ++ [piece]) ≠ none := by
  unfold isTaken at h
  split at h
  · rename_i place e hfind
    obtain ⟨q, links, hfront, hlast⟩ := find_child hname hplain hfind
    refine ⟨q, hfront, ?_⟩
    intro hfree
    cases hlast.absent_of_free hplain hfree
  · cases h

theorem mem_of_get? (hplace : place ≠ []) (h : d.get? place ≠ none) :
    place ∈ d.entries.map Prod.fst := by
  unfold get? at h
  rw [if_neg hplace] at h
  obtain ⟨e, he⟩ := Option.ne_none_iff_exists'.mp h
  obtain ⟨before, after, hentries, -⟩ := List.lookup_eq_some_iff.mp he
  rw [hentries]
  simp

/-- There are more numbers to try than entries that could have them. -/
theorem exists_untaken {c : Char} (hhead : stem.toList.head? = some c) (hdot : c ≠ '.')
    (hslash : '/' ∉ stem.toList) (d : Disk) (suffix : String) :
    ∃ n < d.entries.length + 1, d.isTaken (d.scratchPath stem suffix n) = false := by
  by_contra hall
  obtain ⟨first, rest, hpieces⟩ := exists_pieces_numbered hslash suffix
  have htaken : ∀ n < d.entries.length + 1,
      ∃ q, Leads d true linkLimit (d.start d.scratch) (front d.scratch) (.present q .directory) ∧
        d.get? (q ++ [stem ++ sixDigits n ++ first]) ≠ none := by
    intro n hn
    refine get?_of_isTaken (hpieces n) (isPlain_numbered hhead hdot n first) ?_
    rw [← Bool.not_eq_false]
    intro hfree
    exact hall ⟨n, hn, hfree⟩
  obtain ⟨q, hfront, -⟩ := htaken 0 (Nat.succ_pos _)
  -- All the names are in the same directory, so they are different entries of the disk.
  have hkeys : (List.range (d.entries.length + 1)).map
      (fun n => q ++ [stem ++ sixDigits n ++ first]) ⊆ d.entries.map Prod.fst := by
    intro place hplace
    obtain ⟨n, hn, rfl⟩ := List.mem_map.mp hplace
    obtain ⟨q', hfront', hget⟩ := htaken n (List.mem_range.mp hn)
    cases hfront.unique hfront'
    exact mem_of_get? (by simp) hget
  have hdistinct : ((List.range (d.entries.length + 1)).map
      (fun n => q ++ [stem ++ sixDigits n ++ first])).Nodup := by
    refine List.Nodup.map ?_ List.nodup_range
    intro k n hkn
    have hpiece := (List.append_inj' hkn rfl).2
    rw [List.singleton_inj, String.append_left_inj, String.append_right_inj] at hpiece
    exact sixDigits_injective hpiece
  have hlength := (List.subperm_of_subset hdistinct hkeys).length_le
  rw [List.length_map, List.length_map, List.length_range] at hlength
  omega

/-- So a scratch file gets a path that nothing has. -/
theorem isTaken_freshScratch {c : Char} (hhead : stem.toList.head? = some c) (hdot : c ≠ '.')
    (hslash : '/' ∉ stem.toList) (d : Disk) (suffix : String) :
    d.isTaken (d.freshScratch stem suffix) = false := by
  unfold freshScratch
  dsimp only
  cases hfind : ((List.range (d.entries.length + 1)).map (d.scratchPath stem suffix)).find?
      fun p => !d.isTaken p with
  | some p =>
      have hfree := List.find?_some hfind
      rwa [Bool.not_eq_true'] at hfree
  | none =>
      obtain ⟨n, hn, hfree⟩ := exists_untaken hhead hdot hslash d suffix
      have hmem := List.mem_map_of_mem (f := d.scratchPath stem suffix) (List.mem_range.mpr hn)
      exact absurd hfree (by simpa using List.find?_eq_none.mp hfind _ hmem)

end Expansion.Disk
