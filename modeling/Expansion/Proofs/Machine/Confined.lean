import Expansion.Proofs.Disk.Confined
import Expansion.Proofs.Disk.Fresh
import Expansion.Proofs.Machine.Compositional
import Expansion.Proofs.Machine.Scratch

/-!
# Work that leaves no trace

Traceless work leaves every place of the disk as it was. Steps without a trace make work without a
trace (`traceless_compositional`), and so does a scratch file or a scratch directory around work that
writes nothing outside of it, whatever becomes of the work.
-/

namespace Expansion.Act

open Disk

variable {α : Type} {m : Machine} {stem suffix : String} {content : ByteArray}
variable {work : FilePath → Act α} {written : Location → Prop}

/-- Work that leaves every place of a disk as it was. -/
def Traceless {α : Type} (x : StateM Machine α) : Prop :=
  ∀ m : Machine, m.disk.IsTree → Confined nowhere m.disk (x m).2.disk

theorem traceless_compositional : Compositional Traceless where
  look := by
    intro α x hdisk _ m _
    rw [hdisk]
    exact .refl _ _
  seq := by
    intro α β x f hx hf m htree
    have hfirst := hx m htree
    exact hfirst.trans (hf (x m).1 m (x m).2 rfl (x m).2 (hfirst.tree htree))

/-- Of work with a scratch directory only what is outside of the directory can be seen later. -/
theorem withScratchDirectory_confined (htree : m.disk.IsTree) (hstem : PlainStem stem)
    (hwork : ∀ n place, Opened m.disk n.disk (m.disk.freshScratch stem "") place →
      (∃ kept, Keeps kept n.disk (work (m.disk.freshScratch stem "") n).2.disk) ∧
      Confined (fun q => written q ∨ place <+: q) n.disk
        (work (m.disk.freshScratch stem "") n).2.disk) :
    Confined written m.disk (withScratchDirectory stem work m).2.disk := by
  rcases withScratchDirectory_cases htree hstem work with
    ⟨e, hfails⟩ | ⟨n, place, hopened, -, hdisk⟩
  · rw [hfails]
    exact .refl _ _
  · obtain ⟨⟨kept, hkept⟩, hconfined⟩ := hwork n place hopened
    rw [hdisk kept hkept]
    exact hopened.erased htree hconfined

/-- Work with a scratch file leaves no trace, if it leaves none on the disk with the file. -/
theorem withScratchFile_confined {c : Char} (hhead : stem.toList.head? = some c) (hdot : c ≠ '.')
    (hslash : '/' ∉ stem.toList) (htree : m.disk.IsTree)
    (hwork : ∀ n, n.disk.IsTree →
      Confined nowhere n.disk (work (m.disk.freshScratch stem suffix) n).2.disk) :
    Confined nowhere m.disk (withScratchFile stem suffix content work m).2.disk := by
  have hfree := isTaken_freshScratch hhead hdot hslash m.disk suffix
  unfold withScratchFile
  rw [bind_of_ok (disk_apply m)]
  generalize m.disk.freshScratch stem suffix = p at hfree hwork ⊢
  cases hwrite : m.disk.writeFile p content with
  | error e =>
      rw [bind_of_error (onDisk_of_error hwrite)]
      exact .refl _ _
  | ok d =>
      rw [bind_of_ok (onDisk_of_ok hwrite)]
      have hkeeps := keeps_of_untaken hfree hwrite
      obtain ⟨parent, last, hfind, rfl⟩ := writeFile_of_untaken hfree hwrite
      obtain ⟨-, hnew⟩ := (find_ok_iff.mp hfind).2.missing
      have hdone := hwork
        { m with disk := m.disk.set (parent ++ [last]) (.file content false) } (hkeeps.tree htree)
      have hthere := hkeeps.find_filled hfind
        (by rw [get?_set _ _ _ _ (by simp), if_pos rfl]) (by simp) (by simp)
      obtain ⟨e, hstill, -⟩ := hdone.keeps_nowhere.find hthere
      rw [removing_disk hstill]
      have hmade : Confined (fun q => nowhere q ∨ parent ++ [last] <+: q) m.disk
          (m.disk.set (parent ++ [last]) (.file content false)) := by
        refine (confined_set (by simp) hkeeps.tree).weaken ?_
        rintro q rfl
        exact .inr (List.prefix_refl _)
      exact (hmade.trans hdone.anywhere).erased htree hnew

end Expansion.Act
