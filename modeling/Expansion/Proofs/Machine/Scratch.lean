import Expansion.Proofs.Disk.Scratch
import Expansion.Proofs.Machine.Act

/-!
# Work with a scratch directory

The directory is made, the work is done, and the directory is taken away. **What the work leaves of
the older disk is left at the end** (`withScratchDirectory_keeps`): the directory was free before,
so taking it away cannot take anything else.
-/

namespace Expansion.Act

open Disk

variable {α : Type} {m : Machine} {stem : String} {work : FilePath → Act α}
variable {written : Location → Prop}

/-! ## Steps that keep the disk -/

/-- Work in two steps keeps what both keep. -/
theorem bind_keeps {β : Type} {x : Act α} {f : α → Act β} (hx : Keeps written m.disk (x m).2.disk)
    (hf : ∀ a after, x m = (.ok a, after) → Keeps written after.disk (f a after).2.disk) :
    Keeps written m.disk ((x >>= f) m).2.disk := by
  rw [bind_apply]
  cases hfirst : x m with
  | mk r after =>
      rw [hfirst] at hx
      cases r with
      | ok a => exact hx.trans (hf a after hfirst)
      | error e => exact hx

theorem onDisk_keeps {path? : Option FilePath} {f : Disk → Except Disk.Error Disk}
    (h : ∀ d, f m.disk = .ok d → Keeps written m.disk d) :
    Keeps written m.disk (onDisk path? f m).2.disk := by
  cases hf : f m.disk with
  | ok d =>
      rw [onDisk_of_ok hf]
      exact h d hf
  | error error =>
      rw [onDisk_of_error hf]
      exact .refl _ _

/-! ## Scratch directories -/

/-- A stem that makes plain names. -/
def PlainStem (stem : String) : Prop :=
  ∀ n, '/' ∉ (stem ++ sixDigits n ++ "").toList ∧ IsPlain (stem ++ sixDigits n ++ "")

theorem plainStem_of_head {c : Char} (hhead : stem.toList.head? = some c) (hdot : c ≠ '.')
    (hslash : '/' ∉ stem.toList) : PlainStem stem := by
  intro n
  have hname : stem ++ sixDigits n ++ "" = stem ++ sixDigits n := String.append_empty
  rw [hname]
  refine ⟨?_, isPlain_of_head ?_ hdot⟩
  · rw [String.toList_append, List.mem_append, not_or]
    exact ⟨hslash, slash_not_mem_sixDigits n⟩
  · rw [String.toList_append, List.head?_append, hhead]
    rfl

theorem plainStem_typexpand : PlainStem "typexpand-" :=
  plainStem_of_head rfl (by decide) (by decide)

/-- What the path leads to when the work is done is taken away. -/
theorem removing_disk {p : FilePath} {work : Act α} {place : Location} {e : Disk.Entry}
    (hfind : (work m).2.disk.find p false = .ok (.present place e)) :
    (removing p work m).2.disk = (work m).2.disk.eraseTree place := by
  have hremove : (work m).2.disk.remove p = .ok ((work m).2.disk.eraseTree place) := by
    unfold remove
    rw [hfind]
  rw [removing_apply]
  unfold without
  dsimp only
  rw [hremove]

/-- Work with a scratch directory that can be made is done with the directory open, and what is at
the directory's place in the end is gone. -/
theorem withScratchDirectory_of_made {d : Disk} (htree : m.disk.IsTree) (hstem : PlainStem stem)
    (hmake : m.disk.makeDirectory (m.disk.freshScratch stem "") = .ok d) (work : FilePath → Act α) :
    ∃ place, Opened m.disk d (m.disk.freshScratch stem "") place ∧
      (withScratchDirectory stem work m).1 =
        (work (m.disk.freshScratch stem "") { m with disk := d }).1 ∧
      ∀ written, Keeps written d (work (m.disk.freshScratch stem "") { m with disk := d }).2.disk →
        (withScratchDirectory stem work m).2.disk =
          (work (m.disk.freshScratch stem "") { m with disk := d }).2.disk.eraseTree place := by
  generalize hp : m.disk.freshScratch stem "" = p at hmake ⊢
  have hunfold : withScratchDirectory stem work m =
      (onDisk (some p) (fun d => d.makeDirectory p) >>= fun _ => removing p (work p)) m := by
    rw [← hp]
    rfl
  obtain ⟨place, hopened⟩ : ∃ place, Opened m.disk d p place := by
    obtain ⟨k, hk⟩ := freshScratch_eq m.disk stem ""
    rw [← hp, hk] at hmake ⊢
    exact opened_of_makeDirectory htree (hstem k).1 (hstem k).2 hmake
  rw [hunfold, bind_of_ok (onDisk_of_ok hmake)]
  refine ⟨place, hopened, removing_fst p (work p) _, ?_⟩
  intro written hkeeps
  -- The path of the directory still leads to it, so this is what `remove` takes away.
  obtain ⟨e, hfind, -⟩ := hkeeps.find hopened.found
  exact removing_disk hfind

/-- Work with a scratch directory fails at once, or it is done with the directory open, and what is
at the directory's place in the end is gone. -/
theorem withScratchDirectory_cases (htree : m.disk.IsTree) (hstem : PlainStem stem)
    (work : FilePath → Act α) :
    (∃ e, withScratchDirectory stem work m = (.error e, m)) ∨
    ∃ n place, Opened m.disk n.disk (m.disk.freshScratch stem "") place ∧
      (withScratchDirectory stem work m).1 = (work (m.disk.freshScratch stem "") n).1 ∧
      ∀ written, Keeps written n.disk (work (m.disk.freshScratch stem "") n).2.disk →
        (withScratchDirectory stem work m).2.disk =
          (work (m.disk.freshScratch stem "") n).2.disk.eraseTree place := by
  cases hmake : m.disk.makeDirectory (m.disk.freshScratch stem "") with
  | error error =>
      refine .inl ⟨.disk error (some (m.disk.freshScratch stem "")), ?_⟩
      unfold withScratchDirectory
      rw [bind_of_ok (disk_apply m), bind_of_error (onDisk_of_error hmake)]
  | ok d =>
      obtain ⟨place, hdone⟩ := withScratchDirectory_of_made htree hstem hmake work
      exact .inr ⟨{ m with disk := d }, place, hdone⟩

/-- What the work leaves of the older disk is left at the end. -/
theorem withScratchDirectory_keeps (htree : m.disk.IsTree) (hstem : PlainStem stem)
    (hwork : ∀ n place, Opened m.disk n.disk (m.disk.freshScratch stem "") place →
      Keeps written n.disk (work (m.disk.freshScratch stem "") n).2.disk) :
    Keeps written m.disk (withScratchDirectory stem work m).2.disk := by
  rcases withScratchDirectory_cases htree hstem work with
    ⟨e, hfails⟩ | ⟨n, place, hopened, -, hdisk⟩
  · rw [hfails]
    exact .refl _ _
  · have hkeeps := hwork n place hopened
    rw [hdisk _ hkeeps]
    exact (hopened.keeps.anywhere.trans hkeeps).eraseTree htree hopened.free

end Expansion.Act
