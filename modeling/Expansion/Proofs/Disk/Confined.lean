import Expansion.Proofs.Disk.Scratch

/-!
# What may differ

`Keeps` says that what was there is still there; `Confined written d d'` says where anything may be
different at all. What is new counts too, so a disk on which nothing is written is the same disk at
every place.

* **What an operation writes is where its path leads** (`writeFile_confined`, `Within`).
* **A tree that is taken away again leaves no trace** (`Confined.erased`): what was written in it does
  not count.
* Making the directories above an output path and then writing there differs from what was before at
  the places of these paths only (`Paved`, `Delivers`).
-/

namespace Expansion

/-- One of the directories above a path, by its text. -/
inductive FilePath.Above : FilePath → FilePath → Prop
  | parent {p q : FilePath} : p.parent? = some q → Above p q
  | further {p q r : FilePath} : Above p q → q.parent? = some r → Above p r

namespace Disk

/-- Two disks differ at `written` places only. -/
structure Confined (written : Location → Prop) (d d' : Disk) : Prop where
  home : d'.home = d.home
  scratch : d'.scratch = d.scratch
  same : ∀ place, ¬written place → d'.get? place = d.get? place
  tree : d.IsTree → d'.IsTree

variable {d d' d'' : Disk} {p output : FilePath} {place q parent : Location}
variable {name piece : String} {rest : List String} {e : Entry} {content : ByteArray}
variable {written more : Location → Prop}

namespace Confined

theorem refl (written : Location → Prop) (d : Disk) : Confined written d d where
  home := rfl
  scratch := rfl
  same := fun _ _ => rfl
  tree := fun h => h

theorem trans (first : Confined written d d') (second : Confined written d' d'') :
    Confined written d d'' where
  home := second.home.trans first.home
  scratch := second.scratch.trans first.scratch
  same := fun place h => (second.same place h).trans (first.same place h)
  tree := fun h => second.tree (first.tree h)

theorem weaken (h : Confined written d d') (hmore : ∀ place, written place → more place) :
    Confined more d d' where
  home := h.home
  scratch := h.scratch
  same := fun place hplace => h.same place fun hyes => hplace (hmore place hyes)
  tree := h.tree

/-- Two disks that differ nowhere. -/
theorem anywhere (h : Confined nowhere d d') : Confined written d d' :=
  h.weaken fun _ hno => hno.elim

theorem get?_eq (h : Confined nowhere d d') (place : Location) : d'.get? place = d.get? place :=
  h.same place id

/-- What is written at free places only changes nothing that is there. -/
theorem keeps (h : Confined written d d') (hfree : ∀ place, written place → d.get? place = none) :
    Keeps nowhere d d' := by
  have hold : ∀ place e, d.get? place = some e → d'.get? place = some e := by
    intro place e hplace
    rw [h.same place, hplace]
    intro hwritten
    cases (hfree place hwritten).symm.trans hplace
  exact ⟨h.home, h.scratch, fun place e hplace => ⟨e, hold place e hplace, rfl⟩,
    fun place e hplace _ => hold place e hplace, h.tree⟩

/-- Disks that differ nowhere are the same from both sides. -/
theorem symm (h : Confined nowhere d d') : Confined nowhere d' d where
  home := h.home.symm
  scratch := h.scratch.symm
  same := fun place _ => (h.get?_eq place).symm
  tree := by
    intro htree place name e hplace
    rw [← h.get?_eq] at hplace ⊢
    exact htree place name e hplace

theorem keeps_nowhere (h : Confined nowhere d d') : Keeps nowhere d d' :=
  h.keeps fun _ hno => hno.elim

end Confined

/-! ## Putting something on a disk and taking it away -/

theorem confined_set (hplace : place ≠ []) (htree : d.IsTree → (d.set place e).IsTree) :
    Confined (· = place) d (d.set place e) where
  home := rfl
  scratch := rfl
  same := by
    intro other hother
    rw [get?_set _ _ _ _ hplace, if_neg hother]
  tree := htree

/-- A written file is the one thing that differs. -/
theorem writeFile_confined (h : d.writeFile p content = .ok d') :
    ∃ place runnable, d'.find p true = .ok (.present place (.file content runnable)) ∧
      Confined (· = place) d d' ∧ Keeps (· = place) d d' := by
  obtain ⟨place, runnable, rfl, hfind, hkeeps⟩ := writeFile_ok h
  have hplace : place ≠ [] := by
    rintro rfl
    cases get?_of_find hfind
  exact ⟨place, runnable, hfind, confined_set hplace hkeeps.tree, hkeeps⟩

/-- A tree whose root was free before leaves nothing different where it was. -/
theorem Confined.erased (h : Confined (fun q => written q ∨ place <+: q) d d') (htree : d.IsTree)
    (hfree : d.get? place = none) : Confined written d (d'.eraseTree place) where
  home := h.home
  scratch := h.scratch
  same := by
    intro other hother
    by_cases htop : other = []
    · subst htop
      rfl
    · rw [get?_eraseTree _ _ _ htop]
      split
      · rename_i hprefix
        exact (htree.free_below hfree (List.isPrefixOf_iff_prefix.mp hprefix)).symm
      · rename_i hprefix
        rw [List.isPrefixOf_iff_prefix] at hprefix
        exact h.same other fun hwritten => hwritten.elim hother hprefix
  tree := fun _ => (h.tree htree).without place

/-- What was written in a new directory goes with it. -/
theorem Opened.erased (h : Opened d d' p place) (htree : d.IsTree)
    (hwork : Confined (fun q => written q ∨ place <+: q) d' d'') :
    Confined written d (d''.eraseTree place) := by
  have hmade : Confined (fun q => written q ∨ place <+: q) d d' := by
    rw [h.made]
    refine (confined_set h.ne_top (h.made ▸ h.keeps.tree)).weaken ?_
    rintro q rfl
    exact .inr (List.prefix_refl _)
  exact (hmade.trans hwork).erased htree h.free

/-! ## Where a path leads, and below -/

/-- The place that a path leads to, which may be free, and what is below it. -/
inductive Within (d : Disk) (p : FilePath) (place : Location) : Prop
  | there {q : Location} {e : Entry} : d.find p true = .ok (.present q e) → q <+: place →
      Within d p place
  | free {parent : Location} {name : String} {slash : Bool} :
      d.find p true = .ok (.absent parent name slash) → parent ++ [name] <+: place →
      Within d p place

/-- Where a path leads nowhere, nothing is there or below. -/
theorem Within.vacant (h : d.Within p place) (htree : d.IsTree)
    (hnowhere : d.leadsSomewhere p = false) : d.get? place = none := by
  cases h with
  | there hfind hprefix =>
      unfold leadsSomewhere at hnowhere
      rw [hfind] at hnowhere
      cases hnowhere
  | free hfind hprefix =>
      exact htree.free_below (find_ok_iff.mp hfind).2.missing.2 hprefix

/-- The path of a child that a directory does not have leads into that directory. -/
theorem Within.of_child (hname : piecesOf name = piece :: rest) (hplain : IsPlain piece)
    (hinside : Leads d true linkLimit (d.start p) (front p) (.present q .directory))
    (hfree : d.get? (q ++ [piece]) = none) (h : d.Within (p.child name) place) :
    q ++ [piece] <+: place := by
  cases h with
  | there hfind _ => cases find_child_of_free hname hplain hinside hfree hfind
  | free hfind hprefix =>
      cases find_child_of_free hname hplain hinside hfree hfind
      exact hprefix

/-- A file is written where its path leads. -/
theorem writeFile_within (h : d.writeFile p content = .ok d') : Confined (d.Within p) d d' := by
  unfold writeFile at h
  cases hfind : d.find p true with
  | error e =>
      rw [hfind] at h
      cases h
  | ok found =>
      rw [hfind] at h
      cases found with
      | present place e =>
          cases e with
          | directory => cases h
          | link target => cases h
          | file old runnable =>
              cases h
              have hfile := get?_of_find hfind
              have hplace : place ≠ [] := by
                rintro rfl
                cases hfile
              refine (confined_set hplace (keeps_set_file hfile content).tree).weaken ?_
              rintro q rfl
              exact .there hfind (List.prefix_refl _)
      | absent parent name slash =>
          cases slash with
          | true => cases h
          | false =>
              cases h
              obtain ⟨hparent, hfree⟩ := (find_ok_iff.mp hfind).2.missing
              refine (confined_set (by simp) (keeps_set_free hparent hfree).tree).weaken ?_
              rintro q rfl
              exact .free hfind (List.prefix_refl _)

/-- Below a name that a new directory does not have there is nothing. -/
theorem Opened.below_free (h : Opened d d' p place) (htree : d.IsTree)
    (hq : place ++ [piece] <+: q) : d'.get? q = none :=
  (h.keeps.tree htree).free_below (h.empty piece) hq

/-- Where the path of a child of a new directory leads is new as well. -/
theorem Opened.within_child {d₁ : Disk} (h : Opened d d₁ p place) (hstaged : Staged d₁ d')
    (hname : piecesOf name = piece :: rest) (hplain : IsPlain piece)
    (hwithin : d'.Within (p.child name) q) : place ++ [piece] <+: q := by
  obtain ⟨hinside, hfree⟩ := h.staged hstaged piece
  exact hwithin.of_child hname hplain hinside hfree

/-! ## Making directories -/

/-- All that differs are new directories, and the paths above an output path lead to them. -/
structure Paved (output : FilePath) (d d' : Disk) : Prop where
  keeps : Keeps nowhere d d'
  paved : ∀ place, d'.get? place ≠ d.get? place →
    d.get? place = none ∧ d'.get? place = some .directory ∧
      ∃ above, output.Above above ∧ d'.canonical? above = some place

namespace Paved

theorem refl (output : FilePath) (d : Disk) : Paved output d d :=
  ⟨.refl _ _, fun _ hne => absurd rfl hne⟩

theorem trans (first : Paved output d d') (second : Paved output d' d'') :
    Paved output d d'' where
  keeps := first.keeps.trans second.keeps
  paved := by
    intro place hne
    by_cases hfirst : d'.get? place = d.get? place
    · obtain ⟨hfree, hnew, habove⟩ := second.paved place (by rwa [hfirst])
      exact ⟨hfirst ▸ hfree, hnew, habove⟩
    · obtain ⟨hfree, hnew, above, habove, hleads⟩ := first.paved place hfirst
      exact ⟨hfree, second.keeps.kept place _ hnew id, above, habove,
        second.keeps.canonical? hleads⟩

end Paved

theorem makeDirectory_paved (hp : output.Above p) (h : d.makeDirectory p = .ok d') :
    Paved output d d' := by
  have hkeeps := makeDirectory_keeps h
  obtain ⟨parent, name, rfl, hfree, hleads⟩ := find_of_made h
  refine ⟨hkeeps, ?_⟩
  intro place hne
  obtain rfl : place = parent ++ [name] := by
    by_contra hother
    rw [get?_set _ _ _ _ (by simp), if_neg hother] at hne
    exact hne rfl
  exact ⟨hfree, get?_of_find hleads, p, hp, canonical?_of_find hleads⟩

theorem orIsDirectory_paved {made : Except Error Disk}
    (hmade : ∀ left, made = .ok left → Paved output d left) :
    Paved output d (d.orIsDirectory p made).2 := by
  unfold orIsDirectory
  split
  · exact hmade _ rfl
  · split <;> exact .refl _ _

/-- Each level of the recursion makes one directory after those above it. -/
theorem attemptDirectoriesFrom_paved (budget : Nat) (d : Disk) (hp : output.Above p) :
    Paved output d (attemptDirectoriesFrom budget d p).2 := by
  induction budget generalizing d p with
  | zero => exact .refl _ _
  | succ budget ih =>
      unfold attemptDirectoriesFrom
      split
      · exact .refl _ _
      · split
        · rename_i made hmake
          exact makeDirectory_paved hp hmake
        · split
          · exact .refl _ _
          · rename_i parent hparent
            have habove := ih d (hp.further hparent)
            split
            · rename_i e left hleft
              rwa [hleft] at habove
            · rename_i made hmade
              rw [hmade] at habove
              exact habove.trans (orIsDirectory_paved fun _ hmake => makeDirectory_paved hp hmake)
        · exact orIsDirectory_paved fun _ hmake => by cases hmake

theorem attemptParent_paved (d : Disk) (output : FilePath) :
    Paved output d (d.attemptParent output).2 := by
  unfold attemptParent
  split
  · rename_i parent hparent
    split
    · exact .refl _ _
    · exact attemptDirectoriesFrom_paved _ d (.parent hparent)
  · exact .refl _ _

/-! ## Delivering to an output path -/

/-- A place in the scratch directory that nothing has. -/
structure Unused (d : Disk) (place : Location) : Prop where
  free : d.get? place = none
  inScratch : Leads d true linkLimit (d.start d.scratch) (front d.scratch)
    (.present place.dropLast .directory)

theorem Opened.unused (h : Opened d d' p place) : d.Unused place := ⟨h.free, h.beside⟩

theorem Unused.congr (h : d.Unused place) (hd : Confined nowhere d' d) : d'.Unused place where
  free := (hd.get?_eq place).symm.trans h.free
  inScratch := by
    have hleads := hd.symm.keeps_nowhere.inside h.inScratch
    rwa [hd.scratch] at hleads

/-- The places that a delivery to an output path may leave different: the one that the path leads
to, and those of directories above it that were not there before. -/
def OutputPlace (output : FilePath) (before after : Disk) (place : Location) : Prop :=
  after.canonical? output = some place ∨
    (before.get? place = none ∧ after.get? place = some .directory ∧
      ∃ above, output.Above above ∧ after.canonical? above = some place)

/-- What making the directories above an output path and writing there does to a disk. -/
structure Delivers (output : FilePath) (d d' : Disk) : Prop where
  keeps : ∃ written, Keeps written d d'
  confined : Confined (OutputPlace output d d') d d'

theorem Paved.delivers (h : Paved output d d') : Delivers output d d' where
  keeps := ⟨nowhere, h.keeps⟩
  confined := by
    refine ⟨h.keeps.home, h.keeps.scratch, ?_, h.keeps.tree⟩
    intro place hplace
    by_contra hne
    exact hplace (.inr (h.paved place hne))

/-- A directory that has been paved is still there when the output is written, or it is where the
output is written. -/
theorem Paved.delivers_writeFile (h : Paved output d d')
    (hwrite : d'.writeFile output content = .ok d'') : Delivers output d d'' := by
  obtain ⟨written, runnable, hfind, hconfined, hkeeps⟩ := writeFile_confined hwrite
  refine ⟨⟨_, h.keeps.anywhere.trans hkeeps⟩, hkeeps.home.trans h.keeps.home,
    hkeeps.scratch.trans h.keeps.scratch, ?_, fun htree => hkeeps.tree (h.keeps.tree htree)⟩
  intro place hplace
  by_contra hne
  apply hplace
  by_cases hwritten : place = written
  · subst hwritten
    exact .inl (canonical?_of_find hfind)
  · have hsame := hconfined.same place hwritten
    rw [hsame] at hne
    obtain ⟨hfree, hnew, above, habove, hleads⟩ := h.paved place hne
    exact .inr ⟨hfree, hsame.trans hnew, above, habove, hkeeps.canonical? hleads⟩

end Disk

end Expansion
