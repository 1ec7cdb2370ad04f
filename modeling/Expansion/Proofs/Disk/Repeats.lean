import Expansion.Proofs.Disk.Later

/-!
# Reading on a later disk

What work reads on a disk it reads again on a later one, also while it has scratch directories open
(`Steady`): the file was there before and reads the same, or no file is there, and none comes with a
scratch directory (`NeverFile`).

`Repeats files` is what two disks have in common on which the same is done, with scratch directories
and with these files.
-/

namespace Expansion.Disk

variable {d d' e e' f : Disk} {p : FilePath} {place q : Location} {piece : String}
variable {written : Location → Prop} {content : ByteArray} {files : List FilePath}

/-! ## Disks with scratch directories -/

/-- A disk on which scratch directories have been made and filled, and nothing else. -/
structure Staging (d e : Disk) : Prop where
  keeps : Keeps nowhere d e
  confined : Confined (fun q => ∃ directory, d.Unused directory ∧ directory <+: q) d e

theorem Staging.of_confined (h : Confined nowhere d e) : Staging d e :=
  ⟨h.keeps_nowhere, h.anywhere⟩

/-- What has been written in a new scratch directory is staged. -/
theorem Opened.staging (h : Opened d e p place) (hkeeps : Keeps nowhere e f)
    (hin : Confined (place <+: ·) e f) : Staging d f := by
  refine ⟨h.keeps.trans hkeeps, ?_⟩
  have hmade : Confined (fun q => ∃ directory, d.Unused directory ∧ directory <+: q) d e := by
    rw [h.made]
    refine (confined_set h.ne_top (h.made ▸ h.keeps.tree)).weaken ?_
    rintro q rfl
    exact ⟨q, h.unused, List.prefix_refl q⟩
  exact hmade.trans (hin.weaken fun q hq => ⟨place, h.unused, hq⟩)

/-- A place that is unused while scratch directories are open was unused before. -/
theorem Unused.earlier (h : e.Unused place) (hd : Staging d e) : d.Unused place := by
  by_cases hany : ∃ directory, d.Unused directory
  · obtain ⟨directory, hunused⟩ := hany
    have hscratch := hd.keeps.inside hunused.inScratch
    rw [← hd.keeps.scratch] at hscratch
    have hsame := hscratch.unique h.inScratch
    injection hsame with hplace
    exact ⟨hd.keeps.free h.free, hplace ▸ hunused.inScratch⟩
  · refine h.congr (hd.confined.weaken ?_)
    rintro q ⟨directory, hunused, -⟩
    exact hany ⟨directory, hunused⟩

theorem Staging.trans (hd : Staging d e) (he : Staging e f) : Staging d f := by
  refine ⟨hd.keeps.trans he.keeps, hd.confined.trans (he.confined.weaken ?_)⟩
  rintro q ⟨directory, hunused, hq⟩
  exact ⟨directory, hunused.earlier hd, hq⟩

/-! ## What is read -/

/-- A path that leads to no file, whatever scratch directories are open. -/
def NeverFile (d : Disk) (p : FilePath) : Prop :=
  ∀ e, Confined (fun q => ∃ directory, d.Unused directory ∧ directory <+: q) d e →
    e.isFile p = false

/-- A path that reads the same on a later disk, whatever scratch directories are open. -/
def Steady (d d' : Disk) (p : FilePath) : Prop :=
  (d.isFile p = true ∧ d'.content? p = d.content? p) ∨ d'.NeverFile p

/-- A file that was there reads the same when nothing is written. -/
theorem Keeps.content?_of_isFile (h : Keeps nowhere d e) (hp : d.isFile p = true) :
    e.content? p = d.content? p := by
  obtain ⟨place, content, runnable, hfind⟩ := isFile_iff.mp hp
  unfold content?
  rw [readBytes_of_find hfind, readBytes_of_find (h.find_kept hfind id)]

theorem NeverFile.staged (h : d.NeverFile p) (hd : Staging d e) : e.NeverFile p := by
  intro f hf
  refine h f (hd.confined.trans (hf.weaken ?_))
  rintro q ⟨directory, hunused, hq⟩
  exact ⟨directory, hunused.earlier hd, hq⟩

theorem Steady.staged (h : Steady d d' p) (hkeeps : Keeps written d d') (hd : Staging d e)
    (hd' : Staging d' e') : Steady e e' p := by
  rcases h with ⟨hfile, hsame⟩ | hnever
  · refine .inl ⟨hd.keeps.isFile hfile, ?_⟩
    rw [hd'.keeps.content?_of_isFile (hkeeps.isFile hfile), hsame,
      hd.keeps.content?_of_isFile hfile]
  · exact .inr (hnever.staged hd')

/-- A steady path reads the same. -/
theorem Steady.content?_eq (h : Steady d d' p) (hkeeps : Keeps written d d') :
    d'.content? p = d.content? p := by
  rcases h with ⟨-, hsame⟩ | hnever
  · exact hsame
  · have hnone := hnever d' (.refl _ _)
    have hbefore : d.isFile p = false := by
      rw [Bool.eq_false_iff]
      intro hfile
      cases hnone.symm.trans (hkeeps.isFile hfile)
    rw [content?_of_not_isFile hnone, content?_of_not_isFile hbefore]

/-! ## Disks with the same work -/

/-- A later disk on which the same scratch directories are made and the same is read. -/
structure Repeats (files : List FilePath) (d d' : Disk) : Prop where
  keeps : Keeps (fun _ => True) d d'
  names : SameNames "typexpand-" d d'
  reads : ∀ p ∈ files, Steady d d' p

namespace Repeats

theorem content?_eq (h : Repeats files d d') (hp : p ∈ files) : d'.content? p = d.content? p :=
  (h.reads p hp).content?_eq h.keeps

theorem staged (h : Repeats files d d') (hd : Staging d e) (hd' : Staging d' e')
    (hkeeps : Keeps (fun _ => True) e e') (hnames : SameNames "typexpand-" e e') :
    Repeats files e e' where
  keeps := hkeeps
  names := hnames
  reads := fun p hp => (h.reads p hp).staged h.keeps hd hd'

end Repeats

/-- A name is taken where nothing differs if it was taken. -/
theorem Confined.isTaken_eq (h : Confined nowhere d e) (p : FilePath) :
    e.isTaken p = d.isTaken p := by
  have hforth : ∀ {d e : Disk}, Confined nowhere d e → d.isTaken p = true → e.isTaken p = true := by
    intro d e h htaken
    unfold isTaken at htaken
    split at htaken
    · rename_i place entry hfind
      obtain ⟨entry', hfind', -⟩ := h.keeps_nowhere.find hfind
      unfold isTaken
      rw [hfind']
    · cases htaken
  rw [Bool.eq_iff_iff]
  exact ⟨hforth h.symm, hforth h⟩

/-- What is the same on two disks stays the same when nothing is written on either. -/
theorem Repeats.congr (h : Repeats files d d') (hd : Confined nowhere d e)
    (hd' : Confined nowhere d' e') : Repeats files e e' := by
  refine h.staged (.of_confined hd) (.of_confined hd') ?_ ?_
  · exact (hd.symm.keeps_nowhere.anywhere.trans h.keeps).trans hd'.keeps_nowhere.anywhere
  · intro n
    have hnames := h.names n
    unfold scratchPath at hnames ⊢
    rw [hd.scratch, hd'.scratch, hd.isTaken_eq, hd'.isTaken_eq, hnames]

/-- **The same scratch directory is opened on both disks.** -/
theorem Repeats.opened (h : Repeats files d d') (htree : d.IsTree)
    (hmake : d.makeDirectory (d.freshScratch "typexpand-" "") = .ok e) :
    ∃ place e', d'.freshScratch "typexpand-" "" = d.freshScratch "typexpand-" "" ∧
      d'.makeDirectory (d.freshScratch "typexpand-" "") = .ok e' ∧
      Opened d e (d.freshScratch "typexpand-" "") place ∧
      Opened d' e' (d.freshScratch "typexpand-" "") place ∧ Repeats files e e' := by
  obtain ⟨place, e', hfresh, hmake', hopened, hopened', hkeeps, hnames⟩ :=
    Opened.again (c := 't') rfl (by decide) (by decide) h.keeps h.names htree hmake
  exact ⟨place, e', hfresh, hmake', hopened, hopened',
    h.staged (hopened.staging (.refl _ _) (.refl _ _)) (hopened'.staging (.refl _ _) (.refl _ _))
      hkeeps hnames⟩

/-- The same file is written in a new directory on both disks. -/
theorem Opened.writeFile_again {name : String} {rest : List String} (hopened : Opened d e p place)
    (hopened' : Opened d' e' p place) (hkeeps : Keeps written e e')
    (hname : piecesOf name = piece :: rest) (hplain : IsPlain piece)
    (h : e.writeFile (p.child name) content = .ok f) :
    f = e.set (place ++ [piece]) (.file content false) ∧
      e'.writeFile (p.child name) content =
        .ok (e'.set (place ++ [piece]) (.file content false)) := by
  have hmade := writeFile_of_free hname hplain hopened.inside (hopened.empty piece) h
  refine ⟨hmade, ?_⟩
  unfold writeFile at h ⊢
  cases hfind : e.find (p.child name) true with
  | error error =>
      rw [hfind] at h
      cases h
  | ok found =>
      obtain rfl := find_child_of_free hname hplain hopened.inside (hopened.empty piece) hfind
      rw [hkeeps.find_absent hfind (hopened'.empty piece)]
      rw [hfind] at h
      dsimp only at h ⊢
      split at h
      · cases h
      · rename_i hslash
        rw [if_neg hslash]

/-- A file in a new directory is staged. -/
theorem Opened.filled (h : Opened d e p place)
    (hmade : f = e.set (place ++ [piece]) (.file content false)) :
    Staged d f ∧ Keeps nowhere e f ∧ Staging d f := by
  have hkeeps : Keeps nowhere e f :=
    hmade ▸ keeps_set_free (get?_of_find h.found) (h.empty piece)
  refine ⟨.inr ⟨e, p, place, piece, content, h, hmade⟩, hkeeps, h.staging hkeeps ?_⟩
  rw [hmade]
  refine (confined_set (by simp) (hmade ▸ hkeeps.tree)).weaken ?_
  rintro q rfl
  exact List.prefix_append place [piece]

/-- **Where the same directory gets the same file, the same is read**, of the files and of the new
one. -/
theorem Repeats.filled {name : String} {rest : List String} (h : Repeats files d d')
    (htree : e'.IsTree) (hopened : Opened d e p place) (hopened' : Opened d' e' p place)
    (hkeeps : Keeps (fun _ => True) e e') (hname : piecesOf name = piece :: rest)
    (hplain : IsPlain piece) (hwrite : e.writeFile (p.child name) content = .ok f) :
    ∃ f', e'.writeFile (p.child name) content = .ok f' ∧ Staged d f ∧ Staged d' f' ∧
      Keeps nowhere e f ∧ Keeps nowhere e' f' ∧ Keeps (fun _ => True) f f' ∧
      ∀ q ∈ files ++ [p.child name], f'.content? q = f.content? q := by
  obtain ⟨hmade, hwrite'⟩ := hopened.writeFile_again hopened' hkeeps hname hplain hwrite
  obtain ⟨hstaged, hnew, hstaging⟩ := hopened.filled hmade
  obtain ⟨hstaged', hnew', hstaging'⟩ := hopened'.filled rfl
  have hboth := hkeeps.set_both (.file content false) (by simp) (hnew'.tree htree)
  rw [← hmade] at hboth
  refine ⟨_, hwrite', hstaged, hstaged', hnew, hnew', hboth, ?_⟩
  intro q hq
  rcases List.mem_append.mp hq with hold | hlast
  · exact ((h.reads q hold).staged h.keeps hstaging hstaging').content?_eq hboth
  · obtain rfl := List.mem_singleton.mp hlast
    obtain ⟨_, _, -, hfind, -⟩ := writeFile_ok hwrite
    obtain ⟨_, _, -, hfind', -⟩ := writeFile_ok hwrite'
    unfold content?
    rw [readBytes_of_find hfind, readBytes_of_find hfind']

end Expansion.Disk
