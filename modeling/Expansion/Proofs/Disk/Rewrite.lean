import Expansion.Proofs.Disk.Making

/-!
# Writing a file again

A file that was written with the directories above it can be written once more, on every disk that
keeps what is there: the directories are no obstacle (`makeParent_again`), and the path leads to the
file (`writeFile_again`).

**A path reads as before** if it led to a file before or leads to none now, and that file is not
the one that is written (`Keeps.content?_eq`).
-/

namespace Expansion.Disk

variable {d d' d'' : Disk} {p : FilePath} {place : Location} {content : ByteArray}
variable {runnable : Bool} {written : Location → Prop}

/-! ## Reading -/

/-- The bytes that are read at a path, if any are. -/
def content? (d : Disk) (p : FilePath) : Option ByteArray := (d.readBytes p).toOption

theorem isFile_iff :
    d.isFile p = true ↔
      ∃ place content runnable, d.find p true = .ok (.present place (.file content runnable)) := by
  constructor
  · intro h
    unfold isFile at h
    split at h
    · rename_i place content runnable hfind
      exact ⟨place, content, runnable, hfind⟩
    · cases h
  · rintro ⟨place, content, runnable, hfind⟩
    unfold isFile
    rw [hfind]

theorem content?_of_not_isFile (h : d.isFile p = false) : d.content? p = none := by
  cases hread : d.readBytes p with
  | error e =>
      unfold content?
      rw [hread]
      rfl
  | ok content =>
      obtain ⟨place, runnable, hfind⟩ := find_of_readBytes hread
      cases h.symm.trans (isFile_iff.mpr ⟨place, content, runnable, hfind⟩)

/-- What has the shape of a file is one. -/
theorem Entry.eq_file_of_shape {e : Entry} (h : e.shape = (Entry.file content runnable).shape) :
    ∃ content runnable, e = .file content runnable := by
  cases e with
  | directory => cases h
  | file content runnable => exact ⟨content, runnable, rfl⟩
  | link target => cases h

theorem canonical?_of_isFile (h : d.isFile p = true) : ∃ place, d.canonical? p = some place := by
  obtain ⟨place, content, runnable, hfind⟩ := isFile_iff.mp h
  exact ⟨place, canonical?_of_find hfind⟩

/-- A path that leads to a file leads to a file at the same place. -/
theorem Keeps.find_file (h : Keeps written d d')
    (hfind : d.find p true = .ok (.present place (.file content runnable))) :
    ∃ content runnable, d'.find p true = .ok (.present place (.file content runnable)) := by
  obtain ⟨e, hfind', hshape⟩ := h.find hfind
  obtain ⟨content, runnable, rfl⟩ := Entry.eq_file_of_shape hshape
  exact ⟨content, runnable, hfind'⟩

theorem Keeps.isFile (h : Keeps written d d') (hp : d.isFile p = true) : d'.isFile p = true := by
  obtain ⟨place, content, runnable, hfind⟩ := isFile_iff.mp hp
  obtain ⟨content', runnable', hfind'⟩ := h.find_file hfind
  exact isFile_iff.mpr ⟨place, content', runnable', hfind'⟩

/-- A file that is not the written one reads as before. -/
theorem Keeps.readBytes_eq (h : Keeps (· = place) d d') (hp : d.isFile p = true)
    (hother : d.canonical? p ≠ some place) : d'.readBytes p = d.readBytes p := by
  obtain ⟨q, content, runnable, hfind⟩ := isFile_iff.mp hp
  have hq : ¬q = place := by
    rintro rfl
    exact hother (canonical?_of_find hfind)
  rw [readBytes_of_find hfind, readBytes_of_find (h.find_kept hfind hq)]

theorem Keeps.readText_eq (h : Keeps (· = place) d d') (hp : d.isFile p = true)
    (hother : d.canonical? p ≠ some place) : d'.readText p = d.readText p := by
  unfold Disk.readText
  rw [h.readBytes_eq hp hother]

/-- What is read as text is a file. -/
theorem isFile_of_readText {text : String} (h : d.readText p = .ok text) : d.isFile p = true := by
  unfold readText at h
  cases hread : d.readBytes p with
  | error e =>
      rw [hread] at h
      cases h
  | ok content =>
      obtain ⟨place, runnable, hfind⟩ := find_of_readBytes hread
      exact isFile_iff.mpr ⟨place, content, runnable, hfind⟩

/-- So does a path that leads to no new file. -/
theorem Keeps.content?_eq (h : Keeps (· = place) d d')
    (hold : d'.isFile p = true → d.isFile p = true)
    (hother : d.isFile p = true → d.canonical? p ≠ some place) :
    d'.content? p = d.content? p := by
  cases hfile : d.isFile p with
  | true =>
      unfold Disk.content?
      rw [h.readBytes_eq hfile (hother hfile)]
  | false =>
      have hnone : d'.isFile p = false := by
        rw [Bool.eq_false_iff]
        intro hnew
        cases hfile.symm.trans (hold hnew)
      rw [content?_of_not_isFile hfile, content?_of_not_isFile hnone]

/-! ## Making directories that are there -/

theorem isDirectory_iff :
    d.isDirectory p = true ↔ ∃ place, d.find p true = .ok (.present place .directory) := by
  constructor
  · intro h
    unfold isDirectory at h
    split at h
    · rename_i place hfind
      exact ⟨place, hfind⟩
    · cases h
  · rintro ⟨place, hfind⟩
    unfold isDirectory
    rw [hfind]

theorem Keeps.isDirectory (h : Keeps written d d') (hp : d.isDirectory p = true) :
    d'.isDirectory p = true := by
  obtain ⟨place, hfind⟩ := isDirectory_iff.mp hp
  obtain ⟨e, hfind', hshape⟩ := h.find hfind
  obtain rfl := Entry.eq_directory_of_shape hshape
  exact isDirectory_iff.mpr ⟨place, hfind'⟩

theorem isDirectory_of_made (h : d.makeDirectory p = .ok d') : d'.isDirectory p = true := by
  obtain ⟨_, _, -, -, hfind⟩ := find_of_made h
  exact isDirectory_iff.mpr ⟨_, hfind⟩

theorem isDirectory_of_orIsDirectory {made : Except Error Disk}
    (h : d.orIsDirectory p made = (.ok (), d'))
    (hmade : ∀ left, made = .ok left → left.isDirectory p = true) : d'.isDirectory p = true := by
  unfold orIsDirectory at h
  split at h
  · cases h
    exact hmade _ rfl
  · split at h
    · rename_i hp
      cases h
      exact hp
    · cases h

/-- Directories that could be made are there. -/
theorem isDirectory_of_attempt (hp : p.text.isEmpty = false)
    (h : d.attemptDirectories p = (.ok (), d')) : d'.isDirectory p = true := by
  unfold attemptDirectories attemptDirectoriesFrom at h
  rw [hp, if_neg (by simp)] at h
  split at h
  · rename_i made hmake
    cases h
    exact isDirectory_of_made hmake
  · split at h
    · cases h
    · split at h
      · cases h
      · exact isDirectory_of_orIsDirectory h fun left hmake => isDirectory_of_made hmake
  · exact isDirectory_of_orIsDirectory h fun left hmake => by cases hmake

/-- A directory that is there is not made. -/
theorem makeDirectory_of_isDirectory (h : d.isDirectory p = true) :
    d.makeDirectory p = .error .alreadyThere := by
  obtain ⟨place, hfind⟩ := isDirectory_iff.mp h
  obtain ⟨hsay, hleads⟩ := find_ok_iff.mp hfind
  have hthere : ∃ q e, d.find p false = .ok (.present q e) := by
    rcases hleads.unfollowed with hsame | ⟨q, e, hname⟩
    · exact ⟨_, _, find_ok_iff.mpr ⟨hsay, hsame⟩⟩
    · exact ⟨q, e, find_ok_iff.mpr ⟨hsay, hname⟩⟩
  obtain ⟨q, e, hfound⟩ := hthere
  unfold makeDirectory
  rw [hfound]

theorem attemptDirectories_of_isDirectory (h : d.isDirectory p = true) :
    d.attemptDirectories p = (.ok (), d) := by
  unfold attemptDirectories attemptDirectoriesFrom
  rw [makeDirectory_of_isDirectory h]
  dsimp only
  unfold orIsDirectory
  rw [h]
  simp

/-- The directory of a file is made once. -/
theorem makeParent_again (h : d.makeParent p = .ok d') (hkeeps : Keeps written d' d'') :
    d''.makeParent p = .ok d'' := by
  have hattempt := Attempt.complete_ok h
  unfold makeParent
  unfold attemptParent at hattempt ⊢
  cases hparent : p.parent? with
  | none => rfl
  | some parent =>
      rw [hparent] at hattempt
      dsimp only at hattempt ⊢
      cases hempty : parent.text.isEmpty with
      | true => rfl
      | false =>
          rw [hempty, if_neg (by simp)] at hattempt
          have hthere := hkeeps.isDirectory (isDirectory_of_attempt hempty hattempt)
          rw [if_neg (by simp), attemptDirectories_of_isDirectory hthere]
          rfl

/-! ## Writing -/

/-- Whether a file can be written at a path, whatever its content is to be. -/
def Writable (d : Disk) (p : FilePath) : Prop :=
  ∀ content, ∃ left, d.writeFile p content = .ok left

/-- A path that cannot be written to cannot for one reason, whatever the content is to be. -/
theorem writable_or_error (d : Disk) (p : FilePath) :
    d.Writable p ∨ ∃ e, ∀ content, d.writeFile p content = .error e := by
  unfold Writable writeFile
  cases d.find p true with
  | error e => exact .inr ⟨e, fun _ => rfl⟩
  | ok found =>
      cases found with
      | present place e =>
          cases e with
          | file old runnable => exact .inl fun content => ⟨_, rfl⟩
          | directory => exact .inr ⟨.isDirectory, fun _ => rfl⟩
          | link target => exact .inr ⟨.isDirectory, fun _ => rfl⟩
      | absent parent name asDirectory =>
          cases asDirectory with
          | true => exact .inr ⟨.isDirectory, fun _ => rfl⟩
          | false => exact .inl fun content => ⟨_, rfl⟩

/-- Where some content can be written, every content can. -/
theorem writable_of_isSome (content : ByteArray)
    (h : (d.writeFile p content).toOption.isSome = true) : d.Writable p := by
  refine (writable_or_error d p).resolve_right ?_
  rintro ⟨e, he⟩
  rw [he content] at h
  cases h

/-- What was written can be replaced. -/
theorem writeFile_again (hfind : d.find p true = .ok (.present place (.file content runnable)))
    (hkeeps : Keeps written d d') (new : ByteArray) :
    ∃ d'', d'.writeFile p new = .ok d'' ∧ d''.readBytes p = .ok new := by
  obtain ⟨old, runnable', hfind'⟩ := hkeeps.find_file hfind
  have hwrite : d'.writeFile p new = .ok (d'.set place (.file new runnable')) := by
    unfold writeFile
    rw [hfind']
  obtain ⟨_, _, -, hread, -⟩ := writeFile_ok hwrite
  exact ⟨_, hwrite, readBytes_of_find hread⟩

end Expansion.Disk
