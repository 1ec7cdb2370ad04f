import Expansion.Disk.Access
import Expansion.Proofs.Disk.Paths
import Mathlib.Data.List.Induction

/-!
# What stays as it was

`Keeps written d d'` says that the disk `d'` comes after `d` and differs from it in what files hold
at `written` places and in what is new, and in nothing else. Every operation of `Disk` but `remove`
is of this kind, and `remove` is where it takes away what is new (`Keeps.eraseTree`).

* **Where a path leads stays** (`Keeps.find`), and so does what is read there, unless it is written.
* **`writeFile` writes one place, the one that its path leads to afterwards** (`writeFile_ok`).
* Making directories writes nowhere (`makeParent_keeps`).
-/

namespace Expansion.Disk

/-- Whatever is there, but for the top, is in a directory. -/
def IsTree (d : Disk) : Prop :=
  ∀ place name e, d.get? (place ++ [name]) = some e → d.get? place = some .directory

/-- Nothing has changed but what files hold at `written` places, and nothing has gone. -/
structure Keeps (written : Location → Prop) (d d' : Disk) : Prop where
  home : d'.home = d.home
  scratch : d'.scratch = d.scratch
  grows : Grows d d'
  kept : ∀ place e, d.get? place = some e → ¬written place → d'.get? place = some e
  tree : d.IsTree → d'.IsTree

/-- No place. -/
def nowhere : Location → Prop := fun _ => False

variable {d d' d'' : Disk} {p : FilePath} {follow slash : Bool} {found : Found}
variable {place q parent : Location} {name : String} {e : Entry} {content : ByteArray}
variable {written more : Location → Prop}

namespace Keeps

theorem refl (written : Location → Prop) (d : Disk) : Keeps written d d where
  home := rfl
  scratch := rfl
  grows := fun _ e h => ⟨e, h, rfl⟩
  kept := fun _ _ h _ => h
  tree := fun h => h

theorem trans (first : Keeps written d d') (second : Keeps written d' d'') :
    Keeps written d d'' where
  home := second.home.trans first.home
  scratch := second.scratch.trans first.scratch
  grows := by
    intro place e h
    obtain ⟨e', h', hshape⟩ := first.grows place e h
    obtain ⟨e'', h'', hshape'⟩ := second.grows place e' h'
    exact ⟨e'', h'', hshape'.trans hshape⟩
  kept := by
    intro place e h hwritten
    exact second.kept place e (first.kept place e h hwritten) hwritten
  tree := fun h => second.tree (first.tree h)

theorem weaken (h : Keeps written d d') (hmore : ∀ place, written place → more place) :
    Keeps more d d' where
  home := h.home
  scratch := h.scratch
  grows := h.grows
  kept := fun place e hplace hno => h.kept place e hplace fun hyes => hno (hmore place hyes)
  tree := h.tree

/-- What writes nowhere writes at most where something else does. -/
theorem anywhere (h : Keeps nowhere d d') : Keeps written d d' := h.weaken fun _ hno => hno.elim

/-! ## Paths on a disk that keeps another -/

theorem start_eq (h : Keeps written d d') (p : FilePath) : d'.start p = d.start p := by
  unfold start
  rw [h.home]

/-- A path leads where it led. -/
theorem find (h : Keeps written d d') (hfind : d.find p follow = .ok (.present q e)) :
    ∃ e', d'.find p follow = .ok (.present q e') ∧ e'.shape = e.shape := by
  obtain ⟨hsay, hleads⟩ := find_ok_iff.mp hfind
  obtain ⟨e', hleads', hshape⟩ := hleads.mono h.grows
  rw [← h.start_eq] at hleads'
  exact ⟨e', find_ok_iff.mpr ⟨hsay, hleads'⟩, hshape⟩

/-- A path that led to a free place leads to what has been put there. -/
theorem find_filled (h : Keeps written d d')
    (hfind : d.find p follow = .ok (.absent parent name slash))
    (hnew : d'.get? (parent ++ [name]) = some e) (he : ∀ target, e ≠ .link target)
    (hslash : slash = true → e = .directory) :
    d'.find p follow = .ok (.present (parent ++ [name]) e) := by
  obtain ⟨hsay, hleads⟩ := find_ok_iff.mp hfind
  have hleads' := hleads.filled h.grows hnew he hslash
  rw [← h.start_eq] at hleads'
  exact find_ok_iff.mpr ⟨hsay, hleads'⟩

end Keeps

theorem get?_of_find (h : d.find p follow = .ok (.present q e)) : d.get? q = some e :=
  (find_ok_iff.mp h).2.get?_eq

/-- What is read at a path stays, unless it is written. -/
theorem Keeps.find_kept (h : Keeps written d d') (hfind : d.find p follow = .ok (.present q e))
    (hq : ¬written q) : d'.find p follow = .ok (.present q e) := by
  obtain ⟨e', hfind', -⟩ := h.find hfind
  have hget := h.kept q e (get?_of_find hfind) hq
  rw [get?_of_find hfind', Option.some.injEq] at hget
  rw [hfind', hget]

/-! ## Putting something on a disk -/

/-- What is new at a free place of a directory changes nothing. -/
theorem keeps_set_free (hparent : d.get? parent = some .directory)
    (hfree : d.get? (parent ++ [name]) = none) : Keeps nowhere d (d.set (parent ++ [name]) e) := by
  have hset : ∀ other old, d.get? other = some old →
      (d.set (parent ++ [name]) e).get? other = some old := by
    intro other old hold
    rw [get?_set _ _ _ _ (by simp), if_neg]
    · exact hold
    · rintro rfl
      cases hfree.symm.trans hold
  refine ⟨rfl, rfl, fun other old hold => ⟨old, hset other old hold, rfl⟩,
    fun other old hold _ => hset other old hold, ?_⟩
  intro htree other n old hold
  rw [get?_set _ _ _ _ (by simp)] at hold
  split at hold
  · rename_i heq
    obtain ⟨rfl, -⟩ := List.append_inj' heq rfl
    exact hset _ _ hparent
  · exact hset _ _ (htree other n old hold)

/-- A file that holds something else changes its place and no other. -/
theorem keeps_set_file {old : ByteArray} {runnable : Bool}
    (hfile : d.get? place = some (.file old runnable)) (content : ByteArray) :
    Keeps (· = place) d (d.set place (.file content runnable)) := by
  have hbelow : place ≠ [] := by
    rintro rfl
    cases hfile
  have hset : ∀ other e, d.get? other = some e → other ≠ place →
      (d.set place (.file content runnable)).get? other = some e := by
    intro other e hother hne
    rw [get?_set _ _ _ _ hbelow, if_neg hne]
    exact hother
  have hgrows : Grows d (d.set place (.file content runnable)) := by
    intro other e hother
    by_cases hsame : other = place
    · subst hsame
      cases hfile.symm.trans hother
      exact ⟨.file content runnable, by rw [get?_set _ _ _ _ hbelow, if_pos rfl], rfl⟩
    · exact ⟨e, hset other e hother hsame, rfl⟩
  refine ⟨rfl, rfl, hgrows, hset, ?_⟩
  intro htree other n e hother
  rw [get?_set _ _ _ _ hbelow] at hother
  have hparent : d.get? other = some .directory := by
    split at hother
    · rename_i heq
      exact htree other n _ (heq ▸ hfile)
    · exact htree other n e hother
  exact hgrows.directory hparent

/-- What is below something that is not there is not there either. -/
theorem IsTree.above (h : d.IsTree) {front rest : Location}
    (hget : d.get? (front ++ rest) = some e) : ∃ above, d.get? front = some above := by
  induction rest using List.reverseRecOn generalizing e with
  | nil => exact ⟨e, by rwa [List.append_nil] at hget⟩
  | append_singleton rest last ih =>
      rw [← List.append_assoc] at hget
      exact ih (h _ _ _ hget)

theorem IsTree.free_below {q : Location} (h : d.IsTree) (hfree : d.get? place = none)
    (hq : place <+: q) : d.get? q = none := by
  obtain ⟨below, rfl⟩ := hq
  rw [Option.eq_none_iff_forall_ne_some]
  intro e he
  obtain ⟨above, habove⟩ := h.above he
  cases hfree.symm.trans habove

/-- What is left of a tree without one of its trees is a tree. -/
theorem IsTree.without (h : d.IsTree) (place : Location) : (d.eraseTree place).IsTree := by
  intro other n e hother
  rw [get?_eraseTree _ _ _ (by simp)] at hother
  split at hother
  · cases hother
  · rename_i hprefix
    have hparent := h other n e hother
    by_cases htop : other = []
    · subst htop
      rfl
    · rw [get?_eraseTree _ _ _ htop, if_neg]
      · exact hparent
      · rw [List.isPrefixOf_iff_prefix] at hprefix ⊢
        intro habove
        exact hprefix (habove.trans (List.prefix_append _ _))

/-- Taking away what is new leaves what was there. -/
theorem Keeps.eraseTree (h : Keeps written d d') (htree : d.IsTree) (hfree : d.get? place = none) :
    Keeps written d (d'.eraseTree place) := by
  have hbelow : place ≠ [] := by
    rintro rfl
    cases hfree
  have herase : ∀ other e, d'.get? other = some e → ¬place <+: other →
      (d'.eraseTree place).get? other = some e := by
    intro other e hother hprefix
    by_cases htop : other = []
    · subst htop
      exact hother
    · rw [get?_eraseTree _ _ _ htop, if_neg]
      · exact hother
      · rwa [List.isPrefixOf_iff_prefix]
  have hold : ∀ other e, d.get? other = some e → ¬place <+: other := by
    intro other e hother hbelow
    cases (htree.free_below hfree hbelow).symm.trans hother
  refine ⟨h.home, h.scratch, ?_, ?_, ?_⟩
  · intro other e hother
    obtain ⟨e', he', hshape⟩ := h.grows other e hother
    exact ⟨e', herase other e' he' (hold other e hother), hshape⟩
  · intro other e hother hwritten
    exact herase other e (h.kept other e hother hwritten) (hold other e hother)
  · exact fun _ => (h.tree htree).without place

/-- A disk keeps what it had without a tree of it. -/
theorem keeps_of_eraseTree (htree : d.IsTree) (place : Location) :
    Keeps nowhere (d.eraseTree place) d := by
  have hback : ∀ other e, (d.eraseTree place).get? other = some e → d.get? other = some e := by
    intro other e hother
    by_cases htop : other = []
    · subst htop
      exact hother
    · rw [get?_eraseTree _ _ _ htop] at hother
      split at hother
      · cases hother
      · exact hother
  exact ⟨rfl, rfl, fun other e hother => ⟨e, hback other e hother, rfl⟩,
    fun other e hother _ => hback other e hother, fun _ => htree⟩

/-! ## The operations -/

/-- Writing a file writes one place, and then the path leads to it. -/
theorem writeFile_ok (h : d.writeFile p content = .ok d') :
    ∃ place runnable, d' = d.set place (.file content runnable) ∧
      d'.find p true = .ok (.present place (.file content runnable)) ∧
      Keeps (· = place) d d' := by
  unfold writeFile at h
  cases hfind : d.find p true with
  | error e =>
      rw [hfind] at h
      cases h
  | ok found =>
      rw [hfind] at h
      cases found with
      | present place e =>
          cases e with
          | directory => cases h
          | link target => cases h
          | file old runnable =>
              cases h
              have hfile := get?_of_find hfind
              have hkeeps := keeps_set_file hfile content
              obtain ⟨e', hfind', -⟩ := hkeeps.find hfind
              have hnew := get?_of_find hfind'
              have hbelow : place ≠ [] := by
                rintro rfl
                cases hfile
              rw [get?_set _ _ _ _ hbelow, if_pos rfl, Option.some.injEq] at hnew
              subst hnew
              exact ⟨place, runnable, rfl, hfind', hkeeps⟩
      | absent parent name slash =>
          cases slash with
          | true => cases h
          | false =>
              cases h
              obtain ⟨hparent, hfree⟩ := (find_ok_iff.mp hfind).2.missing
              have hkeeps := keeps_set_free (e := .file content false) hparent hfree
              refine ⟨_, false, rfl, hkeeps.find_filled hfind ?_ (by simp) (by simp),
                hkeeps.anywhere⟩
              rw [get?_set _ _ _ _ (by simp), if_pos rfl]

/-- What has been written is read. -/
theorem readBytes_of_find {runnable : Bool}
    (h : d.find p true = .ok (.present place (.file content runnable))) :
    d.readBytes p = .ok content := by
  unfold readBytes
  rw [h]

theorem find_of_readBytes (h : d.readBytes p = .ok content) :
    ∃ place runnable, d.find p true = .ok (.present place (.file content runnable)) := by
  unfold readBytes at h
  split at h
  · cases h
  · rename_i place bytes runnable hfind
    cases h
    exact ⟨place, runnable, hfind⟩
  · cases h
  · cases h

/-- A text that is read stays, unless it is written anywhere. -/
theorem Keeps.readText {text : String} (h : Keeps nowhere d d') (hread : d.readText p = .ok text) :
    d'.readText p = .ok text := by
  have hbytes : ∃ content, d.readBytes p = .ok content := by
    unfold Disk.readText at hread
    cases hbytes : d.readBytes p with
    | error e =>
        rw [hbytes] at hread
        cases hread
    | ok content => exact ⟨content, rfl⟩
  obtain ⟨content, hbytes⟩ := hbytes
  obtain ⟨place, runnable, hfind⟩ := find_of_readBytes hbytes
  have hkept := readBytes_of_find (h.find_kept hfind id)
  unfold Disk.readText at hread ⊢
  rw [hkept]
  rwa [hbytes] at hread

/-- What a path leads to is not lost. -/
theorem Keeps.leadsSomewhere (h : Keeps written d d') (hp : d.leadsSomewhere p = true) :
    d'.leadsSomewhere p = true := by
  unfold Disk.leadsSomewhere at hp
  split at hp
  · rename_i place e hfind
    obtain ⟨e', hfind', -⟩ := h.find hfind
    unfold Disk.leadsSomewhere
    rw [hfind']
  · cases hp

theorem canonical?_of_find (h : d.find p true = .ok (.present place e)) :
    d.canonical? p = some place := by
  unfold canonical?
  rw [h]

theorem find_of_canonical? (h : d.canonical? p = some place) :
    ∃ e, d.find p true = .ok (.present place e) := by
  unfold canonical? at h
  split at h
  · rename_i q e hfind
    cases h
    exact ⟨e, hfind⟩
  · cases h

theorem Keeps.canonical? (h : Keeps written d d') (hp : d.canonical? p = some place) :
    d'.canonical? p = some place := by
  obtain ⟨e, hfind⟩ := find_of_canonical? hp
  obtain ⟨e', hfind', -⟩ := h.find hfind
  exact canonical?_of_find hfind'

theorem copyFile_ok {source target : FilePath} (h : d.copyFile source target = .ok d') :
    ∃ content, d.writeFile target content = .ok d' := by
  unfold copyFile at h
  split at h
  · cases h
  · exact ⟨_, h⟩
  · cases h
  · cases h

/-- Making a directory puts it at a free place. -/
theorem makeDirectory_ok (h : d.makeDirectory p = .ok d') :
    ∃ parent name slash, d.find p false = .ok (.absent parent name slash) ∧
      d' = d.set (parent ++ [name]) .directory := by
  unfold makeDirectory at h
  split at h
  · cases h
  · cases h
  · rename_i parent name slash hfind
    cases h
    exact ⟨parent, name, slash, hfind, rfl⟩

theorem makeDirectory_keeps (h : d.makeDirectory p = .ok d') : Keeps nowhere d d' := by
  obtain ⟨parent, name, slash, hfind, rfl⟩ := makeDirectory_ok h
  obtain ⟨hparent, hfree⟩ := (find_ok_iff.mp hfind).2.missing
  exact keeps_set_free hparent hfree

/-- The path of a directory that was made leads to it. -/
theorem find_of_made (h : d.makeDirectory p = .ok d') :
    ∃ parent name, d' = d.set (parent ++ [name]) .directory ∧
      d.get? (parent ++ [name]) = none ∧
      d'.find p true = .ok (.present (parent ++ [name]) .directory) := by
  have hkeeps := makeDirectory_keeps h
  obtain ⟨parent, name, slash, hfind, rfl⟩ := makeDirectory_ok h
  have hnew : (d.set (parent ++ [name]) .directory).get? (parent ++ [name]) = some .directory := by
    rw [get?_set _ _ _ _ (by simp), if_pos rfl]
  obtain ⟨-, hfree⟩ := (find_ok_iff.mp hfind).2.missing
  obtain ⟨hsay, hleads⟩ :=
    find_ok_iff.mp (hkeeps.find_filled hfind hnew (by simp) fun _ => rfl)
  exact ⟨parent, name, rfl, hfree, find_ok_iff.mpr ⟨hsay, hleads.followed (by simp)⟩⟩

theorem orIsDirectory_keeps {made : Except Error Disk}
    (hmade : ∀ left, made = .ok left → Keeps nowhere d left) :
    Keeps nowhere d (d.orIsDirectory p made).2 := by
  unfold orIsDirectory
  split
  · exact hmade _ rfl
  · split <;> exact .refl _ _

/-- Making directories writes nowhere, also if it fails in the end. -/
theorem attemptDirectoriesFrom_keeps (budget : Nat) (d : Disk) (p : FilePath) :
    Keeps nowhere d (attemptDirectoriesFrom budget d p).2 := by
  induction budget generalizing d p with
  | zero => exact .refl _ _
  | succ budget ih =>
      unfold attemptDirectoriesFrom
      split
      · exact .refl _ _
      · split
        · rename_i made hmake
          exact makeDirectory_keeps hmake
        · split
          · exact .refl _ _
          · rename_i parent hparent
            have habove := ih d parent
            split
            · rename_i e left hleft
              rwa [hleft] at habove
            · rename_i made hmade
              rw [hmade] at habove
              exact habove.trans (orIsDirectory_keeps fun _ hmake => makeDirectory_keeps hmake)
        · exact orIsDirectory_keeps fun _ hmake => by cases hmake

/-- Neither does making the directory of a file. -/
theorem attemptParent_keeps (d : Disk) (p : FilePath) : Keeps nowhere d (d.attemptParent p).2 := by
  unfold attemptParent
  split
  · split
    · exact .refl _ _
    · exact attemptDirectoriesFrom_keeps _ _ _
  · exact .refl _ _

theorem makeParent_keeps (h : d.makeParent p = .ok d') : Keeps nowhere d d' := by
  have hkeeps := attemptParent_keeps d p
  rwa [Attempt.complete_ok h] at hkeeps

end Expansion.Disk
