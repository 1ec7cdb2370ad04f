import Expansion.Proofs.Disk.Confined
import Expansion.Proofs.Disk.Fresh
import Expansion.Proofs.Disk.Rewrite

/-!
# The same work on a later disk

Work that was done on one disk is done once more on another that has kept what the first had. It
meets the same names and reads the same files, if nobody has been at them in between.

* **A path that led to a free place still leads there**, if the place is still free
  (`Keeps.find_absent`).
* **The same scratch directory is made** where the same of the numbered names are taken
  (`Opened.again`), since a scratch directory gets the least number whose name is free.
* **A file reads the same** while work with scratch directories is under way (`Steady`), if it read
  the same before and is none that only such a directory brings about.

`Repeats` is what two disks have to have in common for work with scratch directories, and it is kept
when both open one (`Repeats.opened`).
-/

namespace Expansion.Disk

variable {d d' e e' d₁ d₁' : Disk} {p : FilePath} {follow slash : Bool} {links : Nat}
variable {place q parent : Location} {name piece stem suffix : String} {pieces rest : List String}
variable {content : ByteArray} {written : Location → Prop} {found : Found}

/-! ## Free places -/

theorem Leads.still_absent (h : Leads d follow links place pieces (.absent parent name slash))
    (hd : Grows d d') (hfree : d'.get? (parent ++ [name]) = none) :
    Leads d' follow links place pieces (.absent parent name slash) := by
  generalize hfound : Found.absent parent name slash = found at h
  induction h with
  | stop => cases hfound
  | idle hhere hidle _ ih => exact .idle (hd.directory hhere) hidle (ih hfound)
  | up hhere _ ih => exact .up (hd.directory hhere) (ih hfound)
  | free hhere hname _ hall =>
      cases hfound
      exact .free (hd.directory hhere) hname hfree hall
  | lastLink => cases hfound
  | link hhere hname hnext hlast _ ih =>
      exact .link (hd.directory hhere) hname (hd.link hnext) hlast (ih hfound)
  | step hhere hname hnext hentry _ ih =>
      obtain ⟨entry', hget, hentry'⟩ := hd _ _ hnext
      refine .step (hd.directory hhere) hname hget ?_ (ih hfound)
      rintro target rfl
      exact hentry target (Entry.eq_link_of_shape hentry'.symm)

/-- A path that led to a free place leads there as long as it is free. -/
theorem Keeps.find_absent (h : Keeps written d d')
    (hfind : d.find p follow = .ok (.absent parent name slash))
    (hfree : d'.get? (parent ++ [name]) = none) :
    d'.find p follow = .ok (.absent parent name slash) := by
  obtain ⟨hsay, hleads⟩ := find_ok_iff.mp hfind
  have hleads' := hleads.still_absent h.grows hfree
  rw [← h.start_eq] at hleads'
  exact find_ok_iff.mpr ⟨hsay, hleads'⟩

/-- What is free on a later disk was free before. -/
theorem Keeps.free (h : Keeps written d d') (hfree : d'.get? place = none) :
    d.get? place = none := by
  rw [Option.eq_none_iff_forall_ne_some]
  intro old hold
  obtain ⟨_, hnew, -⟩ := h.grows place old hold
  cases hfree.symm.trans hnew

/-! ## The same change on both disks -/

/-- What is put at the same place of both disks makes no difference between them. -/
theorem Keeps.set_both (h : Keeps written d d') (entry : Entry) (hplace : place ≠ [])
    (htree : (d'.set place entry).IsTree) :
    Keeps written (d.set place entry) (d'.set place entry) where
  home := h.home
  scratch := h.scratch
  grows := by
    intro other old hold
    rw [get?_set _ _ _ _ hplace] at hold ⊢
    split at hold
    · rename_i hsame
      cases hold
      rw [if_pos hsame]
      exact ⟨entry, rfl, rfl⟩
    · rename_i hother
      rw [if_neg hother]
      exact h.grows other old hold
  kept := by
    intro other old hold hwritten
    rw [get?_set _ _ _ _ hplace] at hold ⊢
    split at hold
    · rename_i hsame
      rwa [if_pos hsame]
    · rename_i hother
      rw [if_neg hother]
      exact h.kept other old hold hwritten
  tree := fun _ => htree

/-- Neither does taking away the same tree. -/
theorem Keeps.erase_both (h : Keeps written d d') (htree : d'.IsTree) (place : Location) :
    Keeps written (d.eraseTree place) (d'.eraseTree place) where
  home := h.home
  scratch := h.scratch
  grows := by
    intro other old hold
    by_cases htop : other = []
    · subst htop
      exact ⟨old, hold, rfl⟩
    · rw [get?_eraseTree _ _ _ htop] at hold ⊢
      split at hold
      · cases hold
      · rename_i hbeside
        rw [if_neg hbeside]
        exact h.grows other old hold
  kept := by
    intro other old hold hwritten
    by_cases htop : other = []
    · subst htop
      exact hold
    · rw [get?_eraseTree _ _ _ htop] at hold ⊢
      split at hold
      · cases hold
      · rename_i hbeside
        rw [if_neg hbeside]
        exact h.kept other old hold hwritten
  tree := fun _ => htree.without place

/-- Only a directory has anything below it. -/
theorem IsTree.free_below_file (h : d.IsTree) {entry : Entry} (hplace : d.get? place = some entry)
    (hfile : entry ≠ .directory) (hq : place <+: q) (hne : q ≠ place) : d.get? q = none := by
  obtain ⟨below, rfl⟩ := hq
  cases below with
  | nil => exact absurd (List.append_nil place) hne
  | cons next others =>
      have hfree : d.get? (place ++ [next]) = none := by
        rw [Option.eq_none_iff_forall_ne_some]
        intro old hold
        exact hfile (Option.some.inj (hplace.symm.trans (h _ _ _ hold)))
      exact h.free_below hfree ⟨others, by simp⟩

/-- What two pieces of work put at one place makes no difference if it is the same, and has nothing
below it. -/
theorem Keeps.written_both (h : Keeps written d d') (hd : Confined (place <+: ·) d e)
    (hd' : Confined (place <+: ·) d' e') {entry : Entry} (hroot : e.get? place = some entry)
    (hroot' : e'.get? place = some entry) (hfile : entry ≠ .directory) (htree : e.IsTree)
    (htree' : e'.IsTree) : Keeps written e e' := by
  have hnew : ∀ other old, e.get? other = some old → place <+: other → other = place := by
    intro other old hold hbelow
    by_contra hne
    cases (htree.free_below_file hroot hfile hbelow hne).symm.trans hold
  have hsame : ∀ other, ¬place <+: other →
      e.get? other = d.get? other ∧ e'.get? other = d'.get? other :=
    fun other hother => ⟨hd.same other hother, hd'.same other hother⟩
  refine ⟨?_, ?_, ?_, ?_, fun _ => htree'⟩
  · rw [hd'.home, h.home, hd.home]
  · rw [hd'.scratch, h.scratch, hd.scratch]
  · intro other old hold
    by_cases hbelow : place <+: other
    · obtain rfl := hnew other old hold hbelow
      cases hroot.symm.trans hold
      exact ⟨entry, hroot', rfl⟩
    · obtain ⟨hleft, hright⟩ := hsame other hbelow
      rw [hright]
      exact h.grows other old (hleft.symm.trans hold)
  · intro other old hold hwritten
    by_cases hbelow : place <+: other
    · obtain rfl := hnew other old hold hbelow
      cases hroot.symm.trans hold
      exact hroot'
    · obtain ⟨hleft, hright⟩ := hsame other hbelow
      rw [hright]
      exact h.kept other old (hleft.symm.trans hold) hwritten

/-! ## Numbered names -/

/-- A name that a walk from a directory takes is one that an entry may have. -/
theorem Leads.isName (h : Leads d follow links place (piece :: rest) found)
    (hplain : IsPlain piece) : IsName piece := by
  cases h with
  | idle _ hidle _ => exact absurd hidle hplain.speaks
  | up => exact absurd rfl hplain.down
  | free _ hname => exact hname
  | lastLink _ hname => exact hname
  | link _ hname => exact hname
  | step _ hname => exact hname

/-- The path of a child is taken if the directory has the name. -/
theorem isTaken_child_iff (hslash : '/' ∉ name.toList) (hplain : IsPlain name)
    (hinside : Leads d true linkLimit (d.start p) (front p) (.present place .directory)) :
    d.isTaken (p.child name) = true ↔
      Sayable (p.child name) ∧ IsName name ∧ d.get? (place ++ [name]) ≠ none := by
  have hpieces := piecesOf_of_no_slash hslash
  constructor
  · intro h
    obtain ⟨reached, hfront, hthere⟩ := get?_of_isTaken hpieces hplain h
    cases hfront.unique hinside
    unfold isTaken at h
    split at h
    · rename_i hfind
      obtain ⟨_, _, -, hlast⟩ := find_child hpieces hplain hfind
      exact ⟨(find_ok_iff.mp hfind).1, hlast.isName hplain, hthere⟩
    · cases h
  · rintro ⟨hsay, hname, hthere⟩
    obtain ⟨entry, hentry⟩ := Option.ne_none_iff_exists'.mp hthere
    have habsolute := isAbsolute_of_plain hpieces hplain
    have hdirectory := hinside.get?_eq
    have hlast : ∀ left, Leads d false left place [name] (.present (place ++ [name]) entry) := by
      intro left
      cases entry with
      | directory => exact .step hdirectory hname hentry (by simp) (.stop hentry)
      | file bytes runnable => exact .step hdirectory hname hentry (by simp) (.stop hentry)
      | link target => exact .lastLink hdirectory hname hentry rfl
    have hfind : d.find (p.child name) false = .ok (.present (place ++ [name]) entry) := by
      rw [find_ok_iff, piecesOf_child p habsolute, hpieces, start, isAbsolute_child p habsolute]
      exact ⟨hsay, hinside.append hlast⟩
    unfold isTaken
    rw [hfind]

/-- The same of the numbered names are taken. -/
def SameNames (stem : String) (d d' : Disk) : Prop :=
  ∀ n, d'.isTaken (d'.scratchPath stem "" n) = d.isTaken (d.scratchPath stem "" n)

/-- A new directory is at the place where it was put. -/
theorem Opened.place_eq (h : Opened d e p place) (hmade : e = d.set q .directory) (hq : q ≠ [])
    (hfree : d.get? q = none) : place = q := by
  have hthere : e.get? q = some .directory := by
    rw [hmade, get?_set _ _ _ _ hq, if_pos rfl]
  by_contra hother
  rw [h.made, get?_set _ _ _ _ h.ne_top, if_neg (Ne.symm hother), hfree] at hthere
  cases hthere

section

variable {c : Char} (hhead : stem.toList.head? = some c) (hdot : c ≠ '.')
variable (hslash : '/' ∉ stem.toList)

include hhead hdot hslash

/-- A scratch path has the least number that is free. -/
theorem freshScratch_least (d : Disk) (suffix : String) :
    ∃ n, d.freshScratch stem suffix = d.scratchPath stem suffix n ∧
      d.isTaken (d.scratchPath stem suffix n) = false ∧
      ∀ k < n, d.isTaken (d.scratchPath stem suffix k) = true := by
  obtain ⟨free, hfree, huntaken⟩ := exists_untaken hhead hdot hslash d suffix
  unfold freshScratch
  dsimp only
  rw [List.find?_map]
  cases hfind : (List.range (d.entries.length + 1)).find?
      ((fun p => !d.isTaken p) ∘ d.scratchPath stem suffix) with
  | none =>
      have htaken := List.find?_eq_none.mp hfind free (List.mem_range.mpr hfree)
      simp [huntaken] at htaken
  | some n =>
      obtain ⟨hn, -, hbefore⟩ := List.find?_range_eq_some.mp hfind
      refine ⟨n, rfl, by simpa using hn, ?_⟩
      intro k hk
      simpa using hbefore k hk

theorem SameNames.freshScratch_eq (h : SameNames stem d d') (hscratch : d'.scratch = d.scratch) :
    d'.freshScratch stem "" = d.freshScratch stem "" := by
  obtain ⟨n, hn, hfree, hbefore⟩ := freshScratch_least hhead hdot hslash d ""
  obtain ⟨n', hn', hfree', hbefore'⟩ := freshScratch_least hhead hdot hslash d' ""
  have hsame : n' = n := by
    rcases Nat.lt_trichotomy n' n with hless | rfl | hmore
    · have htaken := h n'
      rw [hfree', hbefore n' hless] at htaken
      cases htaken
    · rfl
    · have htaken := h n
      rw [hfree, hbefore' n hmore] at htaken
      cases htaken
  rw [hn, hn', hsame]
  unfold scratchPath
  rw [hscratch]

theorem plain_numbered (n : Nat) :
    '/' ∉ (stem ++ sixDigits n ++ "").toList ∧ IsPlain (stem ++ sixDigits n ++ "") := by
  refine ⟨?_, isPlain_numbered hhead hdot n ""⟩
  rw [String.append_empty, String.toList_append, List.mem_append, not_or]
  exact ⟨hslash, slash_not_mem_sixDigits n⟩

/-- On two disks with the same scratch directory, the same names are taken if the directory has the
same of those that the operating system takes. -/
theorem sameNames_iff (hscratch : d'.scratch = d.scratch)
    (hinside : Leads d true linkLimit (d.start d.scratch) (front d.scratch)
      (.present place .directory))
    (hinside' : Leads d' true linkLimit (d'.start d.scratch) (front d.scratch)
      (.present place .directory)) :
    SameNames stem d d' ↔ ∀ n, Sayable (d.scratchPath stem "" n) →
      IsName (stem ++ sixDigits n ++ "") →
      (d'.get? (place ++ [stem ++ sixDigits n ++ ""]) = none ↔
        d.get? (place ++ [stem ++ sixDigits n ++ ""]) = none) := by
  refine forall_congr' fun n => ?_
  obtain ⟨hnoslash, hplain⟩ := plain_numbered hhead hdot hslash n
  unfold scratchPath
  rw [hscratch, Bool.eq_iff_iff, isTaken_child_iff hnoslash hplain hinside,
    isTaken_child_iff hnoslash hplain hinside']
  tauto

/-- When both disks have got the same directory, the same names are taken again. -/
theorem SameNames.opened (h : SameNames stem d d') (hkeeps : Keeps written d d')
    (hopened : Opened d e p place) (hopened' : Opened d' e' p place) : SameNames stem e e' := by
  have hinside := hopened.beside
  have hinside' := hkeeps.inside hinside
  have hscratch : e'.scratch = e.scratch := by
    rw [hopened'.keeps.scratch, hkeeps.scratch, hopened.keeps.scratch]
  rw [sameNames_iff hhead hdot hslash hkeeps.scratch hinside hinside'] at h
  rw [sameNames_iff hhead hdot hslash hscratch
    (hopened.keeps.scratch ▸ hopened.keeps.inside hinside)
    (hopened.keeps.scratch ▸ hopened'.keeps.inside hinside')]
  intro n hsay hname
  rw [scratchPath, hopened.keeps.scratch] at hsay
  rw [hopened.made, hopened'.made, get?_set _ _ _ _ hopened.ne_top, get?_set _ _ _ _ hopened.ne_top]
  split
  · simp
  · exact h n hsay hname

/-- **The same scratch directory is made on both disks.** -/
theorem Opened.again (hkeeps : Keeps written d d') (hnames : SameNames stem d d')
    (htree : d.IsTree) (hmake : d.makeDirectory (d.freshScratch stem "") = .ok e) :
    ∃ place e', d'.freshScratch stem "" = d.freshScratch stem "" ∧
      d'.makeDirectory (d.freshScratch stem "") = .ok e' ∧
      Opened d e (d.freshScratch stem "") place ∧ Opened d' e' (d.freshScratch stem "") place ∧
      Keeps written e e' ∧ SameNames stem e e' := by
  have hfresh := hnames.freshScratch_eq hhead hdot hslash hkeeps.scratch
  have htree' := hkeeps.tree htree
  obtain ⟨n, hn, -, -⟩ := freshScratch_least hhead hdot hslash d ""
  obtain ⟨hnoslash, hplain⟩ := plain_numbered hhead hdot hslash n
  rw [hn] at hmake hfresh ⊢
  -- Where the directory is made tells where its name is missing on the later disk.
  obtain ⟨parent, last, slash, hfind, hmade⟩ := makeDirectory_ok hmake
  obtain ⟨reached, links, hfront, hlast⟩ :=
    find_child (piecesOf_of_no_slash hnoslash) hplain hfind
  obtain ⟨rfl, rfl⟩ := hlast.last_missing hplain
  have hsay := (find_ok_iff.mp hfind).1
  have hname := hlast.isName hplain
  have hfree := (find_ok_iff.mp hfind).2.missing.2
  have hfront' := hkeeps.inside hfront
  have hfree' := ((sameNames_iff hhead hdot hslash hkeeps.scratch hfront hfront').mp hnames n hsay
    hname).mpr hfree
  have hmake' := makeDirectory_child hnoslash hname hsay hfront' hfree'
  obtain ⟨place, hopened⟩ := opened_of_makeDirectory htree hnoslash hplain hmake
  obtain ⟨place', hopened'⟩ := opened_of_makeDirectory htree' hnoslash hplain
    (hkeeps.scratch ▸ hmake')
  rw [hkeeps.scratch] at hopened'
  obtain rfl := hopened.place_eq hmade (by simp) hfree
  obtain rfl := hopened'.place_eq rfl (by simp) hfree'
  have hboth := hkeeps.set_both .directory (by simp)
    ((makeDirectory_keeps hmake').tree htree')
  rw [← hmade] at hboth
  exact ⟨_, _, hfresh, hmake', hopened, hopened', hboth,
    hnames.opened hhead hdot hslash hkeeps hopened hopened'⟩

end

end Expansion.Disk
