import Expansion.Proofs.Disk.Scratch

/-!
# What can be made

`find_child` says where the path of a child leads if it leads anywhere; here it is the other way
round. In a directory that a path leads to, a name that is not there yet can be given to a directory
(`makeDirectory_child`) or to a file (`writeFile_child`), if the operating system takes the path.
-/

namespace Expansion.Disk

variable {d : Disk} {p : FilePath} {follow : Bool} {found : Found} {links : Nat}
variable {place q : Location} {name piece : String} {before rest : List String}
variable {content : ByteArray}

/-- A walk to a directory goes on from there, if it needs no more links. -/
theorem Leads.append (h : Leads d true links place before (.present q .directory))
    (hrest : ∀ left, Leads d follow left q (piece :: rest) found) :
    Leads d follow links place (before ++ piece :: rest) found := by
  generalize hdirectory : Found.present q .directory = reached at h
  induction h with
  | stop =>
      cases hdirectory
      exact hrest _
  | idle hhere hidle _ ih => exact .idle hhere hidle (ih hdirectory)
  | up hhere _ ih => exact .up hhere (ih hdirectory)
  | free => cases hdirectory
  | lastLink => cases hdirectory
  | link hhere hname hnext _ _ ih =>
      refine .link hhere hname hnext (by simp) ?_
      have hgoes := ih hdirectory
      rwa [List.append_assoc] at hgoes
  | step hhere hname hnext hentry _ ih => exact .step hhere hname hnext hentry (ih hdirectory)

/-- A path to a name that a directory does not have leads to that name. -/
theorem find_child_free (hslash : '/' ∉ name.toList) (hname : IsName name)
    (hsay : Sayable (p.child name))
    (hinside : Leads d true linkLimit (d.start p) (front p) (.present place .directory))
    (hfree : d.get? (place ++ [name]) = none) :
    d.find (p.child name) follow = .ok (.absent place name false) := by
  have hpieces := piecesOf_of_no_slash hslash
  have habsolute := isAbsolute_of_plain hpieces hname.toIsPlain
  rw [find_ok_iff, piecesOf_child p habsolute, hpieces, start, isAbsolute_child p habsolute]
  exact ⟨hsay, hinside.append fun _ => .free hinside.get?_eq hname hfree rfl⟩

theorem makeDirectory_child (hslash : '/' ∉ name.toList) (hname : IsName name)
    (hsay : Sayable (p.child name))
    (hinside : Leads d true linkLimit (d.start p) (front p) (.present place .directory))
    (hfree : d.get? (place ++ [name]) = none) :
    d.makeDirectory (p.child name) = .ok (d.set (place ++ [name]) .directory) := by
  unfold makeDirectory
  rw [find_child_free hslash hname hsay hinside hfree]

theorem writeFile_child (content : ByteArray) (hslash : '/' ∉ name.toList) (hname : IsName name)
    (hsay : Sayable (p.child name))
    (hinside : Leads d true linkLimit (d.start p) (front p) (.present place .directory))
    (hfree : d.get? (place ++ [name]) = none) :
    d.writeFile (p.child name) content = .ok (d.set (place ++ [name]) (.file content false)) := by
  unfold writeFile
  rw [find_child_free hslash hname hsay hinside hfree]
  rfl

/-! ## Scratch files -/

/-- The first of the numbered names is taken for a scratch file if it is free. -/
theorem freshScratch_of_free {stem suffix : String}
    (h : d.isTaken (d.scratchPath stem suffix 0) = false) :
    d.freshScratch stem suffix = d.scratchPath stem suffix 0 := by
  unfold freshScratch
  dsimp only
  rw [List.range_succ_eq_map, List.map_cons, List.find?_cons_of_pos (by simp [h])]
  rfl

theorem isTaken_of_absent {parent : Location} {slash : Bool}
    (h : d.find p false = .ok (.absent parent name slash)) : d.isTaken p = false := by
  unfold isTaken
  rw [h]

/-- A scratch directory that does not have the first name gives it to a scratch file. -/
theorem freshScratch_first {stem suffix : String} (hfirst : stem ++ sixDigits 0 ++ suffix = name)
    (hslash : '/' ∉ name.toList) (hname : IsName name) (hsay : Sayable (d.scratch.child name))
    (hinside : Leads d true linkLimit (d.start d.scratch) (front d.scratch)
      (.present place .directory))
    (hfree : d.get? (place ++ [name]) = none) :
    d.freshScratch stem suffix = d.scratch.child name ∧
      d.isTaken (d.scratch.child name) = false := by
  have htaken : d.isTaken (d.scratch.child name) = false :=
    isTaken_of_absent (find_child_free hslash hname hsay hinside hfree)
  subst hfirst
  exact ⟨freshScratch_of_free htaken, htaken⟩

/-- What the first scratch path of a disk with an empty `/tmp` can be given to. -/
structure HasRoom (d : Disk) (stem suffix name : String) : Prop where
  inside : Leads d true linkLimit (d.start d.scratch) (front d.scratch) (.present ["tmp"] .directory)
  fresh : d.freshScratch stem suffix = d.scratch.child name
  free : d.isTaken (d.scratch.child name) = false
  directory : d.makeDirectory (d.scratch.child name) = .ok (d.set ["tmp", name] .directory)
  file : ∀ content, d.writeFile (d.scratch.child name) content =
    .ok (d.set ["tmp", name] (.file content false))

theorem hasRoom_of_tmp {stem suffix : String} (hscratch : d.scratch = ⟨"/tmp"⟩)
    (htmp : d.get? ["tmp"] = some .directory) (hfirst : stem ++ sixDigits 0 ++ suffix = name)
    (hslash : '/' ∉ name.toList) (hname : IsName name)
    (hsay : Sayable ((FilePath.mk "/tmp").child name)) (hfree : d.get? ["tmp", name] = none) :
    d.HasRoom stem suffix name := by
  rw [← hscratch] at hsay
  have hinside : Leads d true linkLimit (d.start d.scratch) (front d.scratch)
      (.present ["tmp"] .directory) := by
    have hfront : front ⟨"/tmp"⟩ = ["", "tmp"] := by decide
    rw [hscratch, hfront]
    exact .idle rfl (.inl rfl)
      (.step rfl ⟨⟨by decide, by decide⟩, by decide⟩ htmp (by simp) (.stop htmp))
  obtain ⟨hfresh, huntaken⟩ := freshScratch_first hfirst hslash hname hsay hinside hfree
  exact ⟨hinside, hfresh, huntaken, makeDirectory_child hslash hname hsay hinside hfree,
    fun content => writeFile_child content hslash hname hsay hinside hfree⟩

/-- A disk on which everything is at the top is a tree. -/
theorem isTree_of_flat (h : ∀ entry ∈ d.entries, entry.1.length = 1) : d.IsTree := by
  intro place name e hget
  unfold get? at hget
  rw [if_neg (by simp)] at hget
  obtain ⟨before, after, hentries, -⟩ := List.lookup_eq_some_iff.mp hget
  have hone := h (place ++ [name], e) (by simp [hentries])
  obtain rfl : place = [] := List.length_eq_zero_iff.mp (by simpa using hone)
  rfl

/-! ## Paths that nothing has -/

/-- Where a path leads when links are followed it leads without following the last one, or else it
is the name of something. -/
theorem Leads.unfollowed (h : Leads d true links place before found) :
    Leads d false links place before found ∨
      ∃ q e, Leads d false links place before (.present q e) := by
  induction h with
  | stop hhere => exact .inl (.stop hhere)
  | idle hhere hidle _ ih =>
      exact ih.imp (.idle hhere hidle) fun ⟨q, e, hleads⟩ => ⟨q, e, .idle hhere hidle hleads⟩
  | up hhere _ ih => exact ih.imp (.up hhere) fun ⟨q, e, hleads⟩ => ⟨q, e, .up hhere hleads⟩
  | free hhere hname hfree hall => exact .inl (.free hhere hname hfree hall)
  | lastLink _ _ _ hlast => simp at hlast
  | @link links place piece rest target found hhere hname hnext _ _ ih =>
      cases rest with
      | nil => exact .inr ⟨_, _, .lastLink hhere hname hnext rfl⟩
      | cons next rest =>
          have hgoes : ∀ {found}, _ → Leads d false (links + 1) place (piece :: next :: rest) found :=
            fun hleads => .link hhere hname hnext (by simp) hleads
          exact ih.imp hgoes fun ⟨q, e, hleads⟩ => ⟨q, e, hgoes hleads⟩
  | step hhere hname hnext hentry _ ih =>
      exact ih.imp (.step hhere hname hnext hentry)
        fun ⟨q, e, hleads⟩ => ⟨q, e, .step hhere hname hnext hentry hleads⟩

/-- A path that nothing has leads to the same whether a last link is followed or not. -/
theorem find_of_untaken (hfree : d.isTaken p = false) (h : d.find p true = .ok found) :
    d.find p false = .ok found := by
  obtain ⟨hsay, hleads⟩ := find_ok_iff.mp h
  rcases hleads.unfollowed with hsame | ⟨q, e, hleads'⟩
  · exact find_ok_iff.mpr ⟨hsay, hsame⟩
  · unfold isTaken at hfree
    rw [find_ok_iff.mpr ⟨hsay, hleads'⟩] at hfree
    cases hfree

/-- What is written to a path that nothing has is new. -/
theorem writeFile_of_untaken {d' : Disk} (hfree : d.isTaken p = false)
    (h : d.writeFile p content = .ok d') :
    ∃ parent last, d.find p false = .ok (.absent parent last false) ∧
      d' = d.set (parent ++ [last]) (.file content false) := by
  unfold writeFile at h
  cases hfind : d.find p true with
  | error e =>
      rw [hfind] at h
      cases h
  | ok found =>
      have hfind' := find_of_untaken hfree hfind
      rw [hfind] at h
      cases found with
      | present q e =>
          unfold isTaken at hfree
          rw [hfind'] at hfree
          cases hfree
      | absent parent last slash =>
          cases slash with
          | true => cases h
          | false =>
              cases h
              exact ⟨parent, last, hfind', rfl⟩

theorem keeps_of_untaken {d' : Disk} (hfree : d.isTaken p = false)
    (h : d.writeFile p content = .ok d') : Keeps nowhere d d' := by
  obtain ⟨parent, last, hfind, rfl⟩ := writeFile_of_untaken hfree h
  obtain ⟨hparent, hnew⟩ := (find_ok_iff.mp hfind).2.missing
  exact keeps_set_free hparent hnew

end Expansion.Disk
