import Expansion.Proofs.Disk.Keeps

/-!
# Scratch directories

A scratch directory is made at a free place and is empty, so nothing that is below it is older than
it is.

* **What is in a new directory is found there or not at all** (`find_child_of_free`), wherever the
  rest of the disk's symbolic links may lead.
* Two scratch directories lie beside each other, so what is staged in one is not in the other
  (`Opened.vacant`).
-/

namespace Expansion.Disk

variable {d d' d₁ : Disk} {p : FilePath} {follow : Bool} {found : Found}
variable {place q : Location} {name piece : String} {rest : List String} {content : ByteArray}
variable {written : Location → Prop}

/-! ## Names -/

theorem slash_not_mem_sixDigits (n : Nat) : '/' ∉ (sixDigits n).toList := by
  unfold sixDigits
  simp only [String.toList_ofList, List.mem_append, not_or]
  refine ⟨fun h => ?_, fun h => ?_⟩
  · exact absurd (List.eq_of_mem_replicate h) (by decide)
  · exact absurd (Nat.isDigit_of_mem_toDigits (by decide) (by decide) h) (by decide)

/-- A text without slashes is one piece. -/
theorem piecesOf_of_no_slash (h : '/' ∉ name.toList) : piecesOf name = [name] := by
  obtain ⟨first, others, hnil, hname⟩ := Text.splitChars_of_not_mem h []
  cases hnil
  unfold piecesOf Text.splitOn
  rw [List.append_nil] at hname
  rw [hname]
  simp

/-- A piece that begins with something else than a dot is plain. -/
theorem isPlain_of_head {c : Char} (h : name.toList.head? = some c) (hdot : c ≠ '.') :
    IsPlain name := by
  refine ⟨?_, ?_⟩
  · rintro (rfl | rfl)
    · cases h
    · exact hdot (Option.some.inj h).symm
  · rintro rfl
    exact hdot (Option.some.inj h).symm

/-- A text that begins with something else than a dot or a slash has a plain first piece. -/
theorem exists_plain_of_head {c : Char} (h : name.toList.head? = some c) (hdot : c ≠ '.')
    (hslash : c ≠ '/') : ∃ piece rest, piecesOf name = piece :: rest ∧ IsPlain piece := by
  unfold piecesOf Text.splitOn
  cases htext : name.toList with
  | nil =>
      rw [htext] at h
      cases h
  | cons first others =>
      rw [htext] at h
      obtain rfl : first = c := Option.some.inj h
      obtain ⟨more, pieces, -, hsplit⟩ := Text.splitChars_cons_of_ne hslash others
      rw [hsplit]
      exact ⟨_, _, rfl, isPlain_of_head (by simp) hdot⟩

theorem freshScratch_eq (d : Disk) (stem suffix : String) :
    ∃ n, d.freshScratch stem suffix = d.scratch.child (stem ++ sixDigits n ++ suffix) := by
  unfold freshScratch
  dsimp only
  cases hfind : ((List.range (d.entries.length + 1)).map (d.scratchPath stem suffix)).find?
      fun p => !d.isTaken p with
  | none => exact ⟨0, rfl⟩
  | some p =>
      obtain ⟨n, -, rfl⟩ := List.mem_map.mp (List.mem_of_find?_eq_some hfind)
      exact ⟨n, rfl⟩

/-! ## What is in a directory -/

/-- What is to be found in a directory that does not have its first piece is missing there. -/
theorem find_child_of_free (hname : piecesOf name = piece :: rest) (hplain : IsPlain piece)
    (hinside : Leads d true linkLimit (d.start p) (front p) (.present place .directory))
    (hfree : d.get? (place ++ [piece]) = none) (h : d.find (p.child name) follow = .ok found) :
    found = .absent place piece !rest.isEmpty := by
  obtain ⟨q, links, hfront, hrest⟩ := find_child hname hplain h
  cases hfront.unique hinside
  exact hrest.absent_of_free hplain hfree

theorem leadsSomewhere_of_free (hname : piecesOf name = piece :: rest) (hplain : IsPlain piece)
    (hinside : Leads d true linkLimit (d.start p) (front p) (.present place .directory))
    (hfree : d.get? (place ++ [piece]) = none) : d.leadsSomewhere (p.child name) = false := by
  unfold leadsSomewhere
  split
  · rename_i hfind
    cases find_child_of_free hname hplain hinside hfree hfind
  · rfl

/-- What is written to a directory that does not have it is new there. -/
theorem writeFile_of_free (hname : piecesOf name = piece :: rest) (hplain : IsPlain piece)
    (hinside : Leads d true linkLimit (d.start p) (front p) (.present place .directory))
    (hfree : d.get? (place ++ [piece]) = none) (h : d.writeFile (p.child name) content = .ok d') :
    d' = d.set (place ++ [piece]) (.file content false) := by
  unfold writeFile at h
  cases hfind : d.find (p.child name) true with
  | error e =>
      rw [hfind] at h
      cases h
  | ok found =>
      rw [hfind] at h
      cases find_child_of_free hname hplain hinside hfree hfind
      dsimp only at h
      split at h
      · cases h
      · exact (Except.ok.inj h).symm

/-- A way by directories stays. -/
theorem Keeps.inside {pieces : List String} (h : Keeps written d d')
    (hleads : Leads d true linkLimit (d.start p) pieces (.present place .directory)) :
    Leads d' true linkLimit (d'.start p) pieces (.present place .directory) := by
  obtain ⟨e, hleads', hshape⟩ := hleads.mono h.grows
  rw [h.start_eq, ← Entry.eq_directory_of_shape hshape]
  exact hleads'

/-! ## Opening a directory -/

/-- Making a directory at a path of the scratch directory that led nowhere. -/
structure Opened (d d' : Disk) (p : FilePath) (place : Location) : Prop where
  free : d.get? place = none
  made : d' = d.set place .directory
  keeps : Keeps nowhere d d'
  found : d'.find p false = .ok (.present place .directory)
  inside : Leads d' true linkLimit (d'.start p) (front p) (.present place .directory)
  empty : ∀ name, d'.get? (place ++ [name]) = none
  beside : Leads d true linkLimit (d.start d.scratch) (front d.scratch)
    (.present place.dropLast .directory)

/-- The way to a child is what comes before the names of its own children. -/
theorem front_child (hslash : '/' ∉ name.toList) (hplain : IsPlain name) (p : FilePath) :
    front (p.child name) = piecesOf (p.child name).text := by
  have habsolute := isAbsolute_of_plain (piecesOf_of_no_slash hslash) hplain
  obtain ⟨above, htext⟩ := exists_text_child p habsolute
  have hname : name.toList ≠ [] := by
    intro hnil
    exact hplain.speaks (.inl (String.toList_eq_nil_iff.mp hnil))
  obtain ⟨c, hlast⟩ : ∃ c, name.toList.getLast? = some c :=
    Option.isSome_iff_exists.mp (by simpa using hname)
  have hc : c ≠ '/' := by
    rintro rfl
    exact hslash (List.mem_of_getLast? hlast)
  have hend : (p.child name).text.toList.getLast? = some c := by
    rw [htext, String.toList_append, List.getLast?_append, hlast]
    rfl
  unfold front
  rw [hend]
  split
  · rename_i hnone
    cases hnone
  · rename_i hslash'
    exact absurd (Option.some.inj hslash') hc
  · rfl

theorem opened_of_makeDirectory (htree : d.IsTree) (hslash : '/' ∉ name.toList)
    (hplain : IsPlain name) (h : d.makeDirectory (d.scratch.child name) = .ok d') :
    ∃ place, Opened d d' (d.scratch.child name) place := by
  obtain ⟨parent, last, slash, hfind, rfl⟩ := makeDirectory_ok h
  have hkeeps := makeDirectory_keeps h
  obtain ⟨hparent, hfree⟩ := (find_ok_iff.mp hfind).2.missing
  have hone := piecesOf_of_no_slash hslash
  obtain ⟨q, links, hfront, hlast⟩ := find_child hone hplain hfind
  obtain ⟨rfl, rfl⟩ := hlast.last_missing hplain
  have hnew : (d.set (parent ++ [last]) .directory).get? (parent ++ [last]) = some .directory := by
    rw [get?_set _ _ _ _ (by simp), if_pos rfl]
  have hfound := hkeeps.find_filled hfind hnew (by simp) (fun _ => rfl)
  refine ⟨parent ++ [last], hfree, rfl, hkeeps, hfound, ?_, ?_, ?_⟩
  · rw [front_child hslash hplain]
    exact (find_ok_iff.mp hfound).2.followed (by simp)
  · intro other
    rw [get?_set _ _ _ _ (by simp), if_neg (by simp)]
    rw [Option.eq_none_iff_forall_ne_some]
    intro e he
    cases hfree.symm.trans (htree _ _ _ he)
  · rw [List.dropLast_concat]
    exact hfront

/-- The disks on which a compilation with generated text may be asked for: the disk itself, and the
disk with a scratch file in a new scratch directory. -/
def Staged (d d' : Disk) : Prop :=
  d' = d ∨ ∃ d₂ p place piece content, Opened d d₂ p place ∧
    d' = d₂.set (place ++ [piece]) (.file content false)

section

variable {d₂ : Disk} {p₂ : FilePath} {place₂ : Location}

theorem Opened.ne_top (h : Opened d d₁ p place) : place ≠ [] := by
  rintro rfl
  cases h.free

/-- Two scratch directories that are made one after the other are in the same directory. -/
theorem Opened.dropLast_eq (h : Opened d d₁ p place) (h₂ : Opened d₁ d₂ p₂ place₂) :
    place₂.dropLast = place.dropLast := by
  have hold := h.keeps.inside h.beside
  rw [← h.keeps.scratch] at hold
  injection h₂.beside.unique hold

theorem Opened.place_ne (h : Opened d d₁ p place) (h₂ : Opened d₁ d₂ p₂ place₂) :
    place ≠ place₂ := by
  rintro rfl
  cases h₂.free.symm.trans (get?_of_find h.found)

/-- The second is not in the first. -/
theorem Opened.child_ne (h : Opened d d₁ p place) (h₂ : Opened d₁ d₂ p₂ place₂) :
    place ++ [piece] ≠ place₂ := by
  rintro rfl
  have hbeside := h.dropLast_eq h₂
  rw [List.dropLast_concat] at hbeside
  have hlength := congrArg List.length hbeside
  rw [List.length_dropLast] at hlength
  exact h.ne_top (List.length_eq_zero_iff.mp (by omega))

/-- A new directory is still there, and still empty, when another scratch directory has been made
and filled. -/
theorem Opened.staged (h : Opened d d₁ p place) (hstaged : Staged d₁ d') (piece : String) :
    Leads d' true linkLimit (d'.start p) (front p) (.present place .directory) ∧
      d'.get? (place ++ [piece]) = none := by
  rcases hstaged with rfl | ⟨d₂, p₂, place₂, piece₂, content, h₂, rfl⟩
  · exact ⟨h.inside, h.empty piece⟩
  · have hplace₂ := get?_of_find h₂.found
    have hkeeps₂ : Keeps nowhere d₂ (d₂.set (place₂ ++ [piece₂]) (.file content false)) :=
      keeps_set_free hplace₂ (h₂.empty piece₂)
    refine ⟨hkeeps₂.inside (h₂.keeps.inside h.inside), ?_⟩
    have hbeside : place ++ [piece] ≠ place₂ ++ [piece₂] :=
      fun heq => h.place_ne h₂ (List.append_inj' heq rfl).1
    rw [get?_set _ _ _ _ (by simp), if_neg hbeside, h₂.made, get?_set _ _ _ _ h₂.ne_top,
      if_neg (h.child_ne h₂)]
    exact h.empty piece

theorem Opened.vacant (h : Opened d d₁ p place) (hstaged : Staged d₁ d')
    (hname : piecesOf name = piece :: rest) (hplain : IsPlain piece) :
    d'.leadsSomewhere (p.child name) = false := by
  obtain ⟨hinside, hfree⟩ := h.staged hstaged piece
  exact leadsSomewhere_of_free hname hplain hinside hfree

/-- The disks on which a compilation is asked for are trees, if the first one is. -/
theorem Staged.tree (h : Staged d d') (htree : d.IsTree) : d'.IsTree := by
  rcases h with rfl | ⟨d₂, p₂, place₂, piece₂, content, h₂, rfl⟩
  · exact htree
  · exact (keeps_set_free (get?_of_find h₂.found) (h₂.empty piece₂)).tree (h₂.keeps.tree htree)

end

end Expansion.Disk
