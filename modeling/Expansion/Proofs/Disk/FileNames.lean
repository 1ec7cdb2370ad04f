import Expansion.FileKinds
import Expansion.Proofs.Disk.Scratch
import Expansion.Proofs.Text.Lowercase

/-!
# The names of files

A path's file name is a plain name without slashes, and so is what its stem and the lower case of
its extension make. The scratch file of an artifact is named in this way.

* **A name is taken apart at its last dot** (`splitLastDot_sound`, `splitLastDot_complete`), so what
  follows has no dot, and the stem and the extension of a path are those of its name (`HasParts`).
* **A plain name is one step** below the directory that it is put into (`components_child`).
-/

namespace Expansion.FilePath

variable {p : FilePath} {name stem extension : List Char}

/-- Characters that may be the name of an entry. -/
structure IsPlainName (name : List Char) : Prop where
  noSlash : '/' ∉ name
  speaks : name ≠ [] ∧ name ≠ ['.']
  down : name ≠ ['.', '.']

theorem isPlainName_of_componentOf? {piece : List Char} (hslash : '/' ∉ piece)
    (h : componentOf? piece = some (.name name)) : IsPlainName name := by
  unfold componentOf? at h
  split at h
  · cases h
  · rename_i hspeaks
    split at h
    · cases h
    · rename_i hdown
      cases h
      exact ⟨hslash, not_or.mp hspeaks, hdown⟩

theorem isPlainName_of_mem_components (h : .name name ∈ p.components) : IsPlainName name := by
  unfold components at h
  cases hsplit : Text.splitChars '/' p.text.toList with
  | nil => exact absurd hsplit (Text.splitChars_ne_nil _ _)
  | cons first pieces =>
      have hpieces : ∀ piece ∈ first :: pieces, '/' ∉ piece := by
        intro piece hpiece
        rw [← hsplit] at hpiece
        exact Text.not_mem_of_mem_splitChars hpiece
      rw [hsplit] at h
      dsimp only at h
      rcases List.mem_append.mp h with hstart | hlater
      · rw [Option.mem_toList] at hstart
        split at hstart
        · cases hstart
        · split at hstart
          · cases hstart
          · exact isPlainName_of_componentOf? (hpieces first List.mem_cons_self) hstart
      · obtain ⟨piece, hpiece, hname⟩ := List.mem_filterMap.mp hlater
        exact isPlainName_of_componentOf? (hpieces piece (List.mem_cons_of_mem _ hpiece)) hname

/-- A file name is a plain name. -/
theorem isPlainName_of_fileName? (h : p.fileName? = some name) : IsPlainName name := by
  unfold fileName? at h
  split at h
  · rename_i text hlast
    cases h
    exact isPlainName_of_mem_components (List.mem_of_getLast? hlast)
  · cases h

/-- A name without dots is not taken apart. -/
theorem splitLastDot_eq_none_iff : splitLastDot name = none ↔ '.' ∉ name := by
  induction name with
  | nil => exact ⟨fun _ => List.not_mem_nil, fun _ => rfl⟩
  | cons c rest ih =>
      rw [List.mem_cons, not_or, ← ih, splitLastDot]
      cases splitLastDot rest with
      | some found => simp
      | none => simp [eq_comm]

/-- What is taken apart is a name with a dot behind which there is none. -/
theorem splitLastDot_sound (h : splitLastDot name = some (stem, extension)) :
    name = stem ++ '.' :: extension ∧ '.' ∉ extension := by
  induction name generalizing stem with
  | nil => cases h
  | cons c rest ih =>
      rw [splitLastDot] at h
      cases hrest : splitLastDot rest with
      | some found =>
          obtain ⟨front, back⟩ := found
          rw [hrest] at h
          cases h
          obtain ⟨hname, hback⟩ := ih hrest
          exact ⟨by rw [hname]; rfl, hback⟩
      | none =>
          rw [hrest] at h
          dsimp only at h
          split at h
          · rename_i hdot
            cases h
            exact ⟨by rw [hdot]; rfl, splitLastDot_eq_none_iff.mp hrest⟩
          · cases h

/-- Every such name is taken apart there. -/
theorem splitLastDot_complete (h : '.' ∉ extension) :
    splitLastDot (stem ++ '.' :: extension) = some (stem, extension) := by
  induction stem with
  | nil =>
      rw [List.nil_append, splitLastDot, splitLastDot_eq_none_iff.mpr h]
      rfl
  | cons c stem ih => rw [List.cons_append, splitLastDot, ih]

/-- A path whose file name has a stem and an extension. -/
structure HasParts (p : FilePath) (stem extension : List Char) : Prop where
  fileName : p.fileName? = some (stem ++ '.' :: extension)
  speaks : stem ≠ []
  /-- The dot in front of the extension is the last one. -/
  noDot : '.' ∉ extension

theorem HasParts.splitName (h : HasParts p stem extension) :
    FilePath.splitName (stem ++ '.' :: extension) = (stem, some extension) := by
  obtain ⟨first, others, hstem⟩ := List.exists_cons_of_ne_nil h.speaks
  unfold FilePath.splitName
  rw [splitLastDot_complete h.noDot, hstem]

theorem HasParts.stem?_eq (h : HasParts p stem extension) :
    p.stem? = some (String.ofList stem) := by
  unfold stem?
  rw [h.fileName, Option.map_some, h.splitName]

/-- A path with an extension has a stem as well. -/
theorem hasParts_of_extension? {extension : String} (h : p.extension? = some extension) :
    ∃ stem, HasParts p stem extension.toList := by
  unfold extension? at h
  obtain ⟨name, hname, hextension⟩ := Option.bind_eq_some_iff.mp h
  obtain ⟨chars, hchars, rfl⟩ := Option.map_eq_some_iff.mp hextension
  unfold splitName at hchars
  split at hchars
  · rename_i c stem found hsplit
    cases hchars
    obtain ⟨hparts, hdot⟩ := splitLastDot_sound hsplit
    rw [String.toList_ofList]
    exact ⟨c :: stem, hparts ▸ hname, by simp, hdot⟩
  · cases hchars

/-- A stem says something, and it has no slash. -/
theorem spoken_of_stem? {text : String} (h : p.stem? = some text) :
    text.toList ≠ [] ∧ '/' ∉ text.toList := by
  unfold stem? at h
  obtain ⟨name, hname, rfl⟩ := Option.map_eq_some_iff.mp h
  have hplain := isPlainName_of_fileName? hname
  rw [String.toList_ofList]
  unfold splitName
  split
  · rename_i c stem extension hsplit
    refine ⟨by simp, ?_⟩
    have hslash := hplain.noSlash
    rw [(splitLastDot_sound hsplit).1, List.mem_append, not_or] at hslash
    exact hslash.1
  · exact ⟨hplain.speaks.1, hplain.noSlash⟩

/-- A plain name is one that a disk looks up. -/
theorem IsPlainName.isPlain (h : IsPlainName name) : Disk.IsPlain (String.ofList name) := by
  refine ⟨?_, ?_⟩
  · rw [String.ofList_eq_empty_iff, show "." = String.ofList ['.'] from rfl, String.ofList_inj]
    exact not_or.mpr h.speaks
  · rw [show ".." = String.ofList ['.', '.'] from rfl, Ne, String.ofList_inj]
    exact h.down

/-! ## Extensions in lower case -/

/-- A file name of two parts, the second in lower case. -/
def lowered (stem extension : List Char) : List Char :=
  stem ++ '.' :: (Text.lowercase (String.ofList extension)).toList

/-- A plain name stays plain when its extension is put in lower case. -/
theorem IsPlainName.lowered (h : IsPlainName (stem ++ '.' :: extension)) (hstem : stem ≠ []) :
    IsPlainName (lowered stem extension) := by
  have hslash := h.noSlash
  rw [List.mem_append, List.mem_cons, not_or, not_or] at hslash
  obtain ⟨first, others, hfirst⟩ := List.exists_cons_of_ne_nil hstem
  refine ⟨?_, ?_, ?_⟩
  · unfold FilePath.lowered
    rw [List.mem_append, List.mem_cons, not_or, not_or]
    refine ⟨hslash.1, hslash.2.1, Text.sign_not_mem_lowercase Text.isSign_slash ?_⟩
    rw [String.toList_ofList]
    exact hslash.2.2
  · -- the stem and the dot are two characters
    simp [FilePath.lowered, hfirst]
  · -- two dots leave no room for an extension, and then they are the old name as well
    subst hfirst
    intro hdots
    injection hdots with hdot hothers
    cases others with
    | nil =>
        injection hothers with _ hlow
        have hempty := Text.eq_empty_of_lowercase (String.toList_eq_nil_iff.mp hlow)
        obtain rfl : extension = [] := by
          rw [← String.toList_ofList (l := extension), hempty]
          rfl
        exact h.down (by rw [hdot]; rfl)
    | cons second others =>
        injection hothers with _ hothers
        exact absurd hothers (by simp)

/-- A file with this name has its parts. -/
theorem HasParts.lowered (h : HasParts p stem extension) {q : FilePath}
    (hq : q.fileName? = some (lowered stem extension)) :
    HasParts q stem (Text.lowercase (String.ofList extension)).toList where
  fileName := hq
  speaks := h.speaks
  noDot := by
    apply Text.sign_not_mem_lowercase Text.isSign_dot
    rw [String.toList_ofList]
    exact h.noDot

/-! ## One step below a directory -/

theorem components_of_split {first : List Char} {pieces : List (List Char)}
    (hsplit : Text.splitChars '/' p.text.toList = first :: pieces) :
    p.components =
      (if p.isAbsolute then some .root
        else if first = ['.'] then some .here else componentOf? first).toList ++
      pieces.filterMap componentOf? := by
  unfold components
  rw [hsplit]

/-- Pieces that say something more at the end of a path are steps that come behind its steps. -/
theorem components_append {q : FilePath} {first : List Char} {pieces longer : List (List Char)}
    {steps : List Component} (habsolute : q.isAbsolute = p.isAbsolute)
    (hp : Text.splitChars '/' p.text.toList = first :: pieces)
    (hq : Text.splitChars '/' q.text.toList = first :: longer)
    (hsteps : longer.filterMap componentOf? = pieces.filterMap componentOf? ++ steps) :
    q.components = p.components ++ steps := by
  rw [components_of_split hp, components_of_split hq, habsolute, hsteps, List.append_assoc]

theorem IsPlainName.componentOf? (h : IsPlainName name) :
    FilePath.componentOf? name = some (.name name) := by
  unfold FilePath.componentOf?
  rw [if_neg (not_or.mpr h.speaks), if_neg h.down]

theorem IsPlainName.splitChars (h : IsPlainName name) : Text.splitChars '/' name = [name] := by
  obtain ⟨first, others, hnil, hname⟩ := Text.splitChars_of_not_mem h.noSlash []
  cases hnil
  simpa using hname

theorem IsPlainName.isRelative (h : IsPlainName name) :
    (FilePath.mk (String.ofList name)).isAbsolute = false := by
  unfold isAbsolute
  rw [String.toList_ofList]
  cases name with
  | nil => rfl
  | cons c rest =>
      have hslash := h.noSlash
      rw [List.mem_cons, not_or] at hslash
      simpa using Ne.symm hslash.1

/-- The text of a child: the name alone, or the name behind the directory and one slash. -/
theorem text_child (h : IsPlainName name) (p : FilePath) :
    (p.text.toList = [] ∧ (p.child (String.ofList name)).text.toList = name) ∨
      ∃ base, (p.text.toList = base ∨ p.text.toList = base ++ ['/']) ∧
        (p.child (String.ofList name)).text.toList = base ++ '/' :: name := by
  unfold child join
  rw [h.isRelative, if_neg (by simp)]
  split
  · rename_i hlast
    exact .inl ⟨List.getLast?_eq_none_iff.mp hlast, String.toList_ofList⟩
  · rename_i hlast
    obtain ⟨base, hbase⟩ := List.getLast?_eq_some_iff.mp hlast
    refine .inr ⟨base, .inr hbase, ?_⟩
    simp [String.toList_append, hbase]
  · refine .inr ⟨p.text.toList, .inl rfl, ?_⟩
    simp [String.toList_append]

/-- **A plain name is one step** below the directory that it is put into. -/
theorem components_child (h : IsPlainName name) (p : FilePath) :
    (p.child (String.ofList name)).components = p.components ++ [.name name] := by
  have habsolute := Disk.isAbsolute_child p h.isRelative
  rcases text_child h p with ⟨hp, hchild⟩ | ⟨base, hp, hchild⟩
  · -- the empty path has no steps, and a name alone is its only step
    have hrelative : p.isAbsolute = false := by
      unfold isAbsolute
      rw [hp]
      rfl
    have hname : Text.splitChars '/' (p.child (String.ofList name)).text.toList = [name] := by
      rw [hchild, h.splitChars]
    rw [components_of_split hname, components_of_split (p := p) (by rw [hp]; rfl), habsolute,
      hrelative]
    have hidle : FilePath.componentOf? [] = none := rfl
    simp [h.speaks.2, h.componentOf?, hidle]
  · obtain ⟨first, pieces, hbase⟩ := List.exists_cons_of_ne_nil (Text.splitChars_ne_nil '/' base)
    have hlonger : Text.splitChars '/' (p.child (String.ofList name)).text.toList =
        first :: (pieces ++ [name]) := by
      rw [hchild, Text.splitChars_append, hbase, h.splitChars, List.cons_append]
    have hname : [name].filterMap FilePath.componentOf? = [.name name] := by
      rw [List.filterMap_cons_some h.componentOf?, List.filterMap_nil]
    rcases hp with hp | hp
    · refine components_append habsolute (by rw [hp, hbase]) hlonger ?_
      rw [List.filterMap_append, hname]
    · -- the empty piece behind the last slash says nothing
      have hidle : [[]].filterMap FilePath.componentOf? = [] := rfl
      have hslash : Text.splitChars '/' p.text.toList = first :: (pieces ++ [[]]) := by
        rw [hp, Text.splitChars_append, hbase]
        rfl
      refine components_append habsolute hslash hlonger ?_
      rw [List.filterMap_append, List.filterMap_append, hname, hidle, List.append_nil]

/-- The file name of a child is the name that it was given. -/
theorem fileName?_child (h : IsPlainName name) (p : FilePath) :
    (p.child (String.ofList name)).fileName? = some name := by
  unfold fileName?
  rw [components_child h, List.getLast?_concat]

end Expansion.FilePath
