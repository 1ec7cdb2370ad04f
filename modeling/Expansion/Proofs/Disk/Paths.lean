import Expansion.Proofs.Disk.Leads
import Expansion.Proofs.Text.Split

/-!
# Paths and their pieces

What two ways of writing a path have to do with each other on a disk.

* **Paths with the same components have the same names** (`namesOf_eq_of_same`), so they lead to one
  place where they lead anywhere (`place_eq_of_same`).
* The pieces of a directory's child are those of the directory and then those of the name
  (`piecesOf_child`).
-/

namespace Expansion

namespace FilePath

/-- The name that a component asks for, if it asks for one. -/
def Component.name? : Component → Option String
  | .root => none
  | .here => none
  | .up => some ".."
  | .name text => some (String.ofList text)

theorem componentOf?_ne_root (piece : List Char) : componentOf? piece ≠ some .root := by
  unfold componentOf?
  split
  · simp
  · split <;> simp

/-- A path begins at the top exactly if the top is one of its components. -/
theorem root_mem_components (p : FilePath) : .root ∈ p.components ↔ p.isAbsolute = true := by
  have hlater : ∀ pieces : List (List Char), .root ∉ pieces.filterMap componentOf? := by
    intro pieces h
    obtain ⟨piece, -, hpiece⟩ := List.mem_filterMap.mp h
    exact componentOf?_ne_root piece hpiece
  unfold components
  cases hsplit : Text.splitChars '/' p.text.toList with
  | nil => exact absurd hsplit (Text.splitChars_ne_nil _ _)
  | cons first pieces =>
      cases habsolute : p.isAbsolute with
      | true => simp
      | false =>
          by_cases hhere : first = ['.']
          · simp [hhere, hlater]
          · simp [hhere, hlater, componentOf?_ne_root, Option.mem_toList]

theorem first_of_isAbsolute {p : FilePath} {first : List Char} {pieces : List (List Char)}
    (h : p.isAbsolute = true) (hsplit : Text.splitChars '/' p.text.toList = first :: pieces) :
    first = [] := by
  unfold isAbsolute at h
  cases htext : p.text.toList with
  | nil =>
      rw [htext] at h
      cases h
  | cons c rest =>
      rw [htext] at h hsplit
      obtain rfl : c = '/' := by simpa using h
      simp only [Text.splitChars, if_true, List.cons.injEq] at hsplit
      exact hsplit.1.symm

/-- A piece asks for the name that it is, if it says anything. -/
theorem name?_componentOf? (piece : List Char) :
    (componentOf? piece).bind Component.name? =
      if String.ofList piece = "" ∨ String.ofList piece = "." then none
      else some (String.ofList piece) := by
  have hempty : String.ofList piece = "" ↔ piece = [] := by
    rw [← String.ofList_nil, String.ofList_inj]
  have hdot : String.ofList piece = "." ↔ piece = ['.'] := by
    rw [show "." = String.ofList ['.'] from rfl, String.ofList_inj]
  simp only [hempty, hdot]
  unfold componentOf?
  by_cases hidle : piece = [] ∨ piece = ['.']
  · simp [hidle]
  · by_cases hup : piece = ['.', '.']
    · subst hup
      rfl
    · simp [hidle, hup, Component.name?]

end FilePath

namespace Disk

open FilePath

theorem namesOf_map (pieces : List (List Char)) :
    namesOf (pieces.map String.ofList) =
      (pieces.filterMap componentOf?).filterMap Component.name? := by
  induction pieces with
  | nil => rfl
  | cons piece rest ih =>
      have hpiece := name?_componentOf? piece
      rw [List.map_cons, List.filterMap_filterMap, List.filterMap_cons, ← List.filterMap_filterMap,
        ← ih, hpiece]
      by_cases hidle : String.ofList piece = "" ∨ String.ofList piece = "."
      · rw [if_pos hidle, namesOf_idle hidle]
      · rw [if_neg hidle, namesOf_spoken hidle]

/-- The names of a path are those of its components. -/
theorem namesOf_piecesOf (p : FilePath) :
    namesOf (piecesOf p.text) = p.components.filterMap Component.name? := by
  unfold piecesOf Text.splitOn
  rw [namesOf_map]
  unfold components
  cases hsplit : Text.splitChars '/' p.text.toList with
  | nil => rfl
  | cons first pieces =>
      by_cases habsolute : p.isAbsolute = true
      · obtain rfl := first_of_isAbsolute habsolute hsplit
        simp [habsolute, componentOf?, List.filterMap_cons, Component.name?]
      · by_cases hhere : first = ['.']
        · simp [habsolute, hhere, componentOf?, List.filterMap_cons, Component.name?]
        · cases hfirst : componentOf? first <;> simp [habsolute, hhere, hfirst]

theorem namesOf_eq_of_same {p q : FilePath} (h : p.same q = true) :
    namesOf (piecesOf p.text) = namesOf (piecesOf q.text) ∧ p.isAbsolute = q.isAbsolute := by
  have hcomponents : p.components = q.components := beq_iff_eq.mp h
  rw [namesOf_piecesOf, namesOf_piecesOf, Bool.eq_iff_iff, ← root_mem_components,
    ← root_mem_components, hcomponents]
  exact ⟨rfl, Iff.rfl⟩

/-! ## Finding a path -/

variable {d : Disk} {p q : FilePath} {follow : Bool} {found : Found}

/-- A path that the operating system takes. -/
structure Sayable (p : FilePath) : Prop where
  notEmpty : ¬p.text.isEmpty = true
  noNull : ¬Text.hasChar '\x00' p.text = true
  fits : ¬pathLimit < p.text.utf8ByteSize

/-- The place that a path starts from. -/
def start (d : Disk) (p : FilePath) : Location := if p.isAbsolute then [] else d.home

theorem find_ok_iff :
    d.find p follow = .ok found ↔
      Sayable p ∧ Leads d follow linkLimit (d.start p) (piecesOf p.text) found := by
  unfold find
  split
  · rename_i hempty
    exact ⟨fun h => (by cases h), fun h => absurd hempty h.1.notEmpty⟩
  · split
    · rename_i hnull
      exact ⟨fun h => (by cases h), fun h => absurd hnull h.1.noNull⟩
    · split
      · rename_i hlong
        exact ⟨fun h => (by cases h), fun h => absurd hlong h.1.fits⟩
      · rename_i hempty hnull hlong
        exact ⟨fun h => ⟨⟨hempty, hnull, hlong⟩, walk_ok_iff.mp h⟩, fun h => walk_ok_iff.mpr h.2⟩

/-- Two ways of writing a path lead to one place, where they lead anywhere. -/
theorem place_eq_of_same {a b : Location} {e e' : Entry} (h : p.same q = true)
    (hp : d.find p true = .ok (.present a e)) (hq : d.find q true = .ok (.present b e')) :
    a = b := by
  obtain ⟨hnames, habsolute⟩ := namesOf_eq_of_same h
  have hp' := (find_ok_iff.mp hp).2.reaches
  have hq' := (find_ok_iff.mp hq).2.reaches
  rw [start, habsolute, hnames] at hp'
  exact hp'.unique hq'

/-! ## Children -/

variable {name piece : String} {rest : List String}

/-- The pieces of a path that come before the name of a child. -/
def front (p : FilePath) : List String :=
  match p.text.toList.getLast? with
  | none => []
  | some '/' => (piecesOf p.text).dropLast
  | some _ => piecesOf p.text

theorem piecesOf_append (s t : String) : piecesOf (s ++ "/" ++ t) = piecesOf s ++ piecesOf t := by
  have hlist : (s ++ "/" ++ t).toList = s.toList ++ '/' :: t.toList := by
    simp [String.toList_append]
  unfold piecesOf Text.splitOn
  rw [hlist, Text.splitChars_append, List.map_append]

/-- A text whose first piece says something does not begin at the top. -/
theorem isAbsolute_of_plain (hname : piecesOf name = piece :: rest) (hplain : IsPlain piece) :
    (FilePath.mk name).isAbsolute = false := by
  rw [Bool.eq_false_iff]
  intro habsolute
  unfold piecesOf Text.splitOn at hname
  cases hsplit : Text.splitChars '/' name.toList with
  | nil => exact absurd hsplit (Text.splitChars_ne_nil _ _)
  | cons first others =>
      obtain rfl := first_of_isAbsolute habsolute hsplit
      rw [hsplit] at hname
      injection hname with hpiece
      exact hplain.speaks (.inl hpiece.symm)

/-- The pieces of a child are those before its name and those of its name. -/
theorem piecesOf_child (p : FilePath) (habsolute : (FilePath.mk name).isAbsolute = false) :
    piecesOf (p.child name).text = front p ++ piecesOf name := by
  unfold child join front
  rw [habsolute, if_neg (by simp)]
  cases hlast : p.text.toList.getLast? with
  | none => rfl
  | some c =>
      by_cases hslash : c = '/'
      · subst hslash
        obtain ⟨init, hinit⟩ := List.getLast?_eq_some_iff.mp hlast
        have htext : p.text = String.ofList init ++ "/" := by
          rw [← String.toList_inj, hinit]
          simp
        have hend : piecesOf (String.ofList init ++ "/") =
            piecesOf (String.ofList init) ++ [""] := by
          have hnothing := piecesOf_append (String.ofList init) ""
          rw [String.append_empty] at hnothing
          exact hnothing
        show piecesOf (p.text ++ name) = (piecesOf p.text).dropLast ++ piecesOf name
        rw [htext, piecesOf_append, hend, List.dropLast_concat]
      · simp [piecesOf_append]

/-- The text of a child ends with its name. -/
theorem exists_text_child (p : FilePath) (habsolute : (FilePath.mk name).isAbsolute = false) :
    ∃ above, (p.child name).text = above ++ name := by
  unfold child join
  rw [habsolute, if_neg (by simp)]
  split
  · exact ⟨"", by simp⟩
  · exact ⟨p.text, rfl⟩
  · exact ⟨p.text ++ "/", rfl⟩

theorem isAbsolute_child (p : FilePath) (habsolute : (FilePath.mk name).isAbsolute = false) :
    (p.child name).isAbsolute = p.isAbsolute := by
  unfold child join
  rw [habsolute, if_neg (by simp)]
  cases htext : p.text.toList with
  | nil =>
      have hp : p.isAbsolute = false := by
        unfold isAbsolute
        rw [htext]
        rfl
      rw [hp]
      exact habsolute
  | cons c cs =>
      obtain ⟨last, hlast⟩ : ∃ last, (c :: cs).getLast? = some last :=
        Option.isSome_iff_exists.mp (by simp)
      rw [hlast]
      split
      · rename_i hnone
        cases hnone
      · simp [isAbsolute, htext]
      · simp [isAbsolute, htext]

/-- A child is found by way of the directory that it is a child of. -/
theorem find_child (hname : piecesOf name = piece :: rest) (hplain : IsPlain piece)
    (h : d.find (p.child name) follow = .ok found) :
    ∃ q links, Leads d true linkLimit (d.start p) (front p) (.present q .directory) ∧
      Leads d follow links q (piece :: rest) found := by
  have habsolute := isAbsolute_of_plain hname hplain
  have hleads := (find_ok_iff.mp h).2
  rw [piecesOf_child p habsolute, hname, start, isAbsolute_child p habsolute] at hleads
  exact hleads.split hplain

end Disk

end Expansion
