import Expansion.Proofs.Sources.Resolve

/-!
# Leaving out a file that is not there yet

The file to leave out is told by its components and by where its path leads. A path that leads
nowhere has only its components, so a file that is not there yet is left out under the names that
are written as the path is, and under no other.

* **`Disk.Gains`**: two disks that differ in one file, which the second has and the first has not.
* `Gains.sameFile_before`, `Gains.sameFile_after`: what names the file on either disk.
* **`resolve_eq_iff`**: sources are resolved alike on both disks exactly if no other name of the
  file is among those that are listed, and a manifest that is missing is missing in the same way.
* `not_resolve_eq_of_here`: so a dot in front of the path makes a difference.
-/

namespace Expansion

open Disk

variable {d d' : Disk} {p q : FilePath} {place : Location} {input : String}
variable {kinds : FileKinds} {exclude : Option FilePath} {paths : List FilePath}

namespace Disk

/-- The second disk has one file that the first has not: the path leads to it, its directory is on
both disks, and all other places are the same. -/
structure Gains (p : FilePath) (place : Location) (d d' : Disk) : Prop where
  home : d'.home = d.home
  scratch : d'.scratch = d.scratch
  others : ∀ other, other ≠ place → d'.get? other = d.get? other
  directory : d.get? place.dropLast = some .directory
  free : d.get? place = none
  isFile : d'.isFile p = true
  leads : d'.canonical? p = some place

namespace Gains

/-- What is on the first disk is on the second. -/
theorem get?_kept {other : Location} {e : Entry} (h : Gains p place d d')
    (hother : d.get? other = some e) : d'.get? other = some e := by
  rw [h.others other, hother]
  rintro rfl
  cases h.free.symm.trans hother

theorem keeps (h : Gains p place d d') : Keeps nowhere d d' where
  home := h.home
  scratch := h.scratch
  grows := fun _ e hother => ⟨e, h.get?_kept hother, rfl⟩
  kept := fun _ _ hother _ => h.get?_kept hother
  tree := by
    intro htree other name e hbelow
    by_cases hplace : other ++ [name] = place
    · have hdirectory := h.directory
      rw [← hplace, List.dropLast_concat] at hdirectory
      exact h.get?_kept hdirectory
    · rw [h.others _ hplace] at hbelow
      exact h.get?_kept (htree other name e hbelow)

/-- No path leads to the file on the first disk. -/
theorem canonical?_ne (h : Gains p place d d') (q : FilePath) : d.canonical? q ≠ some place := by
  intro hq
  obtain ⟨e, hfind⟩ := find_of_canonical? hq
  cases h.free.symm.trans (get?_of_find hfind)

/-- The path to the file leads nowhere there. -/
theorem canonical?_eq_none (h : Gains p place d d') : d.canonical? p = none := by
  rw [Option.eq_none_iff_forall_ne_some]
  intro q hq
  obtain rfl : q = place := Option.some.inj ((h.keeps.canonical? hq).symm.trans h.leads)
  exact h.canonical?_ne p hq

/-- Before the file is there, it is named by the components of its path alone. -/
theorem sameFile_before (h : Gains p place d d') (q : FilePath) : d.sameFile q p = q.same p := by
  unfold sameFile
  rw [h.canonical?_eq_none]
  cases d.canonical? q <;> exact Bool.or_false _

/-- Afterwards it is named by every path that leads to it. -/
theorem sameFile_after (h : Gains p place d d') (q : FilePath) :
    d'.sameFile q p = (q.same p || d'.canonical? q == some place) := by
  unfold sameFile
  rw [h.leads]
  cases d'.canonical? q <;> rfl

/-- A file that is on the first disk reads the same on both. -/
theorem readText_eq (h : Gains p place d d') (hq : d.isFile q = true) :
    d'.readText q = d.readText q :=
  h.keeps.anywhere.readText_eq hq (h.canonical?_ne q)

end Gains

end Disk

namespace Sources

/-! ## What is listed -/

/-- The members of a manifest that can be read. -/
def manifestMembers (d : Disk) (p : FilePath) : List FilePath :=
  match loadManifest d p with
  | .ok manifest => entryPaths (p.parent?.getD ⟨""⟩) manifest.sources
  | .error _ => []

/-- The paths that a list or a manifest names. -/
def members (d : Disk) (input : String) (kinds : FileKinds) : List FilePath :=
  match manifestOf? input kinds with
  | some p => manifestMembers d p
  | none =>
    if Text.hasChar ',' (Text.trim input) then (listEntries (Text.trim input)).map FilePath.mk
    else []

/-- If all members are sources, those that lead to the file once it is there are written in the same
way as its path. -/
def Spared (p : FilePath) (place : Location) (d' : Disk) (kinds : FileKinds)
    (members : List FilePath) : Prop :=
  (∀ q ∈ members, kinds.isSource q = true) →
    ∀ q ∈ members, d'.canonical? q = some place → q.same p = true

theorem spared_nil : Spared p place d' kinds [] := fun _ _ hq => nomatch hq

theorem filter_eq_filter_iff {α : Type} {f g : α → Bool} {l : List α} :
    l.filter f = l.filter g ↔ ∀ a ∈ l, f a = g a := by
  constructor
  · intro h a ha
    have hmem : a ∈ l.filter f ↔ a ∈ l.filter g := by rw [h]
    rw [List.mem_filter, List.mem_filter, and_iff_right ha, and_iff_right ha] at hmem
    exact Bool.eq_iff_iff.mpr hmem
  · exact List.filter_congr

/-- The same paths are left out on both disks exactly if the new file has no new name among them. -/
theorem without_eq_iff (h : Gains p place d d') :
    without d' (some p) paths = without d (some p) paths ↔
      ∀ q ∈ paths, d'.canonical? q = some place → q.same p = true := by
  unfold without
  dsimp only
  rw [filter_eq_filter_iff]
  refine forall₂_congr fun q _ => ?_
  rw [h.sameFile_before, h.sameFile_after]
  cases q.same p <;> simp

/-- A selection is the same on both disks exactly if what is left out is. -/
theorem select_eq_iff {α : Type} {form : Form} {references : List FilePath} {empty : Problem}
    {path : α → FilePath} {bad : α → Problem} {items : List α} (h : Gains p place d d') :
    select d' (some p) kinds form references empty path bad items =
        select d (some p) kinds form references empty path bad items ↔
      Spared p place d' kinds (items.map path) := by
  unfold select Spared
  cases hfind : items.find? fun item => !kinds.isSource (path item) with
  | some item =>
      have hbad : kinds.isSource (path item) = false := by simpa using List.find?_some hfind
      refine iff_of_true rfl fun hall => ?_
      cases hbad.symm.trans (hall _ (List.mem_map_of_mem (List.mem_of_find?_eq_some hfind)))
  | none =>
      have hall : ∀ q ∈ items.map path, kinds.isSource q = true := by
        simpa using List.find?_eq_none.mp hfind
      rw [imp_iff_right hall, ← without_eq_iff h]
      cases without d (some p) (items.map path) <;>
        cases without d' (some p) (items.map path) <;> simp

/-- A manifest is the problem exactly if it cannot be read. -/
theorem ofManifest_eq_unreadable_iff {e : Error} :
    ofManifest d p exclude kinds = .error (.unreadable p e) ↔ d.readText p = .error e := by
  unfold ofManifest loadManifest
  cases d.readText p with
  | error e' => simp
  | ok text =>
      refine iff_of_false ?_ (by simp)
      intro h
      dsimp only at h
      cases hparse : parseManifest text p with
      | error problem =>
          rw [hparse] at h
          unfold parseManifest at hparse
          cases h
          split at hparse <;> cases hparse
      | ok manifest =>
          rw [hparse] at h
          dsimp only at h
          split at h
          · cases h
          · split at h <;> cases h

/-- A manifest that is there decides its members, and a missing one only how it is missing. -/
theorem ofManifest_eq_iff {manifest : FilePath} (h : Gains p place d d') :
    ofManifest d' manifest (some p) kinds = ofManifest d manifest (some p) kinds ↔
      (d.isFile manifest = false → d'.readText manifest = d.readText manifest) ∧
        Spared p place d' kinds (manifestMembers d manifest) := by
  cases hread : d.readText manifest with
  | error e =>
      have hload : loadManifest d manifest = .error (.unreadable manifest e) := by
        unfold loadManifest
        rw [hread]
      have hspared : Spared p place d' kinds (manifestMembers d manifest) := by
        unfold manifestMembers
        rw [hload]
        exact spared_nil
      rw [ofManifest_eq_unreadable_iff.mpr hread, ofManifest_eq_unreadable_iff,
        and_iff_left hspared]
      refine ⟨fun hsame _ => hsame, fun hmissing => ?_⟩
      cases hfile : d.isFile manifest with
      | false => exact hmissing hfile
      | true => exact (h.readText_eq hfile).trans hread
  | ok text =>
      have hfile := isFile_of_readText hread
      have hload : loadManifest d' manifest = loadManifest d manifest := by
        unfold loadManifest
        rw [h.readText_eq hfile]
      rw [hfile, and_iff_right (fun hmissing => by cases hmissing)]
      unfold manifestMembers
      cases hlisted : loadManifest d manifest with
      | error problem =>
          refine iff_of_true ?_ spared_nil
          unfold ofManifest
          rw [hload, hlisted]
      | ok listed =>
          rw [ofManifest_eq_select hlisted, ofManifest_eq_select (hload.trans hlisted),
            select_eq_iff h, List.map_id]

/-! ## Resolving on both disks -/

/-- **When a file to leave out need not be there.** On two disks that differ in the file to leave
out, and for every text, the same sources are resolved, or the same problem is met, exactly if

* a manifest that the text names is a file, or cannot be read for the same reason on both disks, and
* if all that is listed are sources, those that lead to the file once it is there are written in the
  same way as its path. -/
theorem resolve_eq_iff (h : Gains p place d d') (input : String) (kinds : FileKinds) :
    resolve d' input (some p) kinds = resolve d input (some p) kinds ↔
      (∀ manifest, manifestOf? input kinds = some manifest → d.isFile manifest = false →
        d'.readText manifest = d.readText manifest) ∧
      ((∀ q ∈ members d input kinds, kinds.isSource q = true) →
        ∀ q ∈ members d input kinds, d'.canonical? q = some place → q.same p = true) := by
  unfold members
  rcases resolve_cases input (some p) kinds with ⟨hform, hresolve⟩ |
    ⟨hform, ⟨hlist, hresolve⟩ | ⟨hlist, answer, -, hresolve⟩⟩
  · rw [hresolve, hresolve, hform, ofManifest_eq_iff h]
    refine and_congr_left fun _ => ⟨?_, fun hread => hread _ rfl⟩
    intro hread other hother
    cases hother
    exact hread
  · rw [hresolve, hresolve, hform, if_pos hlist, ofList_eq_select, ofList_eq_select,
      select_eq_iff h]
    exact (and_iff_right fun _ hnone _ => nomatch hnone).symm
  · rw [hresolve, hresolve, hform, if_neg (by simp [hlist])]
    exact iff_of_true rfl ⟨fun _ hnone _ => (nomatch hnone), spared_nil⟩

/-! ## The first run and the next -/

/-- A disk with a source. -/
def modelDisk : Disk where
  entries := [(["model.src"], .file ByteArray.empty false)]
  home := []
  scratch := ⟨"/tmp"⟩

/-- The same disk with what has been generated. -/
def generatedDisk : Disk := modelDisk.set ["gen.src"] (.file ByteArray.empty false)

theorem gains_generatedDisk (hfile : generatedDisk.isFile p = true)
    (hleads : generatedDisk.canonical? p = some ["gen.src"]) :
    Gains p ["gen.src"] modelDisk generatedDisk where
  home := rfl
  scratch := rfl
  others := by
    intro other hother
    rw [generatedDisk, get?_set _ _ _ _ (by simp), if_neg hother]
  directory := rfl
  free := rfl
  isFile := hfile
  leads := hleads

/-- A slash behind the name is no other name: the file is left out before and after it is there. -/
theorem resolve_eq_of_slash :
    Gains ⟨"gen.src"⟩ ["gen.src"] modelDisk generatedDisk ∧
      resolve generatedDisk " gen.src/ , model.src" (some ⟨"gen.src"⟩) .standard =
        resolve modelDisk " gen.src/ , model.src" (some ⟨"gen.src"⟩) .standard := by
  have hgains : Gains ⟨"gen.src"⟩ ["gen.src"] modelDisk generatedDisk :=
    gains_generatedDisk (by decide +kernel) (by decide +kernel)
  refine ⟨hgains, (resolve_eq_iff hgains _ _).mpr ⟨fun manifest hform => ?_, ?_⟩⟩
  · cases hform
  · decide +kernel

/-- A dot in front of the path makes another name: the file is listed as a source until it is there,
and left out from then on. -/
theorem not_resolve_eq_of_here :
    let resolved := fun d => resolve d "gen.src,model.src" (some ⟨"./gen.src"⟩) .standard
    Gains ⟨"./gen.src"⟩ ["gen.src"] modelDisk generatedDisk ∧
      (resolved modelDisk).toOption = some ⟨.list, [⟨"gen.src"⟩, ⟨"model.src"⟩], []⟩ ∧
      (resolved generatedDisk).toOption = some ⟨.list, [⟨"model.src"⟩], []⟩ ∧
      resolved generatedDisk ≠ resolved modelDisk := by
  intro resolved
  have hbefore : (resolved modelDisk).toOption =
      some ⟨.list, [⟨"gen.src"⟩, ⟨"model.src"⟩], []⟩ := by
    decide +kernel
  have hafter : (resolved generatedDisk).toOption = some ⟨.list, [⟨"model.src"⟩], []⟩ := by
    decide +kernel
  refine ⟨gains_generatedDisk (by decide +kernel) (by decide +kernel), hbefore, hafter, ?_⟩
  intro hsame
  rw [hsame, hbefore] at hafter
  exact absurd hafter (by decide)

end Sources

end Expansion
