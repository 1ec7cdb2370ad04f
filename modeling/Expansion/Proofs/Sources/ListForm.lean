import Expansion.Proofs.Sources.Naming

/-!
# A manifest as a list

What a manifest lists may be written as a list too: its members, each with a comma behind it.

* **`resolve_listText`**: the list and the manifest give the same sources in the same order, or
  neither gives any and the reason is in what is listed.
* The members may be any paths that a list can hold: they have no comma and no blanks at their ends.
-/

namespace Expansion.Sources

open Disk Text

variable {d : Disk} {exclude : Option FilePath} {kinds : FileKinds} {input : String}
variable {manifest p q base : FilePath} {declared : Manifest} {entries : List String}
variable {paths members : List FilePath}

/-! ## Paths with commas behind them -/

/-- The paths, each with a comma behind it. -/
def listText : List FilePath → String
  | [] => ""
  | p :: rest => p.text ++ "," ++ listText rest

/-- A path that a list can hold. -/
structure Listable (p : FilePath) : Prop where
  nonempty : p.text ≠ ""
  single : ',' ∉ p.text.toList
  trimmed : Trims p.text p.text

theorem toList_listText_cons (p : FilePath) (paths : List FilePath) :
    (listText (p :: paths)).toList = p.text.toList ++ ',' :: (listText paths).toList := by
  rw [listText, String.toList_append, String.toList_append, List.append_assoc]
  rfl

theorem splitOn_listText (h : ∀ p ∈ paths, Listable p) :
    (listText paths).toList.splitOn ',' = paths.map (fun p => p.text.toList) ++ [[]] := by
  induction paths with
  | nil => rfl
  | cons p paths ih =>
      have hp := (h p List.mem_cons_self).single
      rw [toList_listText_cons, List.splitOn_append_cons_self_of_not_mem hp,
        ih fun q hq => h q (List.mem_cons_of_mem p hq)]
      rfl

/-- The entries of the list are the paths as they are written. -/
theorem listEntries_listText (h : ∀ p ∈ paths, Listable p) :
    listEntries (listText paths) = paths.map FilePath.text := by
  have htrim : (paths.map FilePath.text).map trim = paths.map FilePath.text := by
    rw [List.map_map]
    exact List.map_congr_left fun p hp => (trims_iff.mp (h p hp).trimmed).symm
  have hsome : (paths.map FilePath.text).filter (fun entry => !entry.isEmpty) =
      paths.map FilePath.text := by
    rw [List.filter_eq_self]
    intro entry hentry
    obtain ⟨p, hp, rfl⟩ := List.mem_map.mp hentry
    simpa using (h p hp).nonempty
  have htexts : (paths.map fun p => p.text.toList).map String.ofList = paths.map FilePath.text := by
    simp
  rw [listEntries, splitOn, splitChars_eq_splitOn, splitOn_listText h, List.map_append,
    List.map_append, List.filter_append, htexts, htrim, hsome]
  exact List.append_nil _

theorem getLast?_listText (h : paths ≠ []) : (listText paths).toList.getLast? = some ',' := by
  induction paths with
  | nil => exact absurd rfl h
  | cons p paths ih =>
      rw [toList_listText_cons, List.getLast?_append]
      cases paths with
      | nil => rfl
      | cons q paths =>
          have hlast := ih (by simp)
          rw [List.getLast?_cons, hlast]
          rfl

/-- A list of at least one path is one that `resolve` takes for a list. -/
theorem namesList_listText (h : ∀ p ∈ paths, Listable p) (hsome : paths ≠ []) :
    NamesList (listText paths) (listText paths) (paths.map FilePath.text) := by
  refine ⟨⟨⟨[], [], by simp, by simp, by simp⟩, ?_, ?_⟩, ?_, ?_⟩
  · cases paths with
    | nil => exact absurd rfl hsome
    | cons p paths =>
        have hp := h p List.mem_cons_self
        have hchars : p.text.toList ≠ [] := by simpa using hp.nonempty
        rw [toList_listText_cons, List.head?_append_of_ne_nil _ hchars]
        exact hp.trimmed.first
  · rw [getLast?_listText hsome]
    rintro c hc
    cases hc
    rfl
  · exact List.mem_of_getLast? (getLast?_listText hsome)
  · exact lists_iff.mpr (listEntries_listText h).symm

/-! ## The members of a manifest -/

theorem text_join_ne (h : q.text ≠ "") : (base.join q).text ≠ "" := by
  have hbehind (front : String) : front ++ q.text ≠ "" := by
    intro hempty
    have hchars := congrArg String.toList hempty
    rw [String.toList_append] at hchars
    exact h (String.toList_inj.mp (List.append_eq_nil_iff.mp hchars).2)
  unfold FilePath.join
  split
  · exact h
  · split
    · exact h
    · exact hbehind base.text
    · exact hbehind (base.text ++ "/")

/-- Entries that say something have paths that say something. -/
theorem text_ne_of_placed (h : Placed base entries members)
    (hspoken : ∀ entry ∈ entries, isBlankText entry = false) : ∀ p ∈ members, p.text ≠ "" := by
  obtain rfl := placed_iff.mp h
  intro p hp
  obtain ⟨entry, hentry, rfl⟩ := List.mem_map.mp hp
  refine text_join_ne fun hblank => ?_
  have hempty : (trim entry).isEmpty = true := String.isEmpty_iff.mpr hblank
  rw [isEmpty_trim, hspoken entry hentry] at hempty
  cases hempty

/-- Two ways of resolving agree: both give the same sources in the same order, or the reason why
neither gives any is in what is listed. -/
inductive Agree : Except Problem Sources → Except Problem Sources → Prop
  | taken {s t : Sources} : s.paths = t.paths → Agree (.ok s) (.ok t)
  | refused {problem other : Problem} : problem.isManifest = false → other.isManifest = false →
      Agree (.error problem) (.error other)

/-- What is listed decides, not the way in which it is listed. -/
theorem ofManifest_agree (hdeclares : Declares d manifest declared)
    (hmembers : Placed (directoryOf manifest) declared.sources members)
    (hlistable : ∀ p ∈ members, Listable p) :
    Agree (ofManifest d manifest exclude kinds) (resolve d (listText members) exclude kinds) := by
  rw [ofManifest_of_declares hdeclares hmembers]
  -- a manifest selects among paths and a list among texts, so either selection has a map of its own
  have hid : members.map id = members := List.map_id members
  have htexts : (members.map FilePath.text).map FilePath.mk = members := by
    rw [List.map_map]
    exact List.map_id members
  by_cases hsome : members = []
  · -- the text is blank then, and no list at all
    subst hsome
    rw [select_of_takesNothing ⟨by simp, by simp⟩]
    exact .refused rfl rfl
  · rw [resolve_of_list (namesList_listText hlistable hsome)]
    rcases takes_cases d exclude kinds members with ⟨p, hother⟩ | ⟨kept, htakes⟩ | hnothing
    · obtain ⟨member, -, hmanifest⟩ := select_of_other (hid.symm ▸ hother)
      obtain ⟨entry, -, hlist⟩ := select_of_other (htexts.symm ▸ hother)
      rw [hmanifest, hlist]
      exact .refused rfl rfl
    · rw [select_of_takes (hid.symm ▸ htakes), select_of_takes (htexts.symm ▸ htakes)]
      exact .taken rfl
    · rw [select_of_takesNothing (hid.symm ▸ hnothing),
        select_of_takesNothing (htexts.symm ▸ hnothing)]
      exact .refused rfl rfl

/-- **A manifest and the list of its members agree**, where the entries say something and their
paths have neither commas nor blanks at their ends: the manifest itself, and every text that names
it. -/
theorem resolve_listText (hdeclares : Declares d manifest declared)
    (hmembers : Placed (directoryOf manifest) declared.sources members)
    (hspoken : ∀ entry ∈ declared.sources, isBlankText entry = false)
    (hsingle : ∀ p ∈ members, ',' ∉ p.text.toList)
    (htrimmed : ∀ p ∈ members, Trims p.text p.text) :
    Agree (ofManifest d manifest exclude kinds) (resolve d (listText members) exclude kinds) ∧
    ∀ input, NamesPath input manifest → kinds.isManifest manifest = true →
      Agree (resolve d input exclude kinds) (resolve d (listText members) exclude kinds) := by
  have hspoken := text_ne_of_placed hmembers hspoken
  have hagree : Agree (ofManifest d manifest exclude kinds)
      (resolve d (listText members) exclude kinds) :=
    ofManifest_agree hdeclares hmembers fun p hp => ⟨hspoken p hp, hsingle p hp, htrimmed p hp⟩
  refine ⟨hagree, fun input hinput hmanifest => ?_⟩
  rwa [resolve_of_manifest hinput hmanifest]

/-! ## A library with three sources -/

/-- What the library declares: entries with blanks around them and an absolute one. -/
def libraryText : String := "sources:\n  - a.src\n  - \" b.src \"\n  - /tmp/c.src\n"

/-- The same, read. -/
def library : Manifest := ⟨["a.src", " b.src ", "/tmp/c.src"], []⟩

/-- A disk with the library's manifest. -/
def libraryDisk : Disk where
  entries := [(["lib"], .directory), (["lib", "p.yaml"], .file libraryText.toUTF8 false)]
  home := []
  scratch := ⟨"/tmp"⟩

/-- The members of the library. -/
def libraryMembers : List FilePath := [⟨"lib/a.src"⟩, ⟨"lib/b.src"⟩, ⟨"/tmp/c.src"⟩]

/-- The library is resolved as `lib/a.src,lib/b.src,/tmp/c.src,` is, without the second source if
that is to be left out. -/
theorem resolve_listText_of_library :
    Declares libraryDisk ⟨"lib/p.yaml"⟩ library ∧
    Placed (directoryOf ⟨"lib/p.yaml"⟩) library.sources libraryMembers ∧
    (∀ entry ∈ library.sources, isBlankText entry = false) ∧
    (∀ p ∈ libraryMembers, ',' ∉ p.text.toList) ∧
    (∀ p ∈ libraryMembers, Trims p.text p.text) ∧
    listText libraryMembers = "lib/a.src,lib/b.src,/tmp/c.src," ∧
    Agree (ofManifest libraryDisk ⟨"lib/p.yaml"⟩ (some ⟨"lib/b.src"⟩) .standard)
      (resolve libraryDisk (listText libraryMembers) (some ⟨"lib/b.src"⟩) .standard) ∧
    Agree (resolve libraryDisk " lib/p.yaml" (some ⟨"lib/b.src"⟩) .standard)
      (resolve libraryDisk (listText libraryMembers) (some ⟨"lib/b.src"⟩) .standard) ∧
    (resolve libraryDisk " lib/p.yaml" (some ⟨"lib/b.src"⟩) .standard).toOption =
      some ⟨.manifest, [⟨"lib/a.src"⟩, ⟨"/tmp/c.src"⟩], []⟩ := by
  have hdeclares : Declares libraryDisk ⟨"lib/p.yaml"⟩ library :=
    loadManifest_ok_iff.mp (ok_of_toOption (by decide +kernel))
  have hmembers : Placed (directoryOf ⟨"lib/p.yaml"⟩) library.sources libraryMembers :=
    placed_iff.mpr (by decide)
  have hspoken : ∀ entry ∈ library.sources, isBlankText entry = false := by decide
  have hsingle : ∀ p ∈ libraryMembers, ',' ∉ p.text.toList := by decide
  have htrimmed : ∀ p ∈ libraryMembers, Trims p.text p.text := by
    simp only [trims_iff]
    decide
  have hnames : NamesPath " lib/p.yaml" ⟨"lib/p.yaml"⟩ := ⟨trims_iff.mpr (by decide), by decide⟩
  have hresolved : (resolve libraryDisk " lib/p.yaml" (some ⟨"lib/b.src"⟩) .standard).toOption =
      some ⟨.manifest, [⟨"lib/a.src"⟩, ⟨"/tmp/c.src"⟩], []⟩ := by
    decide +kernel
  exact ⟨hdeclares, hmembers, hspoken, hsingle, htrimmed, rfl,
    (resolve_listText hdeclares hmembers hspoken hsingle htrimmed).1,
    (resolve_listText hdeclares hmembers hspoken hsingle htrimmed).2 _ hnames rfl, hresolved⟩

end Expansion.Sources
