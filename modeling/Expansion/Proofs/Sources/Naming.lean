import Expansion.Proofs.Sources.Resolve
import Expansion.Proofs.Text.Blank
import Expansion.Proofs.Text.Trim
import Mathlib.Data.List.Forall2

/-!
# What a text names

The sources that a text names, told without the steps that find them, and why a text names none.

* What is written between commas and in a manifest is told by `Text.Trims`, `Lists` and `Placed`;
  what is taken of it, by `Takes`: it has to be sources, and the file to leave out is left out.
* **`Names`** has one rule for each form, and **`Refuses`** one for each problem.
* **`resolve_iff`**: these are exactly the answers of `resolve`. So a text that names sources names
  at least one, and what can be wrong with a manifest is that it cannot be read or is none.
-/

namespace Expansion.Sources

open Disk Text

variable {d : Disk} {exclude : Option FilePath} {kinds : FileKinds} {input text : String}
variable {s : Sources} {problem : Problem} {entries : List String} {base p : FilePath}
variable {members paths : List FilePath}

/-! ## What is listed -/

/-- The entries that a text lists: what is between its commas and not blank, trimmed. -/
def Lists (text : String) (entries : List String) : Prop :=
  ∃ pieces : List (List Char), pieces ≠ [] ∧ (∀ piece ∈ pieces, ',' ∉ piece) ∧
    text.toList = [','].intercalate pieces ∧
    List.Forall₂ Trims ((pieces.map String.ofList).filter fun piece => !isBlankText piece) entries

/-- The paths of entries, trimmed, as they are seen from a directory unless they are absolute. -/
def Placed (base : FilePath) (entries : List String) (paths : List FilePath) : Prop :=
  List.Forall₂ (fun entry p => ∃ text, Trims entry text ∧
    p = if (FilePath.mk text).isAbsolute then ⟨text⟩ else base.join ⟨text⟩) entries paths

/-- The directory of a manifest. -/
def directoryOf (manifest : FilePath) : FilePath := manifest.parent?.getD ⟨""⟩

theorem forall₂_trims_iff {texts : List String} :
    List.Forall₂ Trims texts entries ↔ entries = texts.map trim := by
  have htrims : Trims = fun s t => trim s = t := by
    funext s t
    exact propext (trims_iff.trans eq_comm)
  rw [htrims, eq_comm, ← List.forall₂_eq_eq_eq, List.forall₂_map_left_iff]

theorem lists_iff : Lists text entries ↔ entries = listEntries text := by
  -- what is blank is dropped before it is trimmed here, and as empty after it in the program
  have hlisted (pieces : List (List Char)) :
      ((pieces.map String.ofList).filter fun piece => !isBlankText piece).map trim =
        ((pieces.map String.ofList).map trim).filter fun entry => !entry.isEmpty := by
    simp [List.filter_map, Function.comp_def, isEmpty_trim]
  have hentries : listEntries text =
      (((text.toList.splitOn ',').map String.ofList).map trim).filter fun entry =>
        !entry.isEmpty := by
    rw [listEntries, splitOn, splitChars_eq_splitOn]
  rw [hentries, ← hlisted]
  constructor
  · rintro ⟨pieces, hsome, hpieces, htext, htrimmed⟩
    rw [htext, List.splitOn_intercalate _ hpieces hsome]
    exact forall₂_trims_iff.mp htrimmed
  · intro h
    refine ⟨text.toList.splitOn ',', List.splitOn_ne_nil _ _, fun piece hpiece => ?_,
      (List.intercalate_splitOn ',').symm, forall₂_trims_iff.mpr h⟩
    rw [← splitChars_eq_splitOn] at hpiece
    exact not_mem_of_mem_splitChars hpiece

theorem placed_iff : Placed base entries paths ↔ paths = entryPaths base entries := by
  have hone (entry : String) (p : FilePath) : (∃ text, Trims entry text ∧
      p = if (FilePath.mk text).isAbsolute then ⟨text⟩ else base.join ⟨text⟩) ↔
        base.join ⟨trim entry⟩ = p := by
    simp only [trims_iff, exists_eq_left]
    by_cases habsolute : (FilePath.mk (trim entry)).isAbsolute = true
    · rw [if_pos habsolute, FilePath.join, if_pos habsolute, eq_comm]
    · rw [if_neg habsolute, eq_comm]
  unfold Placed entryPaths
  rw [eq_comm, ← List.forall₂_eq_eq_eq, List.forall₂_map_left_iff]
  simp only [hone]

/-! ## What is taken of it -/

/-- The path is the file to leave out: it is written in the same way, or both lead to one place. -/
def LeftOut (d : Disk) (exclude : Option FilePath) (p : FilePath) : Prop :=
  ∃ excluded ∈ exclude, p.same excluded = true ∨
    ∃ place, d.canonical? p = some place ∧ d.canonical? excluded = some place

theorem any_sameFile_iff :
    (exclude.any fun excluded => d.sameFile p excluded) = true ↔ LeftOut d exclude p := by
  unfold LeftOut
  rw [Option.any_eq_true]
  refine exists_congr fun excluded => and_congr_right fun _ => ?_
  rw [← not_iff_not, Bool.not_eq_true, sameFile_eq_false_iff]
  simp

instance : Decidable (LeftOut d exclude p) := decidable_of_iff _ any_sameFile_iff

/-- What is taken of listed paths: all have to be sources, and those that are the file to leave out
are left out. There has to be something left. -/
structure Takes (d : Disk) (exclude : Option FilePath) (kinds : FileKinds)
    (members kept : List FilePath) : Prop where
  sources : ∀ p ∈ members, kinds.isSource p = true
  kept_eq : kept = members.filter fun p => ¬LeftOut d exclude p
  nonempty : kept ≠ []

/-- Nothing is left of listed paths that all are sources. -/
structure TakesNothing (d : Disk) (exclude : Option FilePath) (kinds : FileKinds)
    (members : List FilePath) : Prop where
  sources : ∀ p ∈ members, kinds.isSource p = true
  leftOut : ∀ p ∈ members, LeftOut d exclude p

/-- The first of listed paths that is no source. -/
def FirstOther (kinds : FileKinds) (members : List FilePath) (p : FilePath) : Prop :=
  ∃ before after, members = before ++ p :: after ∧
    (∀ earlier ∈ before, kinds.isSource earlier = true) ∧ kinds.isSource p = false

/-! ## The three forms -/

/-- A text without a comma, trimmed, is a path. -/
structure NamesPath (input : String) (p : FilePath) : Prop where
  trims : Trims input p.text
  single : ',' ∉ p.text.toList

/-- A text with a comma, trimmed, is a list. -/
structure NamesList (input text : String) (entries : List String) : Prop where
  trims : Trims input text
  several : ',' ∈ text.toList
  lists : Lists text entries

/-- The manifest that a file declares. -/
def Declares (d : Disk) (p : FilePath) (declared : Manifest) : Prop :=
  ∃ content, d.readText p = .ok content ∧ Manifest.parse content = .ok declared

/-- What a text names on a disk. -/
inductive Names (d : Disk) (exclude : Option FilePath) (kinds : FileKinds) (input : String) :
    Sources → Prop
  | file {p : FilePath} : NamesPath input p → kinds.isManifest p = false →
      kinds.isSource p = true → Names d exclude kinds input ⟨.file, [p], []⟩
  | list {text : String} {entries : List String} {kept : List FilePath} :
      NamesList input text entries → Takes d exclude kinds (entries.map FilePath.mk) kept →
      Names d exclude kinds input ⟨.list, kept, []⟩
  | manifest {p : FilePath} {declared : Manifest} {members kept references : List FilePath} :
      NamesPath input p → kinds.isManifest p = true → Declares d p declared →
      Placed (directoryOf p) declared.sources members →
      Placed (directoryOf p) declared.references references →
      Takes d exclude kinds members kept →
      Names d exclude kinds input ⟨.manifest, kept, references⟩

/-- Why a text names nothing on a disk. -/
inductive Refuses (d : Disk) (exclude : Option FilePath) (kinds : FileKinds) (input : String) :
    Problem → Prop
  | blank : Trims input "" → Refuses d exclude kinds input .blank
  | unknownForm {p : FilePath} : NamesPath input p → p.text ≠ "" → kinds.isManifest p = false →
      kinds.isSource p = false → Refuses d exclude kinds input (.unknownForm p.text kinds)
  | listEntry {text entry : String} {entries : List String} : NamesList input text entries →
      FirstOther kinds (entries.map FilePath.mk) ⟨entry⟩ →
      Refuses d exclude kinds input (.listEntry entry)
  | emptyList {text : String} {entries : List String} : NamesList input text entries →
      TakesNothing d exclude kinds (entries.map FilePath.mk) →
      Refuses d exclude kinds input (.emptyList text)
  | unreadable {p : FilePath} {e : Disk.Error} : NamesPath input p → kinds.isManifest p = true →
      d.readText p = .error e → Refuses d exclude kinds input (.unreadable p e)
  | unparsable {p : FilePath} {content reason : String} : NamesPath input p →
      kinds.isManifest p = true → d.readText p = .ok content →
      Manifest.parse content = .error reason → Refuses d exclude kinds input (.unparsable p reason)
  | manifestEntry {p entry : FilePath} {declared : Manifest} {members : List FilePath} :
      NamesPath input p → kinds.isManifest p = true → Declares d p declared →
      Placed (directoryOf p) declared.sources members → FirstOther kinds members entry →
      Refuses d exclude kinds input (.manifestEntry p entry)
  | emptyManifest {p : FilePath} {declared : Manifest} {members : List FilePath} :
      NamesPath input p → kinds.isManifest p = true → Declares d p declared →
      Placed (directoryOf p) declared.sources members → TakesNothing d exclude kinds members →
      Refuses d exclude kinds input (.emptyManifest p)

/-! ## Selections -/

theorem without_eq_filter (paths : List FilePath) :
    without d exclude paths = paths.filter fun p => ¬LeftOut d exclude p := by
  have hleft (p : FilePath) : decide (¬LeftOut d exclude p) =
      !exclude.any fun excluded => d.sameFile p excluded := by
    rw [decide_not, Bool.not_inj_iff, Bool.eq_iff_iff, decide_eq_true_iff, any_sameFile_iff]
  simp only [hleft]
  cases exclude with
  | none => exact (List.filter_true paths).symm
  | some excluded => rfl

/-- Listed paths have a first that is no source, or something of them is left, or nothing is. -/
theorem takes_cases (d : Disk) (exclude : Option FilePath) (kinds : FileKinds)
    (members : List FilePath) : (∃ p, FirstOther kinds members p) ∨
      (∃ kept, Takes d exclude kinds members kept) ∨ TakesNothing d exclude kinds members := by
  cases hfind : members.find? fun p => !kinds.isSource p with
  | some p =>
      obtain ⟨hother, before, after, hmembers, hbefore⟩ := List.find?_eq_some_iff_append.mp hfind
      exact .inl ⟨p, before, after, hmembers, by simpa using hbefore, by simpa using hother⟩
  | none =>
      have hsources : ∀ p ∈ members, kinds.isSource p = true := by
        simpa using List.find?_eq_none.mp hfind
      by_cases hleft : (members.filter fun p => ¬LeftOut d exclude p) = []
      · refine .inr (.inr ⟨hsources, ?_⟩)
        simpa [List.filter_eq_nil_iff] using hleft
      · exact .inr (.inl ⟨_, hsources, rfl, hleft⟩)

section

variable {α : Type} {form : Form} {references : List FilePath} {empty : Problem}
variable {path : α → FilePath} {bad : α → Problem} {items : List α}

/-- Of items that all are sources the disk decides what is left. -/
theorem select_of_sources (h : ∀ p ∈ items.map path, kinds.isSource p = true) :
    select d exclude kinds form references empty path bad items =
      match (items.map path).filter fun p => ¬LeftOut d exclude p with
      | [] => .error empty
      | paths => .ok ⟨form, paths, references⟩ := by
  have hfind : (items.find? fun item => !kinds.isSource (path item)) = none := by
    rw [List.find?_eq_none]
    intro item hitem
    simp [h _ (List.mem_map_of_mem hitem)]
  cases hkept : (items.map path).filter fun p => ¬LeftOut d exclude p <;>
    simp only [select, hfind, without_eq_filter, hkept]

theorem select_of_takes {kept : List FilePath} (h : Takes d exclude kinds (items.map path) kept) :
    select d exclude kinds form references empty path bad items = .ok ⟨form, kept, references⟩ := by
  rw [select_of_sources h.sources, ← h.kept_eq]
  cases hkept : kept with
  | nil => exact absurd hkept h.nonempty
  | cons first rest => rfl

theorem select_of_takesNothing (h : TakesNothing d exclude kinds (items.map path)) :
    select d exclude kinds form references empty path bad items = .error empty := by
  have hnone : ((items.map path).filter fun p => ¬LeftOut d exclude p) = [] := by
    rw [List.filter_eq_nil_iff]
    intro p hp
    simp [h.leftOut p hp]
  rw [select_of_sources h.sources, hnone]

theorem select_of_other (h : FirstOther kinds (items.map path) p) : ∃ item, path item = p ∧
    select d exclude kinds form references empty path bad items = .error (bad item) := by
  obtain ⟨before, after, hitems, hbefore, hother⟩ := h
  obtain ⟨front, rest, rfl, rfl, hrest⟩ := List.map_eq_append_iff.mp hitems
  obtain ⟨item, back, rfl, rfl, -⟩ := List.map_eq_cons_iff.mp hrest
  have hfind : ((front ++ item :: back).find? fun other => !kinds.isSource (path other)) =
      some item := by
    rw [List.find?_eq_some_iff_append]
    exact ⟨by simpa using hother, front, back, rfl, by simpa using hbefore⟩
  refine ⟨item, rfl, ?_⟩
  unfold select
  rw [hfind]

end

/-! ## Which form is resolved -/

theorem loadManifest_ok_iff {declared : Manifest} :
    loadManifest d p = .ok declared ↔ Declares d p declared := by
  unfold loadManifest Declares parseManifest
  cases d.readText p with
  | error e => simp
  | ok content => cases hparse : Manifest.parse content <;> simp [hparse]

theorem ofManifest_of_declares {declared : Manifest} (hdeclares : Declares d p declared)
    (hmembers : Placed (directoryOf p) declared.sources members) :
    ofManifest d p exclude kinds =
      select d exclude kinds .manifest (entryPaths (directoryOf p) declared.references)
        (.emptyManifest p) id (.manifestEntry p) members := by
  obtain rfl := placed_iff.mp hmembers
  exact ofManifest_eq_select (loadManifest_ok_iff.mpr hdeclares)

theorem text_ne_of_hasExtension {extensions : List String}
    (h : FileKinds.hasExtension extensions p = true) : p.text ≠ "" := by
  intro htext
  obtain rfl : p = ⟨""⟩ := congrArg FilePath.mk htext
  cases h

theorem resolve_of_list (h : NamesList input text entries) :
    resolve d input exclude kinds =
      select d exclude kinds .list [] (.emptyList text) FilePath.mk .listEntry entries := by
  have hcomma : hasChar ',' text = true := List.contains_iff_mem.mpr h.several
  have hsome : text.isEmpty = false := by
    rw [← Bool.not_eq_true, String.isEmpty_iff]
    rintro rfl
    cases h.several
  unfold resolve
  rw [← trims_iff.mp h.trims]
  simp only [hsome, hcomma, Bool.false_eq_true, if_false, if_true]
  rw [ofList_eq_select, ← lists_iff.mp h.lists]

theorem resolve_of_path (h : NamesPath input p) (hsome : p.text ≠ "") :
    resolve d input exclude kinds =
      if kinds.isManifest p then ofManifest d p exclude kinds
      else if kinds.isSource p then .ok ⟨.file, [p], []⟩
      else .error (.unknownForm p.text kinds) := by
  have hcomma : hasChar ',' p.text = false := by
    rw [← Bool.not_eq_true]
    exact fun hmem => h.single (List.contains_iff_mem.mp hmem)
  have hempty : p.text.isEmpty = false := by
    rw [← Bool.not_eq_true, String.isEmpty_iff]
    exact hsome
  unfold resolve
  rw [← trims_iff.mp h.trims]
  simp only [hempty, hcomma, Bool.false_eq_true, if_false]

theorem resolve_of_manifest (h : NamesPath input p)
    (hmanifest : kinds.isManifest p = true) :
    resolve d input exclude kinds = ofManifest d p exclude kinds := by
  rw [resolve_of_path h (text_ne_of_hasExtension hmanifest), if_pos hmanifest]

/-! ## Both directions -/

theorem resolve_of_names (h : Names d exclude kinds input s) :
    resolve d input exclude kinds = .ok s := by
  cases h with
  | file hpath hmanifest hsource =>
      rw [resolve_of_path hpath (text_ne_of_hasExtension hsource), hmanifest, hsource]
      rfl
  | list hlist htakes =>
      rw [resolve_of_list hlist]
      exact select_of_takes htakes
  | manifest hpath hmanifest hdeclares hmembers hreferences htakes =>
      obtain rfl := placed_iff.mp hreferences
      rw [resolve_of_manifest hpath hmanifest, ofManifest_of_declares hdeclares hmembers]
      refine select_of_takes ?_
      rwa [List.map_id]

theorem resolve_of_refuses (h : Refuses d exclude kinds input problem) :
    resolve d input exclude kinds = .error problem := by
  cases h with
  | blank htrims =>
      unfold resolve
      rw [← trims_iff.mp htrims]
      rfl
  | unknownForm hpath hsome hmanifest hsource =>
      rw [resolve_of_path hpath hsome, hmanifest, hsource]
      rfl
  | listEntry hlist hother =>
      rw [resolve_of_list hlist]
      obtain ⟨item, hitem, hselect⟩ := select_of_other hother
      cases hitem
      exact hselect
  | emptyList hlist hnothing =>
      rw [resolve_of_list hlist]
      exact select_of_takesNothing hnothing
  | unreadable hpath hmanifest hread =>
      rw [resolve_of_manifest hpath hmanifest]
      unfold ofManifest loadManifest
      rw [hread]
  | unparsable hpath hmanifest hread hparse =>
      rw [resolve_of_manifest hpath hmanifest]
      unfold ofManifest loadManifest parseManifest
      rw [hread]
      dsimp only
      rw [hparse]
  | @manifestEntry _ _ _ members hpath hmanifest hdeclares hmembers hother =>
      rw [resolve_of_manifest hpath hmanifest, ofManifest_of_declares hdeclares hmembers]
      rw [← List.map_id members] at hother
      obtain ⟨item, rfl, hselect⟩ := select_of_other hother
      exact hselect
  | emptyManifest hpath hmanifest hdeclares hmembers hnothing =>
      rw [resolve_of_manifest hpath hmanifest, ofManifest_of_declares hdeclares hmembers]
      refine select_of_takesNothing ?_
      rwa [List.map_id]

/-- A list names sources or is refused. -/
theorem names_or_refuses_of_list (h : NamesList input text entries) :
    (∃ s, Names d exclude kinds input s) ∨ ∃ problem, Refuses d exclude kinds input problem := by
  rcases takes_cases d exclude kinds (entries.map FilePath.mk) with ⟨p, hother⟩ |
    ⟨kept, htakes⟩ | hnothing
  · exact .inr ⟨_, .listEntry h hother⟩
  · exact .inl ⟨_, .list h htakes⟩
  · exact .inr ⟨_, .emptyList h hnothing⟩

/-- So does a manifest. -/
theorem names_or_refuses_of_manifest (h : NamesPath input p)
    (hmanifest : kinds.isManifest p = true) :
    (∃ s, Names d exclude kinds input s) ∨ ∃ problem, Refuses d exclude kinds input problem := by
  cases hread : d.readText p with
  | error e => exact .inr ⟨_, .unreadable h hmanifest hread⟩
  | ok content =>
      cases hparse : Manifest.parse content with
      | error reason => exact .inr ⟨_, .unparsable h hmanifest hread hparse⟩
      | ok declared =>
          have hdeclares : Declares d p declared := ⟨content, hread, hparse⟩
          have hmembers := placed_iff.mpr (rfl : entryPaths (directoryOf p) declared.sources = _)
          rcases takes_cases d exclude kinds (entryPaths (directoryOf p) declared.sources) with
            ⟨q, hother⟩ | ⟨kept, htakes⟩ | hnothing
          · exact .inr ⟨_, .manifestEntry h hmanifest hdeclares hmembers hother⟩
          · exact .inl ⟨_, .manifest h hmanifest hdeclares hmembers (placed_iff.mpr rfl) htakes⟩
          · exact .inr ⟨_, .emptyManifest h hmanifest hdeclares hmembers hnothing⟩

/-- Every text names sources or is refused. -/
theorem names_or_refuses (d : Disk) (exclude : Option FilePath) (kinds : FileKinds)
    (input : String) :
    (∃ s, Names d exclude kinds input s) ∨ ∃ problem, Refuses d exclude kinds input problem := by
  have htrims : Trims input (trim input) := trims_iff.mpr rfl
  by_cases hcomma : ',' ∈ (trim input).toList
  · exact names_or_refuses_of_list ⟨htrims, hcomma, lists_iff.mpr rfl⟩
  · have hpath : NamesPath input ⟨trim input⟩ := ⟨htrims, hcomma⟩
    by_cases hblank : trim input = ""
    · exact .inr ⟨_, .blank (hblank ▸ htrims)⟩
    · cases hmanifest : kinds.isManifest ⟨trim input⟩ with
      | true => exact names_or_refuses_of_manifest hpath hmanifest
      | false =>
          cases hsource : kinds.isSource ⟨trim input⟩ with
          | true => exact .inl ⟨_, .file hpath hmanifest hsource⟩
          | false => exact .inr ⟨_, .unknownForm hpath hblank hmanifest hsource⟩

theorem resolve_ok_iff : resolve d input exclude kinds = .ok s ↔ Names d exclude kinds input s := by
  refine ⟨fun h => ?_, resolve_of_names⟩
  rcases names_or_refuses d exclude kinds input with ⟨named, hnames⟩ | ⟨problem, hrefuses⟩
  · cases (resolve_of_names hnames).symm.trans h
    exact hnames
  · cases (resolve_of_refuses hrefuses).symm.trans h

theorem resolve_error_iff :
    resolve d input exclude kinds = .error problem ↔ Refuses d exclude kinds input problem := by
  refine ⟨fun h => ?_, resolve_of_refuses⟩
  rcases names_or_refuses d exclude kinds input with ⟨named, hnames⟩ | ⟨problem, hrefuses⟩
  · cases (resolve_of_names hnames).symm.trans h
  · cases (resolve_of_refuses hrefuses).symm.trans h
    exact hrefuses

/-- What a text names is not nothing, and all of it is sources. -/
theorem Names.sources (h : Names d exclude kinds input s) :
    s.paths ≠ [] ∧ ∀ p ∈ s.paths, kinds.isSource p = true := by
  have hkept {members kept : List FilePath} (htakes : Takes d exclude kinds members kept) :
      kept ≠ [] ∧ ∀ p ∈ kept, kinds.isSource p = true := by
    refine ⟨htakes.nonempty, fun p hp => htakes.sources p ?_⟩
    rw [htakes.kept_eq] at hp
    exact List.mem_of_mem_filter hp
  cases h with
  | file _ _ hsource => exact ⟨by simp, by simpa using hsource⟩
  | list _ htakes => exact hkept htakes
  | manifest _ _ _ _ _ htakes => exact hkept htakes

/-- The problem is the manifest exactly if one is named that declares nothing at all. -/
theorem exists_refuses_isManifest_iff :
    (∃ problem, Refuses d exclude kinds input problem ∧ problem.isManifest = true) ↔
      ∃ p, NamesPath input p ∧ kinds.isManifest p = true ∧ ∀ declared, ¬Declares d p declared := by
  constructor
  · rintro ⟨problem, hrefuses, hproblem⟩
    cases hrefuses with
    | unreadable hpath hmanifest hread =>
        refine ⟨_, hpath, hmanifest, ?_⟩
        rintro declared ⟨content, hcontent, -⟩
        cases hread.symm.trans hcontent
    | unparsable hpath hmanifest hread hparse =>
        refine ⟨_, hpath, hmanifest, ?_⟩
        rintro declared ⟨content, hcontent, hdeclared⟩
        cases hread.symm.trans hcontent
        cases hparse.symm.trans hdeclared
    | _ => cases hproblem
  · rintro ⟨p, hpath, hmanifest, hnone⟩
    cases hread : d.readText p with
    | error e => exact ⟨_, .unreadable hpath hmanifest hread, rfl⟩
    | ok content =>
        cases hparse : Manifest.parse content with
        | error reason => exact ⟨_, .unparsable hpath hmanifest hread hparse, rfl⟩
        | ok declared => exact absurd ⟨content, hread, hparse⟩ (hnone declared)

/-- **What a text names**, for every text, file to leave out, table of extensions and disk.

* The sources that are resolved are those that the text names, and the problem that is met is why it
  names none.
* There is at least one source, and each has the extension of a source.
* The problem is the manifest exactly if the text, trimmed, has no comma and the extension of a
  manifest, and the file cannot be read or is no manifest. -/
theorem resolve_iff (d : Disk) (input : String) (exclude : Option FilePath) (kinds : FileKinds) :
    (∀ s, resolve d input exclude kinds = .ok s ↔ Names d exclude kinds input s) ∧
    (∀ problem, resolve d input exclude kinds = .error problem ↔
      Refuses d exclude kinds input problem) ∧
    (∀ s, resolve d input exclude kinds = .ok s →
      s.paths ≠ [] ∧ ∀ p ∈ s.paths, kinds.isSource p = true) ∧
    ((∃ problem, resolve d input exclude kinds = .error problem ∧ problem.isManifest = true) ↔
      ∃ p, NamesPath input p ∧ kinds.isManifest p = true ∧ ∀ declared, ¬Declares d p declared) := by
  refine ⟨fun s => resolve_ok_iff, fun problem => resolve_error_iff,
    fun s h => (resolve_ok_iff.mp h).sources, ?_⟩
  rw [← exists_refuses_isManifest_iff]
  exact exists_congr fun problem => and_congr_left fun _ => resolve_error_iff

end Expansion.Sources
