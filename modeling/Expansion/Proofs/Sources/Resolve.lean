import Expansion.CommandLine.Toolchain
import Expansion.Proofs.Disk.Rewrite

/-!
# Resolving sources again

The disk decides the sources of a list or manifest in two ways: a manifest is read, and the paths
that name the excluded file are left out (`resolve_ok`).

**A disk that keeps what was there gives the same sources** (`resolve_again`), if the manifest reads
as before and none of the sources has come to name the excluded file. What was left out is left out
again by itself.
-/

namespace Expansion

open Disk

variable {d d' : Disk} {p q output : FilePath} {place : Location} {input : String}
variable {kinds : FileKinds} {s : Sources} {paths : List FilePath} {exclude : Option FilePath}
variable {written : Location → Prop}

/-! ## Answers -/

theorem ok_of_toOption {ε α : Type} {x : Except ε α} {a : α} (h : x.toOption = some a) :
    x = .ok a := by
  cases x with
  | ok b => exact congrArg _ (Option.some.inj h)
  | error e => cases h

/-! ## Paths that name one file -/

/-- Paths name different files if their texts do, unless both lead to one place. -/
theorem Disk.sameFile_eq_false_iff :
    d.sameFile p q = false ↔
      p.same q = false ∧ ∀ place, d.canonical? p = some place → d.canonical? q ≠ some place := by
  unfold sameFile
  rw [Bool.or_eq_false_iff]
  refine and_congr_right fun _ => ?_
  cases d.canonical? p with
  | none => simp
  | some a =>
      cases d.canonical? q with
      | none => simp
      | some b => simp [ne_comm]

/-- Paths that name one file still do. -/
theorem Disk.Keeps.sameFile (h : Keeps written d d') (hsame : d.sameFile p q = true) :
    d'.sameFile p q = true := by
  by_contra hother
  rw [Bool.not_eq_true, sameFile_eq_false_iff] at hother
  obtain ⟨htext, hplaces⟩ := hother
  have hapart : d.sameFile p q = false := by
    refine sameFile_eq_false_iff.mpr ⟨htext, ?_⟩
    intro place hp hq
    exact hplaces place (h.canonical? hp) (h.canonical? hq)
  cases hsame.symm.trans hapart

namespace Sources

/-- What was left out is left out again, and nothing else is. -/
theorem without_again (h : Keeps written d d')
    (hspared : ∀ p ∈ without d (some output) paths, d'.sameFile p output = false) :
    without d' (some output) paths = without d (some output) paths := by
  refine List.filter_congr ?_
  intro p hp
  cases hsame : d.sameFile p output with
  | true => rw [h.sameFile hsame]
  | false => rw [hspared p (List.mem_filter.mpr ⟨hp, by simp [hsame]⟩)]

/-! ## What the disk decides -/

/-- What a list and a manifest have in common: the first item that is no source is the problem, and
without such an item it is that nothing is left. -/
def select {α : Type} (d : Disk) (exclude : Option FilePath) (kinds : FileKinds) (form : Form)
    (references : List FilePath) (empty : Problem) (path : α → FilePath) (bad : α → Problem)
    (items : List α) : Except Problem Sources :=
  match items.find? fun item => !kinds.isSource (path item) with
  | some item => .error (bad item)
  | none =>
    match without d exclude (items.map path) with
    | [] => .error empty
    | paths => .ok ⟨form, paths, references⟩

theorem ofList_eq_select (d : Disk) (input : String) (exclude : Option FilePath)
    (kinds : FileKinds) :
    ofList d input exclude kinds =
      select d exclude kinds .list [] (.emptyList input) FilePath.mk .listEntry
        (listEntries input) := by
  unfold ofList select
  dsimp only
  cases (listEntries input).find? fun entry => !kinds.isSource ⟨entry⟩ with
  | some entry => rfl
  | none => cases without d exclude ((listEntries input).map FilePath.mk) <;> rfl

theorem ofManifest_eq_select {manifest : FilePath} {listed : Manifest}
    (h : loadManifest d manifest = .ok listed) :
    ofManifest d manifest exclude kinds =
      select d exclude kinds .manifest
        (entryPaths (manifest.parent?.getD ⟨""⟩) listed.references) (.emptyManifest manifest) id
        (.manifestEntry manifest) (entryPaths (manifest.parent?.getD ⟨""⟩) listed.sources) := by
  unfold ofManifest select
  rw [h, List.map_id]
  dsimp only [id]
  cases (entryPaths (manifest.parent?.getD ⟨""⟩) listed.sources).find? fun q =>
      !kinds.isSource q with
  | some q => rfl
  | none => cases without d exclude (entryPaths (manifest.parent?.getD ⟨""⟩) listed.sources) <;> rfl

variable {α : Type} {form : Form} {references : List FilePath} {empty : Problem}
variable {path : α → FilePath} {bad : α → Problem} {items : List α}

/-- The disk decides which members are left out of a selection, and nothing else. -/
theorem select_ok (h : select d exclude kinds form references empty path bad items = .ok s) :
    s.form = form ∧ s.paths = without d exclude (items.map path) ∧
      ∀ d', without d' exclude (items.map path) = s.paths →
        select d' exclude kinds form references empty path bad items = .ok s := by
  unfold select at h ⊢
  split at h
  · cases h
  · split at h
    · cases h
    · rename_i hne
      cases h
      refine ⟨rfl, rfl, ?_⟩
      intro d' hpaths
      rw [hpaths]
      split
      · rename_i hnil
        exact absurd hnil hne
      · rfl

/-- A list decides its members. -/
theorem ofList_ok (h : ofList d input exclude kinds = .ok s) :
    s.form = .list ∧ ∃ members, s.paths = without d exclude members ∧
      ∀ d', without d' exclude members = s.paths → ofList d' input exclude kinds = .ok s := by
  rw [ofList_eq_select] at h
  obtain ⟨hform, hpaths, hagain⟩ := select_ok h
  refine ⟨hform, _, hpaths, ?_⟩
  intro d' hsame
  rw [ofList_eq_select]
  exact hagain d' hsame

/-- So does a manifest that reads the same. -/
theorem ofManifest_ok (h : ofManifest d p exclude kinds = .ok s) :
    s.form = .manifest ∧ (∃ text, d.readText p = .ok text) ∧
      ∃ members, s.paths = without d exclude members ∧
        ∀ d', d'.readText p = d.readText p → without d' exclude members = s.paths →
          ofManifest d' p exclude kinds = .ok s := by
  cases hload : loadManifest d p with
  | error problem =>
      unfold ofManifest at h
      rw [hload] at h
      cases h
  | ok manifest =>
      have hread : ∃ text, d.readText p = .ok text := by
        unfold loadManifest at hload
        split at hload
        · cases hload
        · rename_i text htext
          exact ⟨text, htext⟩
      rw [ofManifest_eq_select hload] at h
      obtain ⟨hform, hpaths, hagain⟩ := select_ok h
      refine ⟨hform, hread, _, hpaths, ?_⟩
      intro d' hsame hleft
      have hload' : loadManifest d' p = .ok manifest := by
        unfold loadManifest at hload ⊢
        rwa [hsame]
      rw [ofManifest_eq_select hload']
      exact hagain d' hleft

/-- The manifest that a text names, if it names one. -/
def manifestOf? (input : String) (kinds : FileKinds) : Option FilePath :=
  if Text.hasChar ',' (Text.trim input) then none
  else if kinds.isManifest ⟨Text.trim input⟩ then some ⟨Text.trim input⟩
  else none

/-- A text names a manifest, or a list, or what it names is a matter of the text: one file, if
anything. -/
theorem resolve_cases (input : String) (exclude : Option FilePath) (kinds : FileKinds) :
    (manifestOf? input kinds = some ⟨Text.trim input⟩ ∧
        ∀ d, resolve d input exclude kinds = ofManifest d ⟨Text.trim input⟩ exclude kinds) ∨
      manifestOf? input kinds = none ∧
        ((Text.hasChar ',' (Text.trim input) = true ∧
            ∀ d, resolve d input exclude kinds = ofList d (Text.trim input) exclude kinds) ∨
          Text.hasChar ',' (Text.trim input) = false ∧
            ∃ answer, (∀ s, answer = .ok s → s.form = .file) ∧
              ∀ d, resolve d input exclude kinds = answer) := by
  unfold resolve manifestOf?
  generalize Text.trim input = text
  dsimp only
  cases hblank : text.isEmpty with
  | true =>
      obtain rfl : text = "" := String.isEmpty_iff.mp hblank
      have hmanifest : kinds.isManifest ⟨""⟩ = false := rfl
      refine .inr ⟨?_, .inr ⟨rfl, .error .blank, ⟨fun s hs => ?_, fun _ => rfl⟩⟩⟩
      · rw [hmanifest]
        rfl
      · cases hs
  | false =>
      cases hlist : Text.hasChar ',' text with
      | true => exact .inr ⟨rfl, .inl ⟨rfl, fun _ => rfl⟩⟩
      | false =>
          cases hmanifest : kinds.isManifest ⟨text⟩ with
          | true => exact .inl ⟨rfl, fun _ => rfl⟩
          | false =>
              refine .inr ⟨rfl, .inr ⟨rfl, ?_⟩⟩
              cases hsource : kinds.isSource ⟨text⟩ with
              | true =>
                  refine ⟨.ok ⟨.file, [⟨text⟩], []⟩, ⟨fun s hs => ?_, fun _ => rfl⟩⟩
                  cases hs
                  rfl
              | false =>
                  refine ⟨.error (.unknownForm text kinds), ⟨fun s hs => ?_, fun _ => rfl⟩⟩
                  cases hs

theorem resolve_ok (h : resolve d input exclude kinds = .ok s) :
    (s.form = .file ∧ ∀ d', resolve d' input exclude kinds = .ok s) ∨
      s.form ≠ .file ∧ (s.form = .manifest → ∃ text, d.readText ⟨Text.trim input⟩ = .ok text) ∧
        ∃ members, s.paths = without d exclude members ∧
          ∀ d', (s.form = .manifest →
              d'.readText ⟨Text.trim input⟩ = d.readText ⟨Text.trim input⟩) →
            without d' exclude members = s.paths → resolve d' input exclude kinds = .ok s := by
  rcases resolve_cases input exclude kinds with ⟨-, hresolve⟩ |
    ⟨-, ⟨-, hresolve⟩ | ⟨-, answer, hfile, hresolve⟩⟩
  · rw [hresolve] at h
    obtain ⟨hform, hread, members, hpaths, hagain⟩ := ofManifest_ok h
    refine .inr ⟨by simp [hform], fun _ => hread, members, hpaths, ?_⟩
    intro d' hsame hleft
    rw [hresolve]
    exact hagain d' (hsame hform) hleft
  · rw [hresolve] at h
    obtain ⟨hform, members, hpaths, hagain⟩ := ofList_ok h
    refine .inr ⟨by simp [hform], by simp [hform], members, hpaths, ?_⟩
    intro d' _ hleft
    rw [hresolve]
    exact hagain d' hleft
  · have hanswer : answer = .ok s := (hresolve d).symm.trans h
    exact .inl ⟨hfile s hanswer, fun d' => (hresolve d').trans hanswer⟩

/-- What is resolved from a list or manifest does not name the excluded file. -/
theorem spares_of_resolve (h : resolve d input (some output) kinds = .ok s)
    (hform : s.form ≠ .file) : ∀ p ∈ s.paths, d.sameFile p output = false := by
  rcases resolve_ok h with ⟨hfile, -⟩ | ⟨-, -, members, hpaths, -⟩
  · exact absurd hfile hform
  · intro p hp
    rw [hpaths] at hp
    simpa using (List.mem_filter.mp hp).2

/-- **Sources are resolved again** on a disk that keeps what was there. -/
theorem resolve_again (hkeeps : Keeps written d d')
    (h : resolve d input (some output) kinds = .ok s)
    (hmanifest : s.form = .manifest →
      d'.readText ⟨Text.trim input⟩ = d.readText ⟨Text.trim input⟩)
    (hspared : ∀ p ∈ s.paths, d'.sameFile p output = false) :
    resolve d' input (some output) kinds = .ok s := by
  rcases resolve_ok h with ⟨-, hagain⟩ | ⟨-, -, members, hpaths, hagain⟩
  · exact hagain d'
  · refine hagain d' hmanifest ?_
    rw [hpaths] at hspared ⊢
    exact without_again hkeeps hspared

end Sources

/-! ## Configurations -/

namespace BuildRequest

variable {r : BuildRequest} {config : Configuration}

/-- A configuration has the sources that are resolved, and the rest of it the request decides. -/
theorem configuration_ok (h : r.configuration d kinds = .ok config) :
    Sources.resolve d r.sources r.exclude kinds = .ok config.sources ∧ config.mode = r.mode ∧
      config.output = r.output ∧
      ∀ d', Sources.resolve d' r.sources r.exclude kinds = .ok config.sources →
        r.configuration d' kinds = .ok config := by
  unfold configuration at h ⊢
  cases hresolve : Sources.resolve d r.sources r.exclude kinds with
  | error problem =>
      rw [hresolve] at h
      cases h
  | ok s =>
      rw [hresolve] at h
      dsimp only at h
      cases houtput : Configuration.withOutput s r.mode r.output kinds with
      | error extension =>
          rw [houtput] at h
          cases h
      | ok made =>
          rw [houtput] at h
          cases h
          unfold Configuration.withOutput at houtput
          split at houtput
          · cases houtput
          · rename_i hkind
            cases houtput
            refine ⟨rfl, rfl, rfl, ?_⟩
            intro d' hagain
            rw [show Sources.resolve d' r.sources r.exclude kinds = .ok s from hagain]
            dsimp only
            unfold Configuration.withOutput
            rw [hkind]

end BuildRequest

end Expansion
