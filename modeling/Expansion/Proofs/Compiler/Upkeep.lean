import Expansion.Compiler.Delivery
import Expansion.Proofs.Compiler.StagedArtifact
import Expansion.Proofs.Machine.Scratch

/-!
# What a delivery does to the disk

A delivery with a backend that only adds files (`Backend.Quiet`) changes one file at most.

* **A compilation to a file is asked for at a free path** (`Opened.vacant`), and whatever was there
  before stays.
* In `embed` mode nothing is written, and neither is it by a delivery that fails
  (`deliver_error_keeps`).
* In the other modes one place is written, and the output path leads there afterwards, if it leads
  anywhere (`Wrote`).
-/

namespace Expansion

open Disk

/-! ## The name of the artifact -/

namespace Compiler

/-- The scratch file of an artifact has a plain name, if the output path is that of an artifact. -/
theorem artifactName_plain {output : FilePath} {kinds : FileKinds}
    (h : kinds.isArtifact output = true) :
    '/' ∉ (artifactName output kinds).toList ∧ IsPlain (artifactName output kinds) := by
  obtain ⟨stem, extension, -, -, hname, hplain⟩ := artifactName_of_isArtifact h
  rw [hname, String.toList_ofList]
  exact ⟨hplain.noSlash, hplain.isPlain⟩

end Compiler

/-! ## Backends that only add -/

/-- A backend that changes nothing that is there: a compilation in memory and the functions of a
module may add files, and so may a compilation to a file that is not there yet. -/
structure Backend.Quiet (b : Backend) : Prop where
  memory : ∀ request m, request.target = .memory → Keeps nowhere m.disk (b request m).2.disk
  file : ∀ request p m, request.target = .file p → m.disk.leadsSomewhere p = false →
    Keeps nowhere m.disk (b request m).2.disk
  calls : ∀ request m output after module, b request m = (.ok output, after) →
    output.module? = some module → ∀ f ∈ module.functions, ∀ values n,
      Keeps nowhere n.disk (f.2 values n).2.disk

theorem Backend.Quiet.behaves {b : Backend} (h : b.Quiet) (d : Disk) :
    b.Behaves (Act.Preserves (Keeps nowhere d)) where
  answers := fun request htarget m hm => hm.trans (h.memory request m htarget)
  calls := fun request m output after module hanswer hmodule f hf values n hn =>
    hn.trans (h.calls request m output after module hanswer hmodule f hf values n)

namespace Compiler

variable {c : Compiler} {config : Configuration} {text : String} {scratch : Module}
variable {m m' : Machine} {target : CompileTarget} {written : Location → Prop}

theorem compile_keeps {sources references : List FilePath} {flags : List String}
    (hb : c.backend.Quiet) (hfree : ∀ p, target = .file p → m.disk.leadsSomewhere p = false) :
    Keeps nowhere m.disk (c.compile sources references flags target m).2.disk := by
  rw [compile_disk]
  cases target with
  | memory => exact hb.memory _ (sent _ m) rfl
  | file p => exact hb.file _ p (sent _ m) rfl (hfree p rfl)

theorem exists_plain_generated (kinds : FileKinds) : ∃ piece rest,
    piecesOf ("generated." ++ kinds.primarySource) = piece :: rest ∧ IsPlain piece := by
  refine exists_plain_of_head (c := 'g') ?_ (by decide) (by decide)
  rw [String.toList_append]
  rfl

/-- Generated text is compiled with nothing gone or changed, if there is nothing yet where the
module goes. -/
theorem compileWithGenerated_keeps {sources references : List FilePath} {flags : List String}
    (hb : c.backend.Quiet) (htree : m.disk.IsTree)
    (hfree : ∀ d, Staged m.disk d → ∀ p, target = .file p → d.leadsSomewhere p = false) :
    Keeps nowhere m.disk
      (c.compileWithGenerated sources text references flags target m).2.disk := by
  unfold compileWithGenerated
  split
  · exact compile_keeps hb (hfree m.disk (.inl rfl))
  · refine Act.withScratchDirectory_keeps htree Act.plainStem_typexpand ?_
    intro n place hopened
    obtain ⟨piece, rest, hname, hplain⟩ := exists_plain_generated c.kinds
    have hwrites : ∀ d, n.disk.writeFile ((m.disk.freshScratch "typexpand-" "").child
        ("generated." ++ c.kinds.primarySource)) text.toUTF8 = .ok d →
        d = n.disk.set (place ++ [piece]) (.file text.toUTF8 false) := by
      intro d hwrite
      exact writeFile_of_free hname hplain hopened.inside (hopened.empty piece) hwrite
    refine Act.bind_keeps (Act.onDisk_keeps ?_) ?_
    · intro d hwrite
      rw [hwrites d hwrite]
      exact keeps_set_free (get?_of_find hopened.found) (hopened.empty piece)
    · intro _ after hwrite
      obtain ⟨d, hd, rfl⟩ := Act.onDisk_ok hwrite
      refine compile_keeps hb (hfree d (.inr ⟨n.disk, _, place, piece, text.toUTF8, hopened, ?_⟩))
      exact hwrites d hd

/-! ## Deliveries -/

theorem deliverModule_keeps (hb : c.backend.Quiet) (htree : m.disk.IsTree)
    (config : Configuration) (text : String) :
    Keeps nowhere m.disk (c.deliverModule config text m).2.disk :=
  compileWithGenerated_keeps hb htree fun _ _ _ h => by cases h

/-- A source that is delivered is what its path leads to, and nothing else is written. -/
theorem deliverSource_ok {u : Unit} (h : deliverSource config text m = (.ok u, m')) :
    ∃ place runnable,
      m'.disk.find config.output true = .ok (.present place (.file text.toUTF8 runnable)) ∧
      Keeps (· = place) m.disk m'.disk := by
  obtain ⟨_, between, hparent, h⟩ := Act.bind_ok h
  obtain ⟨_, after, hwrite, hannounce⟩ := Act.bind_ok h
  obtain ⟨d, hd, rfl⟩ := Act.attempt_ok hparent
  obtain ⟨d', hd', rfl⟩ := Act.onDisk_ok hwrite
  obtain ⟨place, runnable, -, hfind, hkeeps⟩ := writeFile_ok hd'
  cases hannounce
  exact ⟨place, runnable, hfind, (makeParent_keeps hd).anywhere.trans hkeeps⟩

theorem deliverSource_error {e : Failure} (h : deliverSource config text m = (.error e, m')) :
    Keeps nowhere m.disk m'.disk := by
  rcases Act.bind_error h with hparent | ⟨_, between, hparent, h⟩
  · obtain ⟨_, -, -, rfl⟩ := Act.attempt_error hparent
    exact attemptParent_keeps _ _
  · obtain ⟨d, hd, rfl⟩ := Act.attempt_ok hparent
    rcases Act.bind_error h with hwrite | ⟨_, after, -, hannounce⟩
    · obtain ⟨_, -, -, rfl⟩ := Act.onDisk_error hwrite
      exact makeParent_keeps hd
    · cases hannounce

/-- The work of delivering an artifact by way of a scratch directory. -/
def artifactWork (c : Compiler) (config : Configuration) (text : String) (directory : FilePath) :
    Act Unit := do
  let artifact := directory.child (artifactName config.output c.kinds)
  let _ ← c.compileWithGenerated config.sources.paths text config.references config.flags
    (.file artifact)
  Act.attempt none fun d => d.attemptParent config.output
  Act.onDisk none fun d => d.copyFile artifact config.output
  announceOutput "copied artifact" config.output []

theorem deliverArtifact_eq (c : Compiler) (config : Configuration) (text : String) :
    c.deliverArtifact config text =
      Act.withScratchDirectory "typexpand-" (artifactWork c config text) := rfl

section

variable {d : Disk} {p : FilePath} {place : Location} {n n' : Machine}

/-- In its scratch directory, an artifact is compiled with nothing gone or changed. -/
theorem compileArtifact_keeps (hb : c.backend.Quiet)
    (hkind : c.kinds.isArtifact config.output = true) (htree : d.IsTree)
    (hopened : Opened d n.disk p place) (text : String) :
    Keeps nowhere n.disk (c.compileWithGenerated config.sources.paths text config.references
      config.flags (.file (p.child (artifactName config.output c.kinds))) n).2.disk := by
  obtain ⟨hslash, hplain⟩ := artifactName_plain hkind
  refine compileWithGenerated_keeps hb (hopened.keeps.tree htree) ?_
  intro d' hstaged q hq
  cases hq
  exact hopened.vacant hstaged (piecesOf_of_no_slash hslash) hplain

theorem artifactWork_ok {u : Unit} (hb : c.backend.Quiet)
    (hkind : c.kinds.isArtifact config.output = true) (htree : d.IsTree)
    (hopened : Opened d n.disk p place) (h : artifactWork c config text p n = (.ok u, n')) :
    ∃ output e, n'.disk.find config.output true = .ok (.present output e) ∧
      Keeps (· = output) n.disk n'.disk := by
  have hcompile := compileArtifact_keeps hb hkind htree hopened text
  obtain ⟨module, compiled, hmodule, h⟩ := Act.bind_ok h
  obtain ⟨_, between, hparent, h⟩ := Act.bind_ok h
  obtain ⟨_, after, hcopy, hannounce⟩ := Act.bind_ok h
  obtain ⟨d₁, hd₁, rfl⟩ := Act.attempt_ok hparent
  obtain ⟨d₂, hd₂, rfl⟩ := Act.onDisk_ok hcopy
  obtain ⟨content, hwrite⟩ := copyFile_ok hd₂
  obtain ⟨output, runnable, -, hfind, hkeeps⟩ := writeFile_ok hwrite
  rw [hmodule] at hcompile
  cases hannounce
  exact ⟨output, _, hfind, (hcompile.trans (makeParent_keeps hd₁)).anywhere.trans hkeeps⟩

theorem artifactWork_error {e : Failure} (hb : c.backend.Quiet)
    (hkind : c.kinds.isArtifact config.output = true) (htree : d.IsTree)
    (hopened : Opened d n.disk p place) (h : artifactWork c config text p n = (.error e, n')) :
    Keeps nowhere n.disk n'.disk := by
  have hcompile := compileArtifact_keeps hb hkind htree hopened text
  rcases Act.bind_error h with hmodule | ⟨module, compiled, hmodule, h⟩
  · rw [hmodule] at hcompile
    exact hcompile
  · rw [hmodule] at hcompile
    rcases Act.bind_error h with hparent | ⟨_, between, hparent, h⟩
    · obtain ⟨_, -, -, rfl⟩ := Act.attempt_error hparent
      exact hcompile.trans (attemptParent_keeps _ _)
    · obtain ⟨d₁, hd₁, rfl⟩ := Act.attempt_ok hparent
      rcases Act.bind_error h with hcopy | ⟨_, after, -, hannounce⟩
      · obtain ⟨_, -, -, rfl⟩ := Act.onDisk_error hcopy
        exact hcompile.trans (makeParent_keeps hd₁)
      · cases hannounce

end

/-- An artifact is delivered to the place that its path leads to afterwards, if it leads anywhere.
It may lead nowhere if it goes by way of the scratch directory. -/
theorem deliverArtifact_ok {u : Unit} (hb : c.backend.Quiet)
    (hkind : c.kinds.isArtifact config.output = true) (htree : m.disk.IsTree)
    (h : c.deliverArtifact config text m = (.ok u, m')) :
    ∃ place, Keeps (· = place) m.disk m'.disk ∧
      ∀ other, m'.disk.canonical? config.output = some other → other = place := by
  rw [deliverArtifact_eq] at h
  rcases Act.withScratchDirectory_cases htree Act.plainStem_typexpand (artifactWork c config text)
    with ⟨e, hfails⟩ | ⟨n, scratchPlace, hopened, hresult, hdisk⟩
  · cases hfails.symm.trans h
  · rw [h] at hresult hdisk
    have hwork : artifactWork c config text _ n = (.ok u, (artifactWork c config text _ n).2) :=
      Prod.ext hresult.symm rfl
    obtain ⟨place, e, hfind, hkeeps⟩ := artifactWork_ok hb hkind htree hopened hwork
    have hall := hopened.keeps.anywhere.trans hkeeps
    have hend := hdisk _ hkeeps
    dsimp only at hend
    refine ⟨place, hend ▸ hall.eraseTree htree hopened.free, ?_⟩
    intro other hother
    obtain ⟨e', hfind'⟩ := find_of_canonical? hother
    rw [hend] at hfind'
    obtain ⟨e'', hback, -⟩ := (keeps_of_eraseTree (hall.tree htree) scratchPlace).find hfind'
    rw [hfind] at hback
    cases hback
    rfl

theorem deliverArtifact_error {e : Failure} (hb : c.backend.Quiet)
    (hkind : c.kinds.isArtifact config.output = true) (htree : m.disk.IsTree)
    (h : c.deliverArtifact config text m = (.error e, m')) : Keeps nowhere m.disk m'.disk := by
  rw [deliverArtifact_eq] at h
  rcases Act.withScratchDirectory_cases htree Act.plainStem_typexpand (artifactWork c config text)
    with ⟨e', hfails⟩ | ⟨n, scratchPlace, hopened, hresult, hdisk⟩
  · cases hfails.symm.trans h
    exact .refl _ _
  · rw [h] at hresult hdisk
    have hwork : artifactWork c config text _ n = (.error e, (artifactWork c config text _ n).2) :=
      Prod.ext hresult.symm rfl
    have hkeeps := artifactWork_error hb hkind htree hopened hwork
    have hend := hdisk _ hkeeps
    dsimp only at hend
    rw [hend]
    exact (hopened.keeps.trans hkeeps).eraseTree htree hopened.free

/-- A delivery that fails writes nothing. -/
theorem deliver_error_keeps {e : Failure} (hb : c.backend.Quiet)
    (hkind : config.mode = .artifact → c.kinds.isArtifact config.output = true)
    (htree : m.disk.IsTree) (h : c.deliver config text scratch m = (.error e, m')) :
    Keeps nowhere m.disk m'.disk := by
  unfold deliver at h
  cases hmode : config.mode with
  | embed =>
      rw [hmode] at h
      rcases Act.bind_error h with hmodule | ⟨_, _, -, hpure⟩
      · have hkeeps := deliverModule_keeps hb htree config text
        rw [hmodule] at hkeeps
        exact hkeeps
      · cases hpure
  | artifact =>
      rw [hmode] at h
      rcases Act.bind_error h with hartifact | ⟨_, _, -, hpure⟩
      · exact deliverArtifact_error hb (hkind hmode) htree hartifact
      · cases hpure
  | source =>
      rw [hmode] at h
      rcases Act.bind_error h with hsource | ⟨_, _, -, hpure⟩
      · exact deliverSource_error hsource
      · cases hpure

/-- What a delivery that succeeds has written. -/
inductive Wrote (config : Configuration) (text : String) (d d' : Disk) : Prop
  | nothing : config.mode = .embed → Keeps nowhere d d' → Wrote config text d d'
  | artifact (place : Location) : config.mode = .artifact → Keeps (· = place) d d' →
      (∀ other, d'.canonical? config.output = some other → other = place) → Wrote config text d d'
  | source (place : Location) (runnable : Bool) : config.mode = .source →
      Keeps (· = place) d d' →
      d'.find config.output true = .ok (.present place (.file text.toUTF8 runnable)) →
      Wrote config text d d'

section

variable {d d' d'' : Disk}

/-- What was done before a delivery, if it wrote nothing, does not count. -/
theorem Wrote.after (h : Wrote config text d' d'') (hd : Keeps nowhere d d') :
    Wrote config text d d'' := by
  cases h with
  | nothing hmode hkeeps => exact .nothing hmode (hd.trans hkeeps)
  | artifact place hmode hkeeps hplace =>
      exact .artifact place hmode (hd.anywhere.trans hkeeps) hplace
  | source place runnable hmode hkeeps hfind =>
      exact .source place runnable hmode (hd.anywhere.trans hkeeps) hfind

/-- A delivery keeps every place but the one that its output path leads to. -/
theorem Wrote.spares {place : Location} (h : Wrote config text d d')
    (hplace : config.mode = .embed ∨
      ∃ other, d'.canonical? config.output = some other ∧ other ≠ place) :
    Keeps (· ≠ place) d d' := by
  cases h with
  | nothing _ hkeeps => exact hkeeps.anywhere
  | artifact written hmode hkeeps hleads =>
      rcases hplace with hembed | ⟨other, hother, hne⟩
      · cases hmode.symm.trans hembed
      · rw [hleads other hother] at hne
        exact hkeeps.weaken fun q hq => hq ▸ hne
  | source written runnable hmode hkeeps hfind =>
      rcases hplace with hembed | ⟨other, hother, hne⟩
      · cases hmode.symm.trans hembed
      · cases (canonical?_of_find hfind).symm.trans hother
        exact hkeeps.weaken fun q hq => hq ▸ hne

theorem Wrote.keeps (h : Wrote config text d d') : Keeps (fun _ => True) d d' := by
  cases h with
  | nothing _ hkeeps => exact hkeeps.anywhere
  | artifact _ _ hkeeps _ => exact hkeeps.weaken fun _ _ => trivial
  | source _ _ _ hkeeps _ => exact hkeeps.weaken fun _ _ => trivial

end

theorem deliver_ok_wrote {r : BuildResult} (hb : c.backend.Quiet)
    (hkind : config.mode = .artifact → c.kinds.isArtifact config.output = true)
    (htree : m.disk.IsTree) (h : c.deliver config text scratch m = (.ok r, m')) :
    Wrote config text m.disk m'.disk := by
  unfold deliver at h
  cases hmode : config.mode with
  | embed =>
      rw [hmode] at h
      obtain ⟨final, between, hmodule, hpure⟩ := Act.bind_ok h
      have hkeeps := deliverModule_keeps hb htree config text
      rw [hmodule] at hkeeps
      cases hpure
      exact .nothing hmode hkeeps
  | artifact =>
      rw [hmode] at h
      obtain ⟨_, between, hartifact, hpure⟩ := Act.bind_ok h
      obtain ⟨place, hkeeps, hplace⟩ := deliverArtifact_ok hb (hkind hmode) htree hartifact
      cases hpure
      exact .artifact place hmode hkeeps hplace
  | source =>
      rw [hmode] at h
      obtain ⟨_, between, hsource, hpure⟩ := Act.bind_ok h
      obtain ⟨place, runnable, hfind, hkeeps⟩ := deliverSource_ok hsource
      cases hpure
      exact .source place runnable hmode hkeeps hfind

end Compiler

end Expansion
