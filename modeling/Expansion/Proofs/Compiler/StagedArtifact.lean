import Expansion.Configuration
import Expansion.Proofs.Compiler.Delivery
import Expansion.Proofs.Compiler.References
import Expansion.Proofs.Disk.FileNames
import Expansion.Proofs.DriverProgram.Backend

/-!
# Where an artifact is staged

An artifact is compiled to a scratch file and copied to its output path from there. The scratch file
is named after the output path, and output paths come in many forms: with slashes at their end, with
dots in front of the name, with several dots, or with a dot and nothing behind it.

* **The name of the scratch file is the output's file name with its extension in lower case**
  (`artifactName_of_isArtifact`). An output path is accepted for what stands behind the last dot of
  its name, so the artifact's extension has neither slashes nor dots, whatever a table of file kinds
  may say.
* **`staged_of_withOutput`**: the artifact of an output path that was accepted is one step below the
  scratch directory, and the module that is compiled there has the stem of the output path for its
  name.
-/

namespace Expansion.Compiler

open FilePath

variable {c : Compiler} {config : Configuration} {output : FilePath} {kinds : FileKinds} {m : Machine}

/-! ## The name of the artifact -/

/-- An output path of an artifact has an extension, and in lower case it is the artifact's. -/
theorem parts_of_isArtifact (h : kinds.isArtifact output = true) :
    ∃ stem extension, output.HasParts stem extension ∧
      kinds.artifact = Text.lowercase (String.ofList extension) := by
  unfold FileKinds.isArtifact FileKinds.hasExtension at h
  split at h
  · rename_i extension hextension
    obtain ⟨stem, hparts⟩ := hasParts_of_extension? hextension
    refine ⟨stem, extension.toList, hparts, ?_⟩
    rw [String.ofList_toList]
    simpa [eq_comm] using h
  · cases h

/-- The scratch file of an artifact has the output's file name with the extension in lower case, and
that is a plain name. -/
theorem artifactName_of_isArtifact (h : kinds.isArtifact output = true) :
    ∃ stem extension, output.HasParts stem extension ∧
      kinds.artifact = Text.lowercase (String.ofList extension) ∧
      artifactName output kinds = String.ofList (lowered stem extension) ∧
      IsPlainName (lowered stem extension) := by
  obtain ⟨stem, extension, hparts, hkind⟩ := parts_of_isArtifact h
  have hplain := isPlainName_of_fileName? hparts.fileName
  refine ⟨stem, extension, hparts, hkind, ?_, hplain.lowered hparts.speaks⟩
  unfold artifactName lowered
  rw [hparts.stem?_eq, Option.getD_some, hkind, ← String.toList_inj]
  simp [String.toList_append]

/-! ## The delivery of the artifact -/

/-- A delivery stages its artifact in a directory. -/
structure StagesIn (c : Compiler) (config : Configuration) (m : Machine)
    (directory artifact : FilePath) : Prop where
  /-- The backend is asked for this file only: one that agrees there delivers alike. -/
  asks : ∀ b : Backend, (∀ request, request.target = .file artifact → b request = c.backend request) →
    ∀ text scratch, { c with backend := b }.deliver config text scratch m =
      c.deliver config text scratch m
  /-- A delivery that succeeds has made the directory, compiled to the file, copied it, and taken the
  directory away. -/
  copies : ∀ text scratch r after, c.deliver config text scratch m = (.ok r, after) →
    ∃ made module staged above copied, m.disk.makeDirectory directory = .ok made ∧
      c.compileWithGenerated config.sources.paths text config.references config.flags
        (.file artifact) { m with disk := made } = (.ok module, staged) ∧
      staged.disk.makeParent config.output = .ok above ∧
      above.copyFile artifact config.output = .ok copied ∧
      after.disk = copied.without directory

/-- In `artifact` mode the directory is the scratch directory, and the file is its child that is named
after the output path. -/
theorem stagesIn_of_artifact (c : Compiler) (m : Machine) (hmode : config.mode = .artifact) :
    StagesIn c config m (m.disk.freshScratch "typexpand-" "")
      (artifactIn (m.disk.freshScratch "typexpand-" "") config.output c.kinds) where
  asks := by
    intro b hb text scratch
    have hcompile : { c with backend := b }.compileWithGenerated config.sources.paths text
        config.references config.flags
        (.file (artifactIn (m.disk.freshScratch "typexpand-" "") config.output c.kinds)) =
        c.compileWithGenerated config.sources.paths text config.references config.flags
          (.file (artifactIn (m.disk.freshScratch "typexpand-" "") config.output c.kinds)) :=
      compileWithGenerated_congr (fun sources => hb _ rfl) config.sources.paths text
    have hartifact : { c with backend := b }.deliverArtifact config text m =
        c.deliverArtifact config text m := by
      unfold deliverArtifact
      apply Act.withScratchDirectory_congr
      show (_ >>= _) = (_ >>= _)
      unfold artifactIn at hcompile
      rw [hcompile]
    unfold deliver
    rw [hmode]
    dsimp only
    rw [Act.bind_apply, Act.bind_apply, hartifact]
  copies := by
    intro text scratch r after h
    unfold deliver at h
    rw [hmode] at h
    obtain ⟨_, delivered, hartifact, hpure⟩ := Act.bind_ok h
    cases hpure
    obtain ⟨made, done, hmade, hwork, hend⟩ := Act.withScratchDirectory_ok hartifact
    obtain ⟨module, staged, hcompile, hwork⟩ := Act.bind_ok hwork
    obtain ⟨_, _, hparent, hwork⟩ := Act.bind_ok hwork
    obtain ⟨_, _, hcopy, hannounce⟩ := Act.bind_ok hwork
    obtain ⟨above, habove, rfl⟩ := Act.attempt_ok hparent
    obtain ⟨copied, hcopied, rfl⟩ := Act.onDisk_ok hcopy
    cases hannounce
    exact ⟨made, module, staged, above, copied, hmade, hcompile, habove, hcopied, hend⟩

/-! ## The path of the artifact -/

/-- An output path is accepted in `artifact` mode if it is that of an artifact, and it is kept as it
is. -/
theorem isArtifact_of_withOutput {sources : Sources} {accepted : Configuration}
    (h : Configuration.withOutput sources .artifact output kinds = .ok accepted) :
    kinds.isArtifact output = true ∧ accepted.mode = .artifact ∧ accepted.output = output := by
  unfold Configuration.withOutput Configuration.missingExtension? at h
  dsimp only at h
  cases hkind : kinds.isArtifact output with
  | true =>
      rw [hkind] at h
      cases h
      exact ⟨rfl, rfl, rfl⟩
  | false =>
      rw [hkind] at h
      cases h

/-- **An artifact is staged as a child of the scratch directory.** An output path that is accepted in
`artifact` mode has a name of two parts. With the second part in lower case this is one plain name,
and the artifact has it: in whatever directory, its path is the directory's and this one step, its
stem is the stem of the output path, and so is the name of the module that a driver program makes of
it. This file is where a compiler with the same kinds stages what it delivers to the path. -/
theorem staged_of_withOutput {sources : Sources} {accepted : Configuration}
    (h : Configuration.withOutput sources .artifact output kinds = .ok accepted) :
    ∃ stem extension, output.HasParts stem extension ∧
      lowered stem extension = stem ++ '.' :: kinds.artifact.toList ∧
      IsPlainName (lowered stem extension) ∧
      (∀ directory,
        (artifactIn directory output kinds).components =
          directory.components ++ [.name (lowered stem extension)] ∧
        (artifactIn directory output kinds).HasParts stem kinds.artifact.toList ∧
        (artifactIn directory output kinds).stem? = output.stem? ∧
        ∀ (p : DriverProgram) request m answer after module,
          request.target = .file (artifactIn directory output kinds) →
          p.backend request m = (.ok answer, after) → answer.module? = some module →
          module.name = String.ofList stem) ∧
      ∀ (c : Compiler) (config : Configuration) (m : Machine), c.kinds = kinds →
        config.mode = accepted.mode → config.output = accepted.output →
        StagesIn c config m (m.disk.freshScratch "typexpand-" "")
          (artifactIn (m.disk.freshScratch "typexpand-" "") output kinds) := by
  obtain ⟨hkinds, hmode, houtput⟩ := isArtifact_of_withOutput h
  obtain ⟨stem, extension, hparts, hkind, hname, hplain⟩ := artifactName_of_isArtifact hkinds
  have hchild : ∀ directory, artifactIn directory output kinds =
      directory.child (String.ofList (lowered stem extension)) := by
    intro directory
    unfold artifactIn
    rw [hname]
  refine ⟨stem, extension, hparts, by rw [lowered, hkind], hplain, ?_, ?_⟩
  · intro directory
    have hartifact : (artifactIn directory output kinds).HasParts stem kinds.artifact.toList := by
      rw [hkind]
      apply hparts.lowered
      rw [hchild, fileName?_child hplain]
    refine ⟨?_, hartifact, ?_, ?_⟩
    · rw [hchild, components_child hplain]
    · rw [hartifact.stem?_eq, hparts.stem?_eq]
    · intro p request m answer after module htarget hanswer hmodule
      obtain ⟨catalog, image, rfl⟩ := DriverProgram.load_of_backend htarget hanswer hmodule
      show (p.load _ catalog image).name = String.ofList stem
      rw [DriverProgram.load_name, hartifact.stem?_eq, Option.getD_some]
  · rintro c config m rfl hconfig hpath
    have hstages := stagesIn_of_artifact c m (hconfig.trans hmode)
    rw [hpath, houtput] at hstages
    exact hstages

/-- A name with two dots and capital letters, under a directory that is written with a slash too many:
the artifact is one step below the scratch directory, and its stem has the first dot. -/
theorem staged_of_twoDots :
    let output : FilePath := ⟨"bin//Out.tar.LIB/"⟩
    let artifact := artifactIn ⟨"/tmp/typexpand-1"⟩ output .standard
    (Configuration.withOutput (.ofPaths []) .artifact output .standard).isOk = true ∧
      artifact.components = [.root, .name "tmp".toList, .name "typexpand-1".toList,
        .name "Out.tar.lib".toList] ∧
      artifact.stem? = some "Out.tar" := by
  intro output artifact
  have haccepted : Configuration.withOutput (.ofPaths []) .artifact output .standard =
      .ok ⟨.ofPaths [], [], [], .artifact, output⟩ := by
    have hkind : FileKinds.standard.isArtifact output = true := by decide +kernel
    unfold Configuration.withOutput Configuration.missingExtension?
    dsimp only
    rw [hkind]
    rfl
  obtain ⟨stem, extension, hparts, hname, -, hartifact, -⟩ := staged_of_withOutput haccepted
  obtain ⟨hcomponents, -, hstem, -⟩ := hartifact ⟨"/tmp/typexpand-1"⟩
  have hOut : output.stem? = some "Out.tar" := by decide +kernel
  have hstem' : stem = "Out.tar".toList := by
    have h := hparts.stem?_eq.symm.trans hOut
    rw [Option.some_inj, ← String.toList_inj, String.toList_ofList] at h
    exact h
  refine ⟨by rw [haccepted]; rfl, ?_, hstem.trans hOut⟩
  rw [hcomponents, hname, hstem']
  rfl

end Expansion.Compiler
