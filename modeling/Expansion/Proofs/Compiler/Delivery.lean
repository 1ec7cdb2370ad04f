import Expansion.Compiler.Delivery
import Expansion.Proofs.Machine.Act

/-!
# What a delivery hands back

* Whatever the output mode, a delivery that succeeds hands back the text and the scratch module that
  it was given, and a final module exactly in `embed` mode (`deliver_ok`). So the module that a host
  should load is always the one that the mode speaks of.
* **A delivery fails for one of four reasons** (`DeliveryFault`), each of them with what failed: the
  second compilation, the two scratch files that it needs, and the output path.
-/

namespace Expansion

namespace BuildResult

/-- Whether a result has what a mode makes. -/
def Fits (r : BuildResult) (mode : OutputMode) : Prop := r.final?.isSome = true ↔ mode = .embed

/-- The module to load under `embed` is the final one: a result that fits never falls back to the
scratch module. -/
theorem Fits.hostModule_embed {r : BuildResult} (h : r.Fits .embed) :
    ∃ final, r.final? = some final ∧ r.hostModule .embed = final := by
  obtain ⟨final, hfinal⟩ := Option.isSome_iff_exists.mp (h.mpr rfl)
  refine ⟨final, hfinal, ?_⟩
  simp only [hostModule, hfinal, Option.getD_some]

/-- In the other modes it is the scratch module. -/
theorem hostModule_of_ne_embed (r : BuildResult) {mode : OutputMode} (h : mode ≠ .embed) :
    r.hostModule mode = r.scratch := by
  cases mode with
  | embed => exact absurd rfl h
  | artifact => rfl
  | source => rfl

end BuildResult

namespace Compiler

variable {c : Compiler} {config : Configuration} {text : String} {scratch : Module}
variable {m m' : Machine} {r : BuildResult}

theorem deliver_ok (h : c.deliver config text scratch m = (.ok r, m')) :
    r.scratch = scratch ∧ r.generated = text ∧ r.Fits config.mode := by
  unfold deliver at h
  cases hmode : config.mode with
  | embed =>
      rw [hmode] at h
      obtain ⟨final, between, -, hpure⟩ := Act.bind_ok h
      cases hpure
      exact ⟨rfl, rfl, by simp [BuildResult.Fits]⟩
  | artifact =>
      rw [hmode] at h
      obtain ⟨_, between, -, hpure⟩ := Act.bind_ok h
      cases hpure
      exact ⟨rfl, rfl, by simp [BuildResult.Fits]⟩
  | source =>
      rw [hmode] at h
      obtain ⟨_, between, -, hpure⟩ := Act.bind_ok h
      cases hpure
      exact ⟨rfl, rfl, by simp [BuildResult.Fits]⟩

/-- In `source` mode, text that can be written is delivered. -/
theorem deliver_of_source {d d' : Disk} (c : Compiler) (scratch : Module)
    (hmode : config.mode = .source) (hparent : m.disk.makeParent config.output = .ok d)
    (hwrite : d.writeFile config.output text.toUTF8 = .ok d') :
    ∃ n, c.deliver config text scratch m = (.ok ⟨none, scratch, text⟩, n) ∧ n.disk = d' := by
  have hsource : ∃ n, deliverSource config text m = (.ok (), n) ∧ n.disk = d' := by
    unfold deliverSource
    rw [Act.bind_of_ok (Act.attempt_of_ok (f := fun d => d.attemptParent config.output) hparent),
      Act.bind_of_ok (Act.onDisk_of_ok hwrite)]
    exact ⟨_, rfl, rfl⟩
  obtain ⟨n, hsource, hn⟩ := hsource
  refine ⟨n, ?_, hn⟩
  unfold deliver
  rw [hmode]
  dsimp only
  rw [Act.bind_of_ok hsource]
  rfl

/-- In `source` mode a delivery that succeeded has written the text. -/
theorem deliver_source_ok (hmode : config.mode = .source)
    (h : c.deliver config text scratch m = (.ok r, m')) :
    ∃ d, m.disk.makeParent config.output = .ok d ∧
      d.writeFile config.output text.toUTF8 = .ok m'.disk := by
  unfold deliver at h
  rw [hmode] at h
  obtain ⟨_, between, hsource, hpure⟩ := Act.bind_ok h
  cases hpure
  obtain ⟨_, _, hparent, hrest⟩ := Act.bind_ok hsource
  obtain ⟨d, hd, rfl⟩ := Act.attempt_ok hparent
  obtain ⟨_, _, hwrite, hannounce⟩ := Act.bind_ok hrest
  obtain ⟨d', hd', rfl⟩ := Act.onDisk_ok hwrite
  cases hannounce
  exact ⟨d, hd, hd'⟩

/-! ## Why a delivery fails -/

/-- The scratch file with the generated text. -/
def generatedIn (directory : FilePath) (kinds : FileKinds) : FilePath :=
  directory.child ("generated." ++ kinds.primarySource)

/-- The scratch file of the artifact. -/
def artifactIn (directory output : FilePath) (kinds : FileKinds) : FilePath :=
  directory.child (artifactName output kinds)

/-- The failures of a delivery. -/
inductive DeliveryFault (c : Compiler) (config : Configuration) (text : String) : Failure → Prop
  /-- The sources do not compile with the text, or alone if the text is blank. -/
  | compile {sources : List FilePath} {target : CompileTarget} {m after : Machine} {e : Failure} :
      (config.mode = .embed ∧ target = .memory) ∨ (config.mode = .artifact ∧
        ∃ directory, target = .file (artifactIn directory config.output c.kinds)) →
      (sources = config.sources.paths ∨
        ∃ directory, sources = config.sources.paths ++ [generatedIn directory c.kinds]) →
      c.compile sources config.references config.flags target m = (.error e, after) →
      DeliveryFault c config text e
  /-- There is no making a scratch directory. -/
  | scratchDirectory {d : Disk} {error : Disk.Error} : config.mode ≠ .source →
      d.makeDirectory (d.freshScratch "typexpand-" "") = .error error →
      DeliveryFault c config text (.disk error (some (d.freshScratch "typexpand-" "")))
  /-- The text cannot be written to a scratch file. -/
  | scratchFile {d : Disk} {directory : FilePath} {error : Disk.Error} : config.mode ≠ .source →
      d.writeFile (generatedIn directory c.kinds) text.toUTF8 = .error error →
      DeliveryFault c config text (.disk error none)
  /-- The output path cannot be written. -/
  | output {d : Disk} {error : Disk.Error} :
      config.mode ≠ .embed →
      (d.makeParent config.output = .error error ∨
        d.writeFile config.output text.toUTF8 = .error error ∨
        ∃ directory, d.copyFile (artifactIn directory config.output c.kinds) config.output =
          .error error) →
      DeliveryFault c config text (.disk error none)

theorem compileWithGenerated_error {target : CompileTarget} {e : Failure}
    (hmode : (config.mode = .embed ∧ target = .memory) ∨ (config.mode = .artifact ∧
      ∃ directory, target = .file (artifactIn directory config.output c.kinds)))
    (h : c.compileWithGenerated config.sources.paths text config.references config.flags target m =
      (.error e, m')) : DeliveryFault c config text e := by
  have hother : config.mode ≠ .source := by
    rcases hmode with ⟨hmode, -⟩ | ⟨hmode, -⟩ <;> rw [hmode] <;> simp
  unfold compileWithGenerated at h
  split at h
  · exact .compile hmode (.inl rfl) h
  · rcases Act.withScratchDirectory_error h with ⟨error, hmake, rfl⟩ | ⟨n, after, hwork⟩
    · exact .scratchDirectory hother hmake
    · rcases Act.bind_error hwork with hwrite | ⟨_, written, -, hcompile⟩
      · obtain ⟨error, hfault, rfl, -⟩ := Act.onDisk_error hwrite
        exact .scratchFile hother hfault
      · exact .compile hmode (.inr ⟨_, rfl⟩) hcompile

theorem deliverArtifact_fault {e : Failure} (hmode : config.mode = .artifact)
    (h : c.deliverArtifact config text m = (.error e, m')) : DeliveryFault c config text e := by
  have hother : config.mode ≠ .embed := by simp [hmode]
  rcases Act.withScratchDirectory_error h with ⟨error, hmake, rfl⟩ | ⟨n, after, hwork⟩
  · exact .scratchDirectory (by simp [hmode]) hmake
  · rcases Act.bind_error hwork with hcompile | ⟨_, _, -, hrest⟩
    · exact compileWithGenerated_error (.inr ⟨hmode, _, rfl⟩) hcompile
    · rcases Act.bind_error hrest with hparent | ⟨_, _, -, hrest⟩
      · obtain ⟨error, hfault, rfl, -⟩ := Act.attempt_error hparent
        exact .output hother (.inl hfault)
      · rcases Act.bind_error hrest with hcopy | ⟨_, _, -, hannounce⟩
        · obtain ⟨error, hfault, rfl, -⟩ := Act.onDisk_error hcopy
          exact .output hother (.inr (.inr ⟨_, hfault⟩))
        · cases hannounce

theorem deliverSource_fault {e : Failure} (hmode : config.mode = .source)
    (h : deliverSource config text m = (.error e, m')) : DeliveryFault c config text e := by
  have hother : config.mode ≠ .embed := by simp [hmode]
  rcases Act.bind_error h with hparent | ⟨_, _, -, hrest⟩
  · obtain ⟨error, hfault, rfl, -⟩ := Act.attempt_error hparent
    exact .output hother (.inl hfault)
  · rcases Act.bind_error hrest with hwrite | ⟨_, _, -, hannounce⟩
    · obtain ⟨error, hfault, rfl, -⟩ := Act.onDisk_error hwrite
      exact .output hother (.inr (.inl hfault))
    · cases hannounce

theorem deliver_error {e : Failure} (h : c.deliver config text scratch m = (.error e, m')) :
    DeliveryFault c config text e := by
  unfold deliver at h
  cases hmode : config.mode with
  | embed =>
      rw [hmode] at h
      rcases Act.bind_error h with hmodule | ⟨_, _, -, hpure⟩
      · exact compileWithGenerated_error (.inl ⟨hmode, rfl⟩) hmodule
      · cases hpure
  | artifact =>
      rw [hmode] at h
      rcases Act.bind_error h with hartifact | ⟨_, _, -, hpure⟩
      · exact deliverArtifact_fault hmode hartifact
      · cases hpure
  | source =>
      rw [hmode] at h
      rcases Act.bind_error h with hsource | ⟨_, _, -, hpure⟩
      · exact deliverSource_fault hmode hsource
      · cases hpure

end Compiler

end Expansion
