import Expansion.Proofs.DriverProgram.Backend
import Expansion.Proofs.Workbench.Traces

/-!
# The traces of a driver program

A driver program is run in scratch directories and on scratch files. If it writes the artifact that
it is asked for and nothing else (`WritesOut`), its backend is tidy (`WritesOut.tidy`), so all of
them are gone when an operation of the workbench returns.

* **`WritesOut.traces`**: whatever the outcomes are, generating and surveying leave nothing, a build
  leaves its output, and later calls of what they hand out leave nothing either. A build in `artifact`
  mode is left out where the scratch file of its artifact does not stay in its directory
  (`Compiler.StaysInside`).
-/

namespace Expansion.DriverProgram

open Disk Compiler Workbench

variable {p : DriverProgram} {c : Compiler} {w : Workbench} {config : Configuration} {m : Machine}
variable {after : Machine} {out : FilePath} {request : CompileRequest} {arguments : List String}
variable {image : ByteArray} {output : CompileOutput} {module : Module}
variable {written : Location → Prop}

/-- A program that writes the artifact of a compilation and nothing else. -/
structure WritesOut (p : DriverProgram) : Prop where
  compile : ∀ out request d, d.IsTree → Confined (d.Within out) d
    (p.runner p.program (p.arguments ++ compileArguments out request) d).2
  invoke : ∀ artifact function typeName d, d.IsTree → Confined nowhere d
    (p.runner p.program (p.arguments ++ invokeArguments artifact function typeName) d).2

/-! ## Runs -/

/-- A program that is not started does nothing. -/
theorem run_confined
    (h : Confined written m.disk (p.runner p.program (p.arguments ++ arguments) m.disk).2) :
    Confined written m.disk (p.run arguments m).2.disk := by
  unfold run
  dsimp only
  split
  · exact .refl _ _
  · split
    · rename_i printed d hrun
      rwa [hrun] at h
    · rename_i e d hrun
      rwa [hrun] at h

theorem accept_disk (p : DriverProgram) (out : FilePath) (report : Report) (m : Machine) :
    (p.accept out report m).2.disk = m.disk := by
  have hread : (readImage out m).2 = m := by
    unfold readImage
    rw [Act.bind_of_ok (Act.disk_apply m)]
    cases m.disk.readBytes out <;> rfl
  unfold accept
  cases report.catalog with
  | none => rfl
  | some catalog =>
      dsimp only
      cases report.diagnostics.any Diagnostic.isError with
      | true => rfl
      | false =>
          rw [if_neg Bool.false_ne_true, Act.bind_pure_apply, hread]

theorem compileTo_confined (hp : p.WritesOut) (htree : m.disk.IsTree) (out : FilePath)
    (request : CompileRequest) :
    Confined (m.disk.Within out) m.disk (p.compileTo out request m).2.disk := by
  have hran := run_confined (hp.compile out request m.disk htree)
  unfold compileTo
  rw [Act.bind_apply]
  cases hdone : p.run (compileArguments out request) m with
  | mk result between =>
      rw [hdone] at hran
      cases result with
      | error failure => exact hran
      | ok printed =>
          dsimp only
          cases interpret printed with
          | ok report =>
              dsimp only
              rw [accept_disk]
              exact hran
          | error breach => exact hran

/-- A call stages the image, and the staged file is gone when the call returns. -/
theorem entry_traceless (hp : p.WritesOut) (image : ByteArray) (f : FunctionInfo)
    (values : List Value) : Act.Traceless (p.entry image f values) := by
  intro m htree
  unfold entry
  split
  · rename_i type
    have hcall : Confined nowhere m.disk (p.call image f.fullName type.fullName m).2.disk := by
      refine Act.withScratchFile_confined (c := 't') rfl (by decide) (by decide) htree ?_
      intro n hn
      exact run_confined (hp.invoke _ _ _ _ hn)
    cases hdone : p.call image f.fullName type.fullName m with
    | mk answer after =>
        rw [hdone] at hcall
        cases answer <;> exact hcall
  · exact .refl _ _

/-! ## The backend -/

theorem WritesOut.tidy (hp : p.WritesOut) : p.backend.Tidy where
  memory := by
    intro request htarget m htree
    unfold backend
    rw [htarget]
    have hstem : Act.PlainStem "typexpand-module-" :=
      Act.plainStem_of_head rfl (by decide) (by decide)
    refine Act.withScratchDirectory_confined htree hstem ?_
    intro n place hopened
    obtain ⟨piece, rest, hname, hplain⟩ : ∃ piece rest,
        piecesOf ("module." ++ p.artifactExtension) = piece :: rest ∧ IsPlain piece := by
      refine exists_plain_of_head (c := 'm') ?_ (by decide) (by decide)
      rw [String.toList_append]
      rfl
    have hmade : Confined (place ++ [piece] <+: ·) n.disk (p.compileTo
        ((m.disk.freshScratch "typexpand-module-" "").child ("module." ++ p.artifactExtension))
        request n).2.disk := by
      refine (compileTo_confined hp (hopened.keeps.tree htree) _ request).weaken ?_
      intro q hq
      exact hq.of_child hname hplain hopened.inside (hopened.empty piece)
    refine ⟨⟨nowhere, hmade.keeps fun q hq => hopened.below_free htree hq⟩, hmade.weaken ?_⟩
    intro q hq
    exact .inr ((List.prefix_append place [piece]).trans hq)
  file := by
    intro request q m htarget htree
    unfold backend
    rw [htarget]
    dsimp only
    rw [Act.bind_pure_apply]
    exact compileTo_confined hp htree q request
  calls := by
    intro request m output after module hanswer hmodule f hf values
    obtain ⟨catalog, image, hload⟩ := isModule_of_backend hanswer hmodule
    rw [hload.functions] at hf
    obtain ⟨info, -, rfl⟩ := List.mem_map.mp hf
    exact entry_traceless hp image info values

/-! ## The workbench -/

/-- **Nothing that is staged is left behind.** Take a workbench with a driver program that writes the
artifact that it is asked for and nothing else. Whatever the outcome, generating and surveying leave
every place of the disk as it was, and a build leaves all of them but the place of its output path
and directories above it that were not there, and those only if its mode has an output. Later calls
of surveyed expanders and of the modules that were built leave no trace either. A build in `artifact`
mode to an output with a stem of one dot, such as `..lib`, is left out if the compiler's extension of
artifacts begins with a slash or is empty: that is what `StaysInside` comes to. -/
theorem WritesOut.traces (hp : p.WritesOut) (hbackend : c.backend = p.backend)
    (hworked : Worked c w) (config : Configuration) (m : Machine) (htree : m.disk.IsTree) :
    Confined nowhere m.disk (w.generate config m).2.disk ∧
    Confined nowhere m.disk (w.survey config m).2.disk ∧
    ((config.mode = .artifact → StaysInside c.kinds config.output) →
      Delivered config m.disk (w.build config m).2.disk) ∧
    (∀ s after, w.survey config m = (.ok s, after) →
      ∀ e ∈ s.expanders, ∀ type, Act.Traceless (e.call type)) ∧
    (∀ kept, (w.build config m).1.1 = .ok kept →
      ∀ module ∈ kept.result.modules, ∀ f ∈ module.functions, ∀ values,
        Act.Traceless (f.2 values)) := by
  have hc : c.backend.Tidy := hbackend ▸ hp.tidy
  have hw : w.compiler.backend.Tidy := by
    rw [hworked.compiler]
    exact hc
  refine ⟨?_, ?_, ?_, ?_, ?_⟩
  · exact Act.traceless_compositional.generate hw.behaves config m htree
  · have hsources := Act.traceless_compositional.surveySources hw.behaves config m htree
    unfold Workbench.survey
    rw [Act.bind_pure_apply]
    exact hsources
  · intro hinside
    exact build_delivered hw (hworked.compiler ▸ hinside) htree
  · intro s after hsurvey
    exact survey_calls Act.traceless_compositional hw.behaves hsurvey
  · intro kept hbuild
    exact hworked.build_calls hc.behaves hbuild

/-- The compiler of outlines writes its artifact and nothing else. -/
theorem outlineProgram_writesOut : outlineProgram.WritesOut where
  compile := by
    intro out request d _
    show Confined (d.Within out) d (Outline.runProgram (compileArguments out request) d).2
    unfold Outline.runProgram
    rw [Outline.Command.parse_compileArguments]
    dsimp only
    split
    · exact .refl _ _
    · rename_i report left hcompile
      rcases Outline.compile_cases hcompile with ⟨-, -, rfl⟩ | ⟨-, -, hwrite⟩
      · exact .refl _ _
      · exact writeFile_within hwrite
  invoke := by
    intro artifact function typeName d _
    show Confined nowhere d
      (Outline.runProgram (invokeArguments artifact function typeName) d).2
    rw [(interpretCall_invoke d artifact function typeName).2]
    exact .refl _ _

/-- Generating from the outline of the sample leaves no scratch directory, and so does building it.
-/
theorem traces_of_sample :
    let w := ofCompiler sampleCompiler
    let config : Configuration := ⟨.ofPaths [⟨"/a"⟩], [], [], .artifact, ⟨"/new/o.lib"⟩⟩
    (w.generate config (.ofDisk sampleDisk)).2.disk.get? ["tmp", "typexpand-module-000000"] = none ∧
      Delivered config sampleDisk (w.build config (.ofDisk sampleDisk)).2.disk := by
  intro w config
  obtain ⟨hgenerate, -, hbuild, -⟩ := outlineProgram_writesOut.traces (c := sampleCompiler) rfl
    .fresh config (.ofDisk sampleDisk) sampleDisk_isTree
  exact ⟨hgenerate.get?_eq _, hbuild fun _ => staysInside_of_isArtifact (by decide +kernel)⟩

/-- A compiler of outlines whose artifacts have an extension that begins with a slash. -/
def slashedCompiler : Compiler := ⟨outlineProgram.backend, [], ⟨["src"], "/x", []⟩⟩

/-- A build can leave something in the scratch directory. An output `..lib` that was accepted for the
extension `lib` is staged as `../x` by a compiler whose extension is `/x`, where nothing takes it away.
And an output path may lead there by itself. -/
theorem traces_in_scratch_directory :
    outlineProgram.WritesOut ∧
      (Configuration.withOutput (.ofPaths []) .artifact ⟨"..lib"⟩ .standard =
          .ok (echoing [] .artifact ⟨"..lib"⟩) ∧
        sampleDisk.get? ["tmp", "x"] = none ∧
        ((ofCompiler slashedCompiler).build (echoing [] .artifact ⟨"..lib"⟩)
          (.ofDisk sampleDisk)).2.disk.get? ["tmp", "x"] ≠ none) ∧
      sampleDisk.get? ["tmp", "o.src"] = none ∧
      ((ofCompiler sampleCompiler).build (echoing [] .source ⟨"/tmp/o.src"⟩)
        (.ofDisk sampleDisk)).2.disk.get? ["tmp", "o.src"] ≠ none := by
  refine ⟨outlineProgram_writesOut, ⟨rfl, by decide, ?_⟩, by decide, ?_⟩
  · -- The scratch directory of the build goes away, but the artifact stands beside it.
    decide +kernel
  · decide +kernel

end Expansion.DriverProgram
