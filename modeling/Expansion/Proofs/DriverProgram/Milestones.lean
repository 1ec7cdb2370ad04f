import Expansion.Proofs.DriverProgram.Traces
import Expansion.Proofs.Workbench.Milestones

/-!
# Driver programs log no standard events

A program can change the disk and print, but it has no way to the log, and what its backend does
around it is no standard event. So **every driver program's backend is `Unmarked`**
(`backend_unmarked`), whatever the program does, and the log of a build with it has the standard
events of `Workbench.milestones_of_build` and no others.
-/

namespace Expansion.DriverProgram

variable (p : DriverProgram)

theorem run_unmarked (arguments : List String) : Act.Unmarked (p.run arguments) := by
  intro m
  unfold run
  dsimp only
  split
  · rfl
  · split <;> rfl

theorem accept_unmarked (out : FilePath) (report : Report) :
    Act.Unmarked (p.accept out report) := by
  have hread : Act.Unmarked (readImage out) := by
    refine Act.unmarked_stepwise.bind Act.disk_unmarked ?_
    intro d _ _ _
    cases d.readBytes out with
    | ok image => exact Act.unmarked_stepwise.ok _
    | error e => exact Act.unmarked_stepwise.fail _
  unfold accept
  cases report.catalog with
  | none => exact Act.unmarked_stepwise.ok _
  | some catalog =>
      dsimp only
      split
      · exact Act.unmarked_stepwise.ok _
      · exact Act.unmarked_stepwise.bind hread fun _ _ _ _ => Act.unmarked_stepwise.ok _

theorem compileTo_unmarked (out : FilePath) (request : CompileRequest) :
    Act.Unmarked (p.compileTo out request) := by
  refine Act.unmarked_stepwise.bind (p.run_unmarked _) ?_
  intro output _ _ _
  cases interpret output with
  | ok report => exact p.accept_unmarked out report
  | error breach => exact Act.unmarked_stepwise.fail _

theorem entry_unmarked (image : ByteArray) (f : FunctionInfo) (values : List Value) :
    Act.Unmarked (p.entry image f values) := by
  intro m
  unfold entry
  split
  · rename_i type
    have hcall : Act.Unmarked (p.call image f.fullName type.fullName) :=
      Act.announces_nil_iff.mp
        (Act.Announces.withScratchFile (fun _ => Act.announces_nil_iff.mpr (p.run_unmarked _)) _ _ _)
    have hlogged := hcall m
    cases hdone : p.call image f.fullName type.fullName m with
    | mk answer after =>
        rw [hdone] at hlogged
        cases answer <;> exact hlogged
  · rfl

/-- The standard events of a build are never those of the program. -/
theorem backend_unmarked : p.backend.Unmarked where
  answers := by
    intro request
    unfold backend
    cases request.target with
    | memory =>
        exact Act.announces_nil_iff.mp (Act.Announces.withScratchDirectory
          (fun _ => Act.announces_nil_iff.mpr (p.compileTo_unmarked _ request)) _)
    | file q =>
        exact Act.unmarked_stepwise.bind (p.compileTo_unmarked q request) fun _ _ _ _ =>
          Act.unmarked_stepwise.ok _
  calls := by
    intro request m output after module hanswer hmodule f hf values
    obtain ⟨catalog, image, hload⟩ := isModule_of_backend hanswer hmodule
    rw [hload.functions] at hf
    obtain ⟨info, -, rfl⟩ := List.mem_map.mp hf
    exact p.entry_unmarked image info values

end Expansion.DriverProgram
