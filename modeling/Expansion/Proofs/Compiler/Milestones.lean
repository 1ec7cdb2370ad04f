import Expansion.Proofs.Compiler.Compile
import Expansion.Proofs.Compiler.Delivery
import Expansion.Proofs.Machine.Milestones

/-!
# The standard events of a delivery

A compilation is no standard event, and neither are the scratch files that it needs. **A delivery
that writes to the output path logs that it did, and only if it succeeds** (`deliver_announces`): the
copy and the write are the last of its steps that can fail.

What a backend does is not part of this, so a backend is `Unmarked` in this file: it may log details,
but the standard events are not its own.
-/

namespace Expansion

/-- A backend that logs no standard event, and neither do the functions of the modules it answers.
-/
structure Backend.Unmarked (b : Backend) : Prop where
  answers : ∀ request, Act.Unmarked (b request)
  calls : ∀ request m output after module, b request m = (.ok output, after) →
    output.module? = some module → ∀ f ∈ module.functions, ∀ values, Act.Unmarked (f.2 values)

theorem Backend.Unmarked.behaves {b : Backend} (h : b.Unmarked) : b.Behaves Act.Unmarked where
  answers := fun request _ => h.answers request
  calls := h.calls

theorem echo_unmarked : echoBackend.Unmarked where
  answers := fun _ => Act.unmarked_stepwise.ok _
  calls := fun _ _ _ _ _ hanswer hmodule => echo_calls Act.unmarked_stepwise hanswer hmodule

namespace Compiler

variable {c : Compiler} {config : Configuration}

/-! ## Compilations -/

theorem compile_unmarked (hb : c.backend.Unmarked) (sources references : List FilePath)
    (flags : List String) (target : CompileTarget) :
    Act.Unmarked (c.compile sources references flags target) := by
  intro m
  have hsettled : Act.Unmarked (c.backend (c.requestOf sources references flags target) >>=
      settle target : Act Module) :=
    Act.unmarked_stepwise.bind (hb.answers _) fun output _ _ _ =>
      Act.unmarked_stepwise.settle (fun _ => Act.disk_unmarked) output
  rw [compile_apply, hsettled]
  exact (Machine.milestones_log _ _ _ _ _ _).trans (List.append_nil _)

theorem compileWithGenerated_unmarked (hb : c.backend.Unmarked) (sources : List FilePath)
    (text : String) (references : List FilePath) (flags : List String) (target : CompileTarget) :
    Act.Unmarked (c.compileWithGenerated sources text references flags target) := by
  unfold compileWithGenerated
  split
  · exact compile_unmarked hb sources references flags target
  · rw [← Act.announces_nil_iff]
    refine Act.Announces.withScratchDirectory (fun directory => ?_) _
    refine Act.Announces.bind (Act.onDisk_unmarked _ _) ?_
    intro _
    exact Act.announces_nil_iff.mpr (compile_unmarked hb _ references flags target)

/-! ## Deliveries -/

/-- What is copied or written is announced. -/
theorem put_announces (write : Disk → Except Disk.Error Disk) (message : String)
    (output : FilePath) (more : Log.Fields) :
    Act.Announces [.outputWritten] ((do
      Act.attempt none fun d => d.attemptParent output
      Act.onDisk none write
      announceOutput message output more) : Act Unit) := by
  refine Act.Announces.bind (Act.attempt_unmarked _ _) ?_
  intro _
  refine Act.Announces.bind (Act.onDisk_unmarked _ _) ?_
  intro _
  exact Act.announces_milestone _ _ _ _ _

theorem deliverArtifact_announces (hb : c.backend.Unmarked) (config : Configuration)
    (text : String) : Act.Announces [.outputWritten] (c.deliverArtifact config text) := by
  refine Act.Announces.withScratchDirectory (fun directory => ?_) _
  refine Act.Announces.bind (compileWithGenerated_unmarked hb _ _ _ _ _) ?_
  intro _
  exact put_announces _ _ _ _

/-- The standard events of a delivery that succeeds: the output path is written in all modes but
`embed`. -/
def deliveryEvents : OutputMode → List Log.Milestone
  | .embed => []
  | .artifact => [.outputWritten]
  | .source => [.outputWritten]

/-- A delivery that fails logs no standard event. -/
theorem deliver_announces (hb : c.backend.Unmarked) (config : Configuration) (text : String)
    (scratch : Module) :
    Act.Announces (deliveryEvents config.mode) (c.deliver config text scratch) := by
  unfold deliver
  cases config.mode with
  | embed =>
      refine Act.Announces.map (Act.announces_nil_iff.mpr ?_) _
      exact compileWithGenerated_unmarked hb _ _ _ _ _
  | artifact => exact (deliverArtifact_announces hb config text).map _
  | source => exact (put_announces _ _ _ _).map _

end Compiler

end Expansion
