import Expansion.Compiler.Basic
import Expansion.Proofs.Machine.Compositional

/-!
# One compilation

A compilation sends one request and then judges the answer, and only the backend can change the disk
(`compile_disk`). So what is assumed of a backend carries over to compilations:

* **`Backend.Behaves Q`** says that the answers to requests in memory, and the calls of the entry
  points that come with an answer, have the property `Q`.
* **A module that compiles is one that the backend answered**, with the same entry points
  (`compile_ok`).

`echoBackend` is a backend to try things with, and `Workbench.scratchDisk` a disk to try them on.
-/

namespace Expansion

/-- A backend whose answers in memory, and the functions of the modules it answers, have a property.
-/
structure Backend.Behaves (b : Backend) (Q : ∀ {α : Type}, StateM Machine α → Prop) : Prop where
  answers : ∀ request, request.target = .memory → Q (b request)
  calls : ∀ request m output after module, b request m = (.ok output, after) →
    output.module? = some module → ∀ f ∈ module.functions, ∀ values, Q (f.2 values)

/-! ## A backend that echoes -/

/-- A function that gives the flags of the request back for every type, and gives up without flags.
-/
def flagPrinter (request : CompileRequest) : FunctionInfo × Entry Machine :=
  (.generator "printFlags" [.expander "Flags" false], fun _ =>
    if request.flags.isEmpty then pure (.error ⟨"no flags"⟩)
    else pure (.ok (.string (Text.join " " request.flags))))

/-- A backend that answers every request with a module of one type and one function. -/
def echoBackend : Backend := fun request =>
  pure ⟨[], some
    { name := "echo"
      types := [⟨"Model", [.expandable [⟨"Flags", false⟩]]⟩]
      functions := [flagPrinter request]
      image := ByteArray.empty
      location := none }⟩

/-- A configuration without sources. -/
def echoing (flags : List String) (mode : OutputMode) (output : FilePath) : Configuration where
  sources := .ofPaths []
  references := []
  flags := flags
  mode := mode
  output := output

/-- A disk with an empty scratch directory. -/
def Workbench.scratchDisk : Disk := ⟨[(["tmp"], .directory)], [], ⟨"/tmp"⟩⟩

/-- A call of an echo's function only answers. -/
theorem echo_calls {Q : ∀ {α : Type}, StateM Machine α → Prop} (hQ : Act.Stepwise Q)
    {request : CompileRequest} {m after : Machine} {output : CompileOutput} {module : Module}
    (hanswer : echoBackend request m = (.ok output, after)) (hmodule : output.module? = some module) :
    ∀ f ∈ module.functions, ∀ values, Q (f.2 values) := by
  intro f hf values
  cases hanswer
  cases hmodule
  obtain rfl := List.mem_singleton.mp hf
  unfold flagPrinter
  dsimp only
  split <;> exact hQ.pure _

/-- The echo leaves the disk alone and does not look at the log. -/
theorem echo_behaves {Q : ∀ {α : Type}, StateM Machine α → Prop} (hQ : Act.Compositional Q) :
    echoBackend.Behaves Q where
  answers := fun _ _ => hQ.routine.ok _
  calls := fun _ _ _ _ _ hanswer hmodule => echo_calls hQ.routine.toStepwise hanswer hmodule

/-! ## Sending a request -/

namespace Compiler

variable {c : Compiler} {sources references : List FilePath} {flags : List String}
variable {target : CompileTarget} {m m' : Machine}

/-- The request of a compilation. -/
def requestOf (c : Compiler) (sources references : List FilePath) (flags : List String)
    (target : CompileTarget) : CompileRequest :=
  { sources, references := mergeReferences c.baseline references, flags, target }

/-- The machine that a backend is asked on. -/
def sent (request : CompileRequest) (m : Machine) : Machine :=
  (m.log .debug .compiler "invoking compiler"
    [("sources", .number request.sources.length), ("references", .number request.references.length),
      ("flags", .number request.flags.length)] none).record request

/-- What follows the backend's answer: warnings are logged, errors fail, and a module is judged. -/
def settle (target : CompileTarget) (output : CompileOutput) : Act Module := do
  (output.diagnostics.filter fun d => !d.isError).forM discard
  match output.diagnostics.filter Diagnostic.isError with
  | [] => accept target output.module?
  | errors => Act.fail (.compilation errors)

theorem compile_apply (c : Compiler) (sources references : List FilePath) (flags : List String)
    (target : CompileTarget) (m : Machine) :
    c.compile sources references flags target m =
      (c.backend (c.requestOf sources references flags target) >>= settle target)
        (sent (c.requestOf sources references flags target) m) := rfl

end Compiler

namespace Act

variable {Q : ∀ {α : Type}, StateM Machine α → Prop} {c : Compiler} {target : CompileTarget}

/-- Only a compilation to a file looks at the disk for its module. -/
theorem Stepwise.accept (hQ : Stepwise Q) (hdisk : target ≠ .memory → Q Act.disk)
    (module? : Option Module) : Q (Compiler.accept target module?) := by
  unfold Compiler.accept
  cases module? with
  | none => exact hQ.fail _
  | some module =>
      cases target with
      | memory => exact hQ.ok _
      | file p =>
          refine hQ.bind (hdisk (by simp)) ?_
          intro d m after _
          split
          · exact hQ.ok _
          · exact hQ.fail _

theorem Stepwise.settle (hQ : Stepwise Q) (hdisk : target ≠ .memory → Q Act.disk)
    (output : CompileOutput) : Q (Compiler.settle target output) := by
  refine hQ.bind (hQ.forM fun _ _ => hQ.debug _ _ _) ?_
  intro _ _ _ _
  split
  · exact hQ.accept hdisk output.module?
  · exact hQ.fail _

theorem Compositional.compile (hQ : Compositional Q) {sources references : List FilePath}
    {flags : List String} (hbackend : Q (c.backend (c.requestOf sources references flags target))) :
    Q (c.compile sources references flags target) := by
  refine hQ.routine.bind (hQ.routine.debug _ _ _) ?_
  intro _ _ _ _
  refine hQ.routine.bind (hQ.modify fun _ => rfl) ?_
  intro _ _ _ _
  exact hQ.routine.bind hbackend fun output _ _ _ =>
    hQ.routine.settle (fun _ => hQ.routine.disk) output

end Act

/-! ## What a compilation did -/

namespace Compiler

variable {c : Compiler} {sources references : List FilePath} {flags : List String}
variable {target : CompileTarget} {m m' : Machine}

theorem settle_disk (target : CompileTarget) (output : CompileOutput) (m : Machine) :
    (settle target output m).2.disk = m.disk :=
  have hroutine := (Act.preserves_compositional (· = m.disk)).routine
  hroutine.settle (fun _ => hroutine.disk) output m rfl

/-- Only the backend can change the disk. -/
theorem compile_disk (c : Compiler) (sources references : List FilePath) (flags : List String)
    (target : CompileTarget) (m : Machine) :
    (c.compile sources references flags target m).2.disk =
      (c.backend (c.requestOf sources references flags target)
        (sent (c.requestOf sources references flags target) m)).2.disk := by
  rw [compile_apply, Act.bind_apply]
  cases c.backend (c.requestOf sources references flags target) _ with
  | mk answer after =>
    cases answer with
    | error e => rfl
    | ok output => exact settle_disk target output after

/-- A module is accepted as it is, or with the place of its file. -/
theorem accept_ok {module? : Option Module} {module : Module}
    (h : accept target module? m = (.ok module, m')) :
    ∃ answered, module? = some answered ∧ module.functions = answered.functions := by
  unfold accept at h
  cases module? with
  | none => exact absurd (congrArg Prod.fst h) (by simp)
  | some answered =>
      refine ⟨answered, rfl, ?_⟩
      cases target with
      | memory =>
          cases h
          rfl
      | file p =>
          obtain ⟨d, between, -, h⟩ := Act.bind_ok h
          split at h
          · cases h
            split <;> rfl
          · exact absurd (congrArg Prod.fst h) (by simp)

/-- A module that compiles has the functions of a module that the backend answered. -/
theorem compile_ok {module : Module}
    (h : c.compile sources references flags target m = (.ok module, m')) :
    ∃ request n output after answered, c.backend request n = (.ok output, after) ∧
      output.module? = some answered ∧ module.functions = answered.functions := by
  rw [compile_apply] at h
  obtain ⟨output, after, hanswer, hsettle⟩ := Act.bind_ok h
  obtain ⟨_, between, -, hjudge⟩ := Act.bind_ok hsettle
  cases herrors : output.diagnostics.filter Diagnostic.isError with
  | nil =>
      rw [herrors] at hjudge
      obtain ⟨answered, hmodule, hfunctions⟩ := accept_ok hjudge
      exact ⟨_, _, output, after, answered, hanswer, hmodule, hfunctions⟩
  | cons first others =>
      rw [herrors] at hjudge
      exact absurd (congrArg Prod.fst hjudge) (by simp)

/-- The functions of a module that compiles behave as those that the backend answers. -/
theorem compile_calls {Q : ∀ {α : Type}, StateM Machine α → Prop} {module : Module}
    (hb : c.backend.Behaves Q)
    (h : c.compile sources references flags target m = (.ok module, m')) :
    ∀ f ∈ module.functions, ∀ values, Q (f.2 values) := by
  obtain ⟨request, n, output, after, answered, hanswer, hmodule, hfunctions⟩ := compile_ok h
  rw [hfunctions]
  exact hb.calls request n output after answered hanswer hmodule

theorem compileWithGenerated_calls {Q : ∀ {α : Type}, StateM Machine α → Prop} {module : Module}
    {text : String} (hb : c.backend.Behaves Q)
    (h : c.compileWithGenerated sources text references flags target m = (.ok module, m')) :
    ∀ f ∈ module.functions, ∀ values, Q (f.2 values) := by
  unfold compileWithGenerated at h
  split at h
  · exact compile_calls hb h
  · obtain ⟨made, after, -, hwork, -⟩ := Act.withScratchDirectory_ok h
    obtain ⟨_, written, -, hcompile⟩ := Act.bind_ok hwork
    exact compile_calls hb hcompile

end Compiler

end Expansion
