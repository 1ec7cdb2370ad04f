import Expansion.Proofs.Compiler.Delivery
import Expansion.Proofs.Compiler.Compile
import Expansion.Proofs.Machine.Lockstep
import Mathlib.Data.List.Forall2

/-!
# Compilers that only differ in warnings

Two backends may say different things about the sources, as long as none of it is an error. A
compiler forgets warnings, so nothing behind it can tell which of the two it stands in front of.

* **`Backend.SameButWarnings`** relates the two: the same request is answered with the same errors
  in the same order and with modules that are alike, or with failures that count as the same.
* **A compilation makes modules that are alike** (`Act.Lockstep.compile`), and so does a delivery
  (`Act.Lockstep.deliver`), which also leaves the same files.

Which failures of the backend itself count as the same is open (`F`), as long as each failure counts
as the same as itself. With equality for `F` everything here is about equal failures.
-/

namespace Expansion

/-- One function, with entry points that do the same. -/
def SameFunction (f g : FunctionInfo × Entry Machine) : Prop :=
  f.1 = g.1 ∧ ∀ values, Act.Lockstep Eq (f.2 values) (g.2 values)

/-- Modules with the same declarations and bytes, whose functions do the same. -/
structure CompiledModule.Alike (m n : Module) : Prop where
  name : m.name = n.name
  types : m.types = n.types
  functions : List.Forall₂ SameFunction m.functions n.functions
  image : m.image = n.image
  location : m.location = n.location

/-- Answers with the same errors and with modules that are alike. The warnings may be any, and may
stand anywhere among the errors. -/
structure CompileOutput.Alike (a b : CompileOutput) : Prop where
  errors : a.diagnostics.filter Diagnostic.isError = b.diagnostics.filter Diagnostic.isError
  modules : Option.Rel CompiledModule.Alike a.module? b.module?

/-- Backends that answer every request alike and leave the same disk. -/
def Backend.SameButWarnings (F : Failure → Failure → Prop) (b b' : Backend) : Prop :=
  ∀ request, Act.Lockstep (Outcomes F CompileOutput.Alike) (b request) (b' request)

/-- Results with the same text and with modules that are alike. -/
structure BuildResult.Alike (r r' : BuildResult) : Prop where
  finals : Option.Rel CompiledModule.Alike r.final? r'.final?
  scratches : r.scratch.Alike r'.scratch
  generated : r.generated = r'.generated

theorem CompiledModule.Alike.locatedAt {m n : Module} (h : m.Alike n) (p : FilePath) :
    (m.locatedAt p).Alike (n.locatedAt p) :=
  { h with location := rfl }

namespace Act.Lockstep

variable {F : Failure → Failure → Prop} {b b' : Backend} {baseline : List FilePath}
variable {kinds : FileKinds} {config : Configuration} {text : String} {scratch scratch' : Module}

/-! ## One compilation -/

/-- Warnings are logged and nothing else. -/
theorem forM_discard (warnings : List Diagnostic) (m : Machine) :
    ∃ after, (warnings.forM Compiler.discard : Act PUnit) m = (.ok (), after) ∧ m.Alike after := by
  induction warnings generalizing m with
  | nil => exact ⟨m, rfl, .refl m⟩
  | cons warning rest ih =>
      have hfirst : Compiler.discard warning m = (.ok (), m.log .debug .compiler
        "discarding compiler warning" [("diagnostic", .text warning.describe)] none) := rfl
      obtain ⟨after, hrest, hafter⟩ := ih (m.log .debug .compiler
        "discarding compiler warning" [("diagnostic", .text warning.describe)] none)
      exact ⟨after, (bind_of_ok hfirst).trans hrest, (Machine.Alike.discard m _).trans hafter⟩

/-- Any warnings may be forgotten on the one side, and any others on the other. -/
theorem discards (warnings warnings' : List Diagnostic) :
    Lockstep (Outcomes F Eq) (warnings.forM Compiler.discard : Act PUnit)
      (warnings'.forM Compiler.discard : Act PUnit) := by
  intro m n hmn
  obtain ⟨after, hleft, hafter⟩ := forM_discard warnings m
  obtain ⟨after', hright, hafter'⟩ := forM_discard warnings' n
  rw [hleft, hright]
  exact ⟨.ok rfl, hafter.symm.trans (hmn.trans hafter')⟩

theorem accept (hF : ∀ e, F e e) (target : CompileTarget) {module? module'? : Option Module}
    (h : Option.Rel CompiledModule.Alike module? module'?) :
    Lockstep (Outcomes F CompiledModule.Alike) (Compiler.accept target module?)
      (Compiler.accept target module'?) := by
  unfold Compiler.accept
  cases h with
  | none => exact fail (hF _)
  | some hmodule =>
      cases target with
      | memory => exact ok hmodule
      | file p =>
          refine bind disk ?_
          rintro d _ rfl
          split
          · -- Both know where they are, or neither does.
            rw [hmodule.location]
            split
            · exact ok hmodule
            · exact ok (hmodule.locatedAt p)
          · exact fail (hF _)

/-- What the errors decide is decided alike. -/
theorem settle (hF : ∀ e, F e e) (target : CompileTarget) {output output' : CompileOutput}
    (h : output.Alike output') :
    Lockstep (Outcomes F CompiledModule.Alike) (Compiler.settle target output)
      (Compiler.settle target output') := by
  unfold Compiler.settle
  refine bind (discards _ _) ?_
  intro _ _ _
  rw [h.errors]
  split
  · exact accept hF target h.modules
  · exact fail (hF _)

theorem compile (hF : ∀ e, F e e) (hb : b.SameButWarnings F b') (sources references : List FilePath)
    (flags : List String) (target : CompileTarget) :
    Lockstep (Outcomes F CompiledModule.Alike)
      (Compiler.compile ⟨b, baseline, kinds⟩ sources references flags target)
      (Compiler.compile ⟨b', baseline, kinds⟩ sources references flags target) := by
  refine bind (debug _ _ _) ?_
  intro _ _ _
  refine bind (modify fun _ _ hmn => hmn.record _) ?_
  intro _ _ _
  exact bind (hb _) fun _ _ h => settle hF target h

theorem compileWithGenerated (hF : ∀ e, F e e) (hb : b.SameButWarnings F b')
    (sources : List FilePath) (text : String) (references : List FilePath) (flags : List String)
    (target : CompileTarget) :
    Lockstep (Outcomes F CompiledModule.Alike)
      (Compiler.compileWithGenerated ⟨b, baseline, kinds⟩ sources text references flags target)
      (Compiler.compileWithGenerated ⟨b', baseline, kinds⟩ sources text references flags
        target) := by
  unfold Compiler.compileWithGenerated
  split
  · exact compile hF hb _ _ _ _
  · refine withScratchDirectory hF _ ?_
    intro directory
    refine bind (onDisk hF _ _) ?_
    intro _ _ _
    exact compile hF hb _ _ _ _

/-! ## A delivery -/

theorem deliverArtifact (hF : ∀ e, F e e) (hb : b.SameButWarnings F b') :
    Lockstep (Outcomes F Eq) (Compiler.deliverArtifact ⟨b, baseline, kinds⟩ config text)
      (Compiler.deliverArtifact ⟨b', baseline, kinds⟩ config text) := by
  refine withScratchDirectory hF _ ?_
  intro directory
  refine bind (compileWithGenerated hF hb _ _ _ _ _) ?_
  intro _ _ _
  refine bind (attempt hF _ _) ?_
  intro _ _ _
  refine bind (onDisk hF _ _) ?_
  intro _ _ _
  exact milestone _ _ _ _ _

theorem deliverSource (hF : ∀ e, F e e) :
    Lockstep (Outcomes F Eq) (Compiler.deliverSource config text)
      (Compiler.deliverSource config text) := by
  refine bind (attempt hF _ _) ?_
  intro _ _ _
  refine bind (onDisk hF _ _) ?_
  intro _ _ _
  exact milestone _ _ _ _ _

/-- In every mode the results are alike. -/
theorem deliver (hF : ∀ e, F e e) (hb : b.SameButWarnings F b') (hscratch : scratch.Alike scratch') :
    Lockstep (Outcomes F BuildResult.Alike)
      (Compiler.deliver ⟨b, baseline, kinds⟩ config text scratch)
      (Compiler.deliver ⟨b', baseline, kinds⟩ config text scratch') := by
  unfold Compiler.deliver
  cases config.mode with
  | embed =>
      refine bind (compileWithGenerated hF hb _ _ _ _ _) ?_
      intro final final' hfinal
      exact ok ⟨.some hfinal, hscratch, rfl⟩
  | artifact =>
      refine bind (deliverArtifact hF hb) ?_
      intro _ _ _
      exact ok ⟨.none, hscratch, rfl⟩
  | source =>
      refine bind (deliverSource hF) ?_
      intro _ _ _
      exact ok ⟨.none, hscratch, rfl⟩

end Act.Lockstep

end Expansion
