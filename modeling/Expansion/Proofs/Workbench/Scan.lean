import Expansion.Proofs.Compiler.Compile
import Expansion.Proofs.Survey.Calls
import Expansion.Proofs.Workbench.Steps

/-!
# Surveying and expanding

The part of a build that `generate` has too: the sources compile, the module is surveyed, and its
expanders run. It does to the machine what the backend does and nothing else, so it has every
property that the backend behaves by.

* `surveySources_ok`: what is surveyed is the module that compiled.
* **`Act.Compositional.generate`**: a text is generated as the backend behaves.
-/

namespace Expansion

namespace Workbench

variable {c : Compiler} {config : Configuration} {m m' : Machine}

/-- The survey of the sources is that of the module that they compile to. -/
theorem surveySources_ok {scratch : Module} {s : Survey Machine}
    (h : surveySources c config m = (.ok (scratch, s), m')) :
    s = Survey.ofModule scratch ∧ ∃ between after,
      c.compile config.sources.paths config.references config.flags .memory between =
        (.ok scratch, after) := by
  obtain ⟨d, between, -, h⟩ := Act.bind_ok h
  cases hmissing : config.sources.missing d with
  | cons p others =>
      rw [hmissing] at h
      exact absurd (congrArg Prod.fst h) (by simp)
  | nil =>
      rw [hmissing] at h
      obtain ⟨compiled, after, hcompile, h⟩ := Act.bind_ok h
      obtain ⟨surveyed, _, hsurvey, hpair⟩ := Act.bind_ok h
      cases hpair
      obtain ⟨_, _, -, hsurvey⟩ := Act.bind_ok hsurvey
      obtain ⟨_, _, -, hsurvey⟩ := Act.bind_ok hsurvey
      cases hsurvey
      exact ⟨rfl, between, after, hcompile⟩

/-- Nothing is surveyed while sources are missing. -/
theorem missing_of_surveySources {found : Module × Survey Machine}
    (h : surveySources c config m = (.ok found, m')) : config.sources.missing m.disk = [] := by
  obtain ⟨d, between, hdisk, h⟩ := Act.bind_ok h
  cases hdisk
  cases hmissing : config.sources.missing m.disk with
  | nil => rfl
  | cons p others =>
      rw [hmissing] at h
      exact absurd (congrArg Prod.fst h) (by simp)

/-- The functions of the module that is surveyed behave as those that the backend answers. -/
theorem surveySources_calls {Q : ∀ {α : Type}, StateM Machine α → Prop}
    (hb : c.backend.Behaves Q) {scratch : Module} {s : Survey Machine}
    (h : surveySources c config m = (.ok (scratch, s), m')) :
    ∀ f ∈ scratch.functions, ∀ values, Q (f.2 values) := by
  obtain ⟨-, between, after, hcompile⟩ := surveySources_ok h
  exact Compiler.compile_calls hb hcompile

/-- What becomes of the outcome of an expansion: a fault is logged and fails. -/
def judge : Except ExpansionFault (List String) → Act (List String)
  | .ok fragments => fun after => (.ok fragments, after)
  | .error fault => fun after =>
    (.error (.expansion fault.expander fault.typeName fault.message),
      after.log .error .expansion "expander faulted"
        [("expander", .text fault.expander), ("type_name", .text fault.typeName),
          ("error", .text fault.message)]
        (some .expanderFailed))

theorem expand_eq (s : Survey Machine) :
    expand s = (Bind.bind (m := StateM Machine) s.expand judge : Act (List String)) := by
  funext m
  show expand s m = judge (s.expand m).1 (s.expand m).2
  unfold expand
  cases s.expand m with
  | mk outcome after => cases outcome <;> rfl

end Workbench

namespace Act

variable {Q : ∀ {α : Type}, StateM Machine α → Prop} {c : Compiler} {w : Workbench}

theorem Stepwise.surveyModule (hQ : Stepwise Q) (module : Module) :
    Q (Workbench.surveyModule module) := by
  refine hQ.bind (hQ.forM fun _ _ => hQ.debug _ _ _) ?_
  intro _ _ _ _
  refine hQ.bind (hQ.debug _ _ _) ?_
  intro _ _ _ _
  exact hQ.ok _

theorem Stepwise.surveySources (hQ : Stepwise Q) (hdisk : Q Act.disk) {config : Configuration}
    (hcompile : Q (c.compile config.sources.paths config.references config.flags .memory)) :
    Q (Workbench.surveySources c config) := by
  refine hQ.bind hdisk ?_
  intro d _ _ _
  cases config.sources.missing d with
  | cons p others => exact hQ.fail _
  | nil =>
      refine hQ.bind hcompile ?_
      intro scratch _ _ _
      refine hQ.bind (hQ.surveyModule scratch) ?_
      intro _ _ _ _
      exact hQ.ok _

theorem Compositional.surveySources (hQ : Compositional Q) (hb : c.backend.Behaves Q)
    (config : Configuration) : Q (Workbench.surveySources c config) :=
  hQ.routine.surveySources hQ.routine.disk (hQ.compile (hb.answers _ rfl))

/-- An expansion has what the functions of the surveyed module have. -/
theorem Sequential.expand (hQ : Sequential Q) {module : Module}
    (hcalls : ∀ f ∈ module.functions, ∀ values, Q (f.2 values)) :
    Q (Workbench.expand (Survey.ofModule module)) := by
  rw [Workbench.expand_eq]
  refine hQ.seq (hQ.fragments hcalls) ?_
  intro outcome _ _ _
  cases outcome with
  | ok fragments => exact hQ.ok fragments
  | error fault => exact hQ.log _ _ _ _ _ _

/-- A text is generated as the backend behaves. -/
theorem Compositional.generate (hQ : Compositional Q) (hb : w.compiler.backend.Behaves Q)
    (config : Configuration) : Q (w.generate config) := by
  refine hQ.routine.bind (hQ.surveySources hb config) ?_
  rintro ⟨scratch, s⟩ m after hsurvey
  obtain ⟨rfl, -⟩ := Workbench.surveySources_ok hsurvey
  refine hQ.routine.bind (hQ.routine.expand (Workbench.surveySources_calls hb hsurvey)) ?_
  intro _ _ _ _
  exact hQ.routine.ok _

end Act

end Expansion
