import Expansion.Proofs.Survey.Alike
import Expansion.Proofs.Workbench.Steps

/-!
# Workbenches that only differ in warnings

Two workbenches whose backends are the same but for warnings go through any calls side by side: each
call answers alike and leaves the two alike (`Workbench.answer_lockstep`), so a whole history does
(`Workbench.answers_lockstep`).

* Caches are alike if they have the same configurations, run numbers and counters in the same
  order, and results that are alike (`ResultCache.Alike`); then they answer the same configurations.
* Machines that are alike have the same disk, so the files that were written are the same.
-/

namespace Expansion

variable {F : Failure → Failure → Prop} {b b' : Backend} {baseline : List FilePath}
variable {kinds : FileKinds} {config : Configuration}

/-! ## Caches -/

/-- Results of builder runs with one number that are alike. -/
structure Kept.Alike (k k' : Kept BuildResult) : Prop where
  run : k.run = k'.run
  results : k.result.Alike k'.result

/-- Caches with the same counters that have results for the same configurations. -/
structure ResultCache.Alike (cache cache' : ResultCache BuildResult) : Prop where
  entries : List.Forall₂ (fun x y => x.1 = y.1 ∧ x.2.Alike y.2) cache.entries cache'.entries
  latestRequest : cache.latestRequest = cache'.latestRequest
  hits : cache.hits = cache'.hits
  misses : cache.misses = cache'.misses

namespace ResultCache.Alike

variable {cache cache' : ResultCache BuildResult} {r r' : BuildResult}

theorem empty : (ResultCache.empty : ResultCache BuildResult).Alike .empty :=
  ⟨.nil, rfl, rfl, rfl⟩

/-- They find the same. -/
theorem get? (h : cache.Alike cache') (config : Configuration) :
    Option.Rel Kept.Alike (cache.get? config) (cache'.get? config) := by
  unfold ResultCache.get?
  have hentries := h.entries
  generalize cache.entries = entries, cache'.entries = entries' at hentries
  induction hentries with
  | nil => exact .none
  | @cons x y rest rest' hxy _ ih =>
      obtain ⟨key, kept⟩ := x
      obtain ⟨key', kept'⟩ := y
      obtain ⟨rfl, halike⟩ : key = key' ∧ kept.Alike kept' := hxy
      rw [List.find?_cons, List.find?_cons]
      dsimp only
      cases key.same config with
      | true => exact .some halike
      | false => exact ih

theorem hit (h : cache.Alike cache') (config : Configuration) :
    (cache.hit config).Alike (cache'.hit config) where
  entries := h.entries
  latestRequest := rfl
  hits := congrArg (· + 1) h.hits
  misses := h.misses

theorem miss (h : cache.Alike cache') : cache.miss.Alike cache'.miss where
  entries := h.entries
  latestRequest := h.latestRequest
  hits := h.hits
  misses := congrArg (· + 1) h.misses

theorem keep (h : cache.Alike cache') (config : Configuration) (hr : r.Alike r') :
    (cache.keep config r).Alike (cache'.keep config r') where
  entries := List.rel_append h.entries (.cons ⟨rfl, h.misses, hr⟩ .nil)
  latestRequest := rfl
  hits := h.hits
  misses := h.misses

end ResultCache.Alike

/-! ## The work of a call -/

/-- The steps of a build in a row. -/
theorem Workbench.work_eq (c : Compiler) (config : Configuration) :
    work c config = (do
      Act.modify (announceStart config)
      let (scratch, s) ← surveySources c config
      let fragments ← expand s
      Act.modify (announceEmpty (Document.ofFragments fragments))
      let result ← c.deliver config (Document.ofFragments fragments) scratch
      Act.modify (announceFinish s result)
      pure result : Act BuildResult) := by
  funext m
  rw [work_apply, Act.bind_apply, Act.modify_apply]
  dsimp only
  rw [Act.bind_apply]
  cases surveySources c config (announceStart config m) with
  | mk found m₁ =>
    cases found with
    | error e => rfl
    | ok found =>
      obtain ⟨scratch, s⟩ := found
      dsimp only
      rw [Act.bind_apply]
      cases expand s m₁ with
      | mk answer m₂ =>
        cases answer with
        | error e => rfl
        | ok fragments =>
          dsimp only [conclude]
          rw [Act.bind_apply, Act.modify_apply]
          dsimp only
          rw [Act.bind_apply]
          cases c.deliver config (Document.ofFragments fragments) scratch _ with
          | mk made m₃ => cases made <;> rfl

namespace Act.Lockstep

theorem surveyModule {m n : Module} (h : m.Alike n) :
    Lockstep (Outcomes F Survey.Alike) (Workbench.surveyModule m) (Workbench.surveyModule n) := by
  have hsurvey := h.survey
  unfold Workbench.surveyModule
  rw [h.skipped]
  refine bind (forM (fun _ => debug _ _ _) _) ?_
  intro _ _ _
  dsimp only
  rw [h.name, hsurvey.types, hsurvey.expanders.length_eq]
  refine bind (debug _ _ _) ?_
  intro _ _ _
  exact ok hsurvey

theorem surveySources (hF : ∀ e, F e e) (hb : b.SameButWarnings F b') :
    Lockstep (Outcomes F fun x y => x.1.Alike y.1 ∧ x.2.Alike y.2)
      (Workbench.surveySources ⟨b, baseline, kinds⟩ config)
      (Workbench.surveySources ⟨b', baseline, kinds⟩ config) := by
  unfold Workbench.surveySources
  refine bind disk ?_
  rintro d _ rfl
  split
  · refine bind (compile hF hb _ _ _ _) ?_
    intro m n hmodules
    refine bind (surveyModule hmodules) ?_
    intro s t hsurveys
    exact ok ⟨hmodules, hsurveys⟩
  · exact fail (hF _)

theorem expand (hF : ∀ e, F e e) {s t : Survey Machine} (h : s.Alike t) :
    Lockstep (Outcomes F Eq) (Workbench.expand s) (Workbench.expand t) := by
  intro m n hmn
  obtain ⟨hanswer, hafter⟩ := fragments h m n hmn
  unfold Workbench.expand
  cases hm : s.expand m with
  | mk answer after =>
      cases hn : t.expand n with
      | mk answer' after' =>
          rw [hm, hn] at hanswer hafter
          obtain rfl : answer = answer' := hanswer
          cases answer with
          | ok texts => exact ⟨.ok rfl, hafter⟩
          | error fault => exact ⟨.error (hF _), hafter.log _ _ _ _ _⟩

theorem work (hF : ∀ e, F e e) (hb : b.SameButWarnings F b') :
    Lockstep (Outcomes F BuildResult.Alike) (Workbench.work ⟨b, baseline, kinds⟩ config)
      (Workbench.work ⟨b', baseline, kinds⟩ config) := by
  rw [Workbench.work_eq, Workbench.work_eq]
  refine bind (modify fun _ _ hmn => hmn.log _ _ _ _ _) ?_
  intro _ _ _
  refine bind (surveySources hF hb) ?_
  rintro ⟨scratch, s⟩ ⟨scratch', t⟩ ⟨hscratch, hsurvey⟩
  refine bind (expand hF hsurvey) ?_
  rintro fragments _ rfl
  refine bind (modify fun m n hmn => ?_) ?_
  · unfold Workbench.announceEmpty
    split
    · exact hmn.log _ _ _ _ _
    · exact hmn
  intro _ _ _
  refine bind (deliver hF hb hscratch) ?_
  intro r r' hr
  refine bind (modify fun m n hmn => ?_) fun _ _ _ => ok hr
  unfold Workbench.announceFinish
  rw [hsurvey.types, hsurvey.expanders.length_eq, hr.generated]
  exact hmn.log _ _ _ _ _

theorem run (hF : ∀ e, F e e) (hb : b.SameButWarnings F b') :
    Lockstep (Outcomes F BuildResult.Alike) (Workbench.run ⟨b, baseline, kinds⟩ config)
      (Workbench.run ⟨b', baseline, kinds⟩ config) :=
  within _ (work hF hb)

end Act.Lockstep

/-! ## Calls -/

/-- A call of one of the operations of a workbench. -/
inductive Call where
  | build (config : Configuration)
  | generate (config : Configuration)
  | survey (config : Configuration)

/-- What a call answers. -/
inductive Answer where
  | built (outcome : Except Failure (Kept BuildResult))
  | generated (outcome : Except Failure String)
  | surveyed (outcome : Except Failure (Survey Machine))

/-- Answers of calls of one operation, with outcomes that are alike. -/
inductive Answer.Alike (F : Failure → Failure → Prop) : Answer → Answer → Prop
  | built {x y} : Outcomes F Kept.Alike x y → Answer.Alike F (.built x) (.built y)
  | generated {x y} : Outcomes F Eq x y → Answer.Alike F (.generated x) (.generated y)
  | surveyed {x y} : Outcomes F Survey.Alike x y → Answer.Alike F (.surveyed x) (.surveyed y)

/-- Workbenches whose backends are the same but for warnings, with caches that are alike. -/
structure Workbench.Alike (F : Failure → Failure → Prop) (w w' : Workbench) : Prop where
  backends : w.compiler.backend.SameButWarnings F w'.compiler.backend
  baseline : w.compiler.baseline = w'.compiler.baseline
  kinds : w.compiler.kinds = w'.compiler.kinds
  caches : w.cache.Alike w'.cache

namespace Workbench

variable {w w' : Workbench}

/-- Answers a call. Only `build` changes the workbench. -/
def answer (w : Workbench) : Call → StateM Machine (Answer × Workbench)
  | .build config => do
    let (outcome, after) ← w.build config
    pure (.built outcome, after)
  | .generate config => do
    let outcome ← (w.generate config).run
    pure (.generated outcome, w)
  | .survey config => do
    let outcome ← (w.survey config).run
    pure (.surveyed outcome, w)

/-- Answers calls one after the other. -/
def answers (w : Workbench) : List Call → StateM Machine (List Answer × Workbench)
  | [] => pure ([], w)
  | call :: rest => do
    let (first, between) ← w.answer call
    let (others, after) ← between.answers rest
    pure (first :: others, after)

theorem run_lockstep (hF : ∀ e, F e e) (h : w.Alike F w') (config : Configuration) :
    Act.Lockstep (Outcomes F BuildResult.Alike) (run w.compiler config) (run w'.compiler config) := by
  obtain ⟨⟨b, baseline, kinds⟩, cache⟩ := w
  obtain ⟨⟨b', baseline', kinds'⟩, cache'⟩ := w'
  obtain ⟨hb, rfl, rfl, -⟩ := h
  exact Act.Lockstep.run hF hb

theorem surveySources_lockstep (hF : ∀ e, F e e) (h : w.Alike F w') (config : Configuration) :
    Act.Lockstep (Outcomes F fun x y => x.1.Alike y.1 ∧ x.2.Alike y.2)
      (surveySources w.compiler config) (surveySources w'.compiler config) := by
  obtain ⟨⟨b, baseline, kinds⟩, cache⟩ := w
  obtain ⟨⟨b', baseline', kinds'⟩, cache'⟩ := w'
  obtain ⟨hb, rfl, rfl, -⟩ := h
  exact Act.Lockstep.surveySources hF hb

/-- A build is answered from both caches or from neither. -/
theorem build_lockstep (hF : ∀ e, F e e) (h : w.Alike F w') (config : Configuration) :
    Act.Lockstep (fun x y => Outcomes F Kept.Alike x.1 y.1 ∧ x.2.Alike F y.2) (w.build config)
      (w'.build config) := by
  intro m n hmn
  have hfound := h.caches.get? config
  cases hw : w.cache.get? config with
  | some kept =>
      cases hw' : w'.cache.get? config with
      | none =>
          rw [hw, hw'] at hfound
          cases hfound
      | some kept' =>
          rw [hw, hw'] at hfound
          rw [build_of_some hw, build_of_some hw']
          cases hfound with
          | some hkept =>
              exact ⟨⟨.ok hkept, { h with caches := h.caches.hit config }⟩, hmn.log _ _ _ _ _⟩
  | none =>
      cases hw' : w'.cache.get? config with
      | some kept' =>
          rw [hw, hw'] at hfound
          cases hfound
      | none =>
          rw [build_of_none hw, build_of_none hw']
          obtain ⟨hanswer, hafter⟩ := run_lockstep hF h config m n hmn
          have hmiss := h.caches.miss
          cases hm : run w.compiler config m with
          | mk answer after =>
              cases hn : run w'.compiler config n with
              | mk answer' after' =>
                  rw [hm, hn] at hanswer hafter
                  cases hanswer with
                  | ok hr =>
                      exact ⟨⟨.ok ⟨hmiss.misses, hr⟩, { h with caches := hmiss.keep config hr }⟩,
                        hafter⟩
                  | error he => exact ⟨⟨.error he, { h with caches := hmiss }⟩, hafter⟩

theorem generate_lockstep (hF : ∀ e, F e e) (h : w.Alike F w') (config : Configuration) :
    Act.Lockstep (Outcomes F Eq) (w.generate config) (w'.generate config) := by
  refine Act.Lockstep.bind (surveySources_lockstep hF h config) ?_
  rintro ⟨m, s⟩ ⟨n, t⟩ ⟨-, hsurvey⟩
  refine Act.Lockstep.bind (Act.Lockstep.expand hF hsurvey) ?_
  rintro fragments _ rfl
  exact Act.Lockstep.ok rfl

theorem survey_lockstep (hF : ∀ e, F e e) (h : w.Alike F w') (config : Configuration) :
    Act.Lockstep (Outcomes F Survey.Alike) (w.survey config) (w'.survey config) := by
  refine Act.Lockstep.bind (surveySources_lockstep hF h config) ?_
  rintro ⟨m, s⟩ ⟨n, t⟩ ⟨-, hsurvey⟩
  exact Act.Lockstep.ok hsurvey

/-- One call answers alike, and leaves the workbenches alike. -/
theorem answer_lockstep (hF : ∀ e, F e e) (h : w.Alike F w') (call : Call) :
    Act.Lockstep (fun x y => x.1.Alike F y.1 ∧ x.2.Alike F y.2) (w.answer call)
      (w'.answer call) := by
  cases call with
  | build config =>
      refine Act.Lockstep.seq (build_lockstep hF h config) ?_
      rintro ⟨outcome, after⟩ ⟨outcome', after'⟩ ⟨houtcome, hafter⟩
      exact Act.Lockstep.pure ⟨.built houtcome, hafter⟩
  | generate config =>
      refine Act.Lockstep.seq (generate_lockstep hF h config) ?_
      intro outcome outcome' houtcome
      exact Act.Lockstep.pure ⟨.generated houtcome, h⟩
  | survey config =>
      refine Act.Lockstep.seq (survey_lockstep hF h config) ?_
      intro outcome outcome' houtcome
      exact Act.Lockstep.pure ⟨.surveyed houtcome, h⟩

/-- So do any calls, one after the other. -/
theorem answers_lockstep (hF : ∀ e, F e e) (h : w.Alike F w') (calls : List Call) :
    Act.Lockstep (fun x y => List.Forall₂ (Answer.Alike F) x.1 y.1 ∧ x.2.Alike F y.2)
      (w.answers calls) (w'.answers calls) := by
  induction calls generalizing w w' with
  | nil => exact Act.Lockstep.pure ⟨.nil, h⟩
  | cons call rest ih =>
      refine Act.Lockstep.seq (answer_lockstep hF h call) ?_
      rintro ⟨first, between⟩ ⟨first', between'⟩ ⟨hfirst, hbetween⟩
      refine Act.Lockstep.seq (ih hbetween) ?_
      rintro ⟨others, after⟩ ⟨others', after'⟩ ⟨hothers, hafter⟩
      exact Act.Lockstep.pure ⟨.cons hfirst hothers, hafter⟩

end Workbench

end Expansion
