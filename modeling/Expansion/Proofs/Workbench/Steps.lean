import Expansion.Proofs.Machine.Act
import Expansion.Proofs.ResultCache.Lookup
import Expansion.Workbench

/-!
# The steps of a build

One equation for each operation of a workbench, in terms of the operations below it. Everything that
is proved about builds goes through these, so a change to the order of the steps stays here.

* **`work_apply`**: announce, survey, expand, deliver, announce; the first step that fails is the
  last.
* **`build_of_some` and `build_of_none`**: an answer from the cache runs nothing; otherwise the work
  decides, and a failure leaves one more miss.
-/

namespace Expansion

namespace Workbench

variable {c : Compiler} {config : Configuration} {w : Workbench} {m m' : Machine}

/-! ## What is logged between the steps -/

/-- The machine on which the work of a build begins. -/
def announceStart (config : Configuration) (m : Machine) : Machine :=
  m.log .info .build "starting build" [("sources", .number config.sources.paths.length)]
    (some .buildStarted)

/-- The machine on which a document is delivered. -/
def announceEmpty (document : String) (m : Machine) : Machine :=
  if document.isEmpty then m.log .info .build "no expander produced output" [] none else m

/-- The machine at the end of a build that succeeded. -/
def announceFinish (s : Survey Machine) (r : BuildResult) (m : Machine) : Machine :=
  m.log .info .build "build finished"
    [("types", .number s.types.length), ("expanders", .number s.expanders.length),
      ("generated_bytes", .number r.generated.utf8ByteSize), ("elapsed_ms", .duration)]
    (some .buildFinished)

@[simp] theorem announceEmpty_disk (document : String) (m : Machine) :
    (announceEmpty document m).disk = m.disk := by
  unfold announceEmpty
  split <;> rfl

/-! ## Equations -/

/-- What follows the expansion in a build. -/
def conclude (c : Compiler) (config : Configuration) (scratch : Module) (s : Survey Machine)
    (document : String) (m : Machine) : Except Failure BuildResult × Machine :=
  match c.deliver config document scratch (announceEmpty document m) with
  | (.ok r, after) => (.ok r, announceFinish s r after)
  | (.error e, after) => (.error e, after)

theorem work_apply (c : Compiler) (config : Configuration) (m : Machine) :
    work c config m =
      match surveySources c config (announceStart config m) with
      | (.error e, m₁) => (.error e, m₁)
      | (.ok (scratch, s), m₁) =>
        match expand s m₁ with
        | (.error e, m₂) => (.error e, m₂)
        | (.ok fragments, m₂) =>
          conclude c config scratch s (Document.ofFragments fragments) m₂ := by
  unfold work
  have hstart : Act.milestone .info .build .buildStarted "starting build"
      [("sources", .number config.sources.paths.length)] m =
      (.ok (), announceStart config m) := rfl
  rw [Act.bind_of_ok hstart, Act.bind_apply]
  cases hsurvey : surveySources c config (announceStart config m) with
  | mk found m₁ =>
    cases found with
    | error e => rfl
    | ok found =>
      obtain ⟨scratch, s⟩ := found
      dsimp only
      rw [Act.bind_apply]
      cases hexpand : expand s m₁ with
      | mk fragments m₂ =>
        cases fragments with
        | error e => rfl
        | ok fragments =>
          dsimp only [conclude, announceEmpty]
          cases hempty : (Document.ofFragments fragments).isEmpty with
          | false =>
            simp only [Bool.false_eq_true, if_false]
            rw [Act.bind_apply]
            cases c.deliver config (Document.ofFragments fragments) scratch m₂ with
            | mk r m₃ => cases r <;> rfl
          | true =>
            simp only [if_true]
            rw [Act.bind_apply, Act.modify_apply]
            dsimp only
            rw [Act.bind_apply]
            cases c.deliver config (Document.ofFragments fragments) scratch _ with
            | mk r m₃ => cases r <;> rfl

/-- The steps of a build that succeeded. -/
theorem work_ok {r : BuildResult} (h : work c config m = (.ok r, m')) :
    ∃ scratch s fragments m₁ m₂ m₃,
      surveySources c config (announceStart config m) = (.ok (scratch, s), m₁) ∧
      expand s m₁ = (.ok fragments, m₂) ∧
      c.deliver config (Document.ofFragments fragments) scratch
        (announceEmpty (Document.ofFragments fragments) m₂) = (.ok r, m₃) ∧
      m' = announceFinish s r m₃ := by
  rw [work_apply] at h
  split at h
  · exact absurd (congrArg Prod.fst h) (by simp)
  · rename_i scratch s m₁ hsurvey
    split at h
    · exact absurd (congrArg Prod.fst h) (by simp)
    · rename_i fragments m₂ hexpand
      unfold conclude at h
      split at h
      · rename_i made m₃ hdeliver
        obtain ⟨hr, hm⟩ := Prod.mk.inj h
        injection hr with hr
        subst hr
        exact ⟨scratch, s, fragments, m₁, m₂, m₃, hsurvey, hexpand, hdeliver, hm.symm⟩
      · exact absurd (congrArg Prod.fst h) (by simp)

/-- The machine inside the span of a build. -/
def inSpan (config : Configuration) (m : Machine) : Machine :=
  { m with spans := m.spans ++ [buildSpan config] }

theorem run_apply (c : Compiler) (config : Configuration) (m : Machine) :
    run c config m =
      ((work c config (inSpan config m)).1,
        { (work c config (inSpan config m)).2 with spans := m.spans }) := rfl

/-- A configuration whose class has a result is answered with it, and nothing runs. -/
theorem build_of_some {kept : Kept BuildResult} (h : w.cache.get? config = some kept) :
    w.build config m =
      ((.ok kept, { w with cache := w.cache.hit config }), logHit config m) := by
  have hcontains : w.cache.contains config = true := by simp [ResultCache.contains, h]
  unfold build
  simp only [hcontains, if_true, ResultCache.getOrBuild_of_some h]
  rfl

/-- Otherwise the work decides. -/
theorem build_of_none (h : w.cache.get? config = none) :
    w.build config m =
      match run w.compiler config m with
      | (.ok r, after) =>
        ((.ok ⟨w.cache.miss.misses, r⟩, { w with cache := w.cache.miss.keep config r }), after)
      | (.error e, after) => ((.error e, { w with cache := w.cache.miss }), after) := by
  have hcontains : w.cache.contains config = false := by simp [ResultCache.contains, h]
  unfold build
  simp only [hcontains, ResultCache.getOrBuild_of_none h, Bool.false_eq_true, if_false, bind, StateT.bind,
    ExceptT.run]
  cases run w.compiler config m with
  | mk r after => cases r <;> rfl

theorem build_compiler (w : Workbench) (config : Configuration) (m : Machine) :
    (w.build config m).1.2.compiler = w.compiler := by
  cases hget : w.cache.get? config with
  | some kept => rw [build_of_some hget]
  | none =>
      rw [build_of_none hget]
      split <;> rfl

end Workbench

end Expansion
