import Expansion.Proofs.Compiler.Confined
import Expansion.Proofs.Compiler.Delivery
import Expansion.Proofs.Workbench.Scan

/-!
# The traces of a build

With a tidy backend a build can be seen on the disk by its output and by nothing else. In `artifact`
mode that takes an output whose scratch file stays in its directory (`Compiler.StaysInside`), as all
do that the compiler's own kinds of files accept.

* **A build that fails for another reason than the disk's is not seen at all**
  (`build_error_traceless`): it fails before the output path is touched, and the cache has one more
  miss. What this asks of the output, and of the functions of a module, it needs
  (`traces_of_failed_builds`).
* Every other build leaves what its delivery leaves (`build_delivered`).
* The functions of the modules that builds hand out leave nothing either, also when the module comes
  from the cache (`Worked.build_calls`).
-/

namespace Expansion

/-- The modules of a result. -/
def BuildResult.modules (r : BuildResult) : List Module := r.scratch :: r.final?.toList

namespace Workbench

open Disk Compiler

variable {c : Compiler} {config : Configuration} {w : Workbench} {m m' : Machine}

/-! ## One build -/

/-- Expanding what has been surveyed leaves no trace, and neither did the survey. -/
theorem scan_traceless {scratch : Module} {s : Survey Machine} (hb : c.backend.Tidy)
    (htree : m.disk.IsTree) (hsurvey : surveySources c config m = (.ok (scratch, s), m')) :
    Confined nowhere m.disk (expand s m').2.disk := by
  have hsources := Act.traceless_compositional.surveySources hb.behaves config m htree
  rw [hsurvey] at hsources
  obtain ⟨rfl, -⟩ := surveySources_ok hsurvey
  exact hsources.trans (Act.traceless_compositional.routine.expand
    (surveySources_calls hb.behaves hsurvey) m' (hsources.tree htree))

/-- Before its delivery a build leaves no trace. -/
theorem work_cases (hb : c.backend.Tidy) (config : Configuration) (htree : m.disk.IsTree) :
    (∃ e after, work c config m = (.error e, after) ∧ Confined nowhere m.disk after.disk) ∨
      ∃ scratch s text between, work c config m = conclude c config scratch s text between ∧
        Confined nowhere m.disk between.disk := by
  rw [work_apply]
  cases hsurvey : surveySources c config (announceStart config m) with
  | mk found m₁ =>
      cases found with
      | error e =>
          have hsources := Act.traceless_compositional.surveySources hb.behaves config
            (announceStart config m) htree
          rw [hsurvey] at hsources
          exact .inl ⟨e, m₁, rfl, hsources⟩
      | ok found =>
          obtain ⟨scratch, s⟩ := found
          have hscan := scan_traceless (m := announceStart config m) hb htree hsurvey
          dsimp only
          cases hfragments : expand s m₁ with
          | mk outcome m₂ =>
              rw [hfragments] at hscan
              cases outcome with
              | error e => exact .inl ⟨e, m₂, rfl, hscan⟩
              | ok fragments => exact .inr ⟨scratch, _, _, m₂, rfl, hscan⟩

/-- A build concludes on the disk that the delivery leaves, and it fails if the delivery does. -/
theorem conclude_disk (c : Compiler) (config : Configuration) (scratch : Module)
    (s : Survey Machine) (text : String) (m : Machine) :
    (conclude c config scratch s text m).2.disk =
        (c.deliver config text scratch (announceEmpty text m)).2.disk ∧
      (conclude c config scratch s text m).1 =
        (c.deliver config text scratch (announceEmpty text m)).1 := by
  unfold conclude
  cases c.deliver config text scratch (announceEmpty text m) with
  | mk outcome after => cases outcome <;> exact ⟨rfl, rfl⟩

theorem run_delivered (hb : c.backend.Tidy)
    (hinside : config.mode = .artifact → StaysInside c.kinds config.output)
    (htree : m.disk.IsTree) : Delivered config m.disk (run c config m).2.disk := by
  rw [run_apply]
  show Delivered config m.disk (work c config (inSpan config m)).2.disk
  rcases work_cases (m := inSpan config m) hb config htree with
    ⟨e, after, hwork, hscan⟩ | ⟨scratch, s, text, between, hwork, hscan⟩
  · rw [hwork]
    exact .of_traceless hscan
  · rw [hwork, (conclude_disk c config scratch s text between).1]
    rw [← announceEmpty_disk text between] at hscan
    exact (deliver_delivered hb hinside (hscan.tree htree) text scratch).after hscan

theorem run_error_traceless {e : Failure} (hb : c.backend.Tidy)
    (hinside : config.mode = .artifact → StaysInside c.kinds config.output)
    (htree : m.disk.IsTree) (h : (run c config m).1 = .error e)
    (hother : ∀ error p?, e ≠ .disk error p?) :
    Confined nowhere m.disk (run c config m).2.disk := by
  rw [run_apply] at h ⊢
  have h : (work c config (inSpan config m)).1 = .error e := h
  show Confined nowhere m.disk (work c config (inSpan config m)).2.disk
  rcases work_cases (m := inSpan config m) hb config htree with
    ⟨e', after, hwork, hscan⟩ | ⟨scratch, s, text, between, hwork, hscan⟩
  · rw [hwork]
    exact hscan
  · obtain ⟨hdisk, hresult⟩ := conclude_disk c config scratch s text between
    rw [hwork, hresult] at h
    rw [hwork, hdisk]
    rw [← announceEmpty_disk text between] at hscan
    exact hscan.trans (deliver_error_confined hb hinside (hscan.tree htree) h hother)

/-- What a build leaves is what its delivery leaves, if the scratch file of an artifact stays in its
directory. -/
theorem build_delivered (hb : w.compiler.backend.Tidy)
    (hinside : config.mode = .artifact → StaysInside w.compiler.kinds config.output)
    (htree : m.disk.IsTree) : Delivered config m.disk (w.build config m).2.disk := by
  cases hget : w.cache.get? config with
  | some kept =>
      rw [build_of_some hget]
      exact .of_traceless (.refl _ _)
  | none =>
      have hrun := run_delivered (m := m) hb hinside htree
      rw [build_of_none hget]
      cases hdone : run w.compiler config m with
      | mk outcome after =>
          rw [hdone] at hrun
          cases outcome <;> exact hrun

/-- **A build that fails before its delivery touches the output leaves no trace**: if sources are
missing, if one of the two compilations fails, if the driver program does, or if an expander gives up,
every place of the disk is as before, and the cache counts one more miss and is the same otherwise.
The backend is tidy, its functions included. In `artifact` mode an output with a stem of one dot, such
as `..lib`, is left out if the compiler's extension of artifacts begins with a slash or is empty: that
is what `StaysInside` comes to. -/
theorem build_error_traceless {e : Failure} (hb : w.compiler.backend.Tidy)
    (hinside : config.mode = .artifact → StaysInside w.compiler.kinds config.output)
    (htree : m.disk.IsTree) (h : (w.build config m).1.1 = .error e)
    (hother : ∀ error p?, e ≠ .disk error p?) :
    Confined nowhere m.disk (w.build config m).2.disk ∧
      (w.build config m).1.2 = { w with cache := { w.cache with misses := w.cache.misses + 1 } } := by
  cases hget : w.cache.get? config with
  | some kept =>
      rw [build_of_some hget] at h
      cases h
  | none =>
      rw [build_of_none hget] at h ⊢
      cases hdone : run w.compiler config m with
      | mk outcome after =>
          rw [hdone] at h
          cases outcome with
          | ok r => cases h
          | error e' =>
              cases h
              have hrun := run_error_traceless (m := m) hb hinside htree
                (congrArg Prod.fst hdone) hother
              rw [hdone] at hrun
              exact ⟨hrun, rfl⟩

/-- The echo writes nothing, not even an artifact. -/
theorem echo_tidy : echoBackend.Tidy where
  memory := fun _ _ _ _ => .refl _ _
  file := fun _ _ _ _ _ => .refl _ _
  calls := fun _ _ _ _ _ hanswer hmodule =>
    echo_calls Act.traceless_compositional.routine.toStepwise hanswer hmodule

/-- Whether a result fails for another reason than the disk's. -/
def failsEarly {α : Type} : Except Failure α → Bool
  | .ok _ => false
  | .error (.disk _ _) => false
  | .error _ => true

theorem exists_error_of_failsEarly {α : Type} {result : Except Failure α}
    (h : failsEarly result = true) :
    ∃ e, result = .error e ∧ ∀ error p?, e ≠ .disk error p? := by
  cases result with
  | ok a => cases h
  | error e =>
      refine ⟨e, rfl, ?_⟩
      rintro error p? rfl
      cases h

/-- A build whose expander gives up does not even make the directory of its output. -/
theorem no_trace_of_echo :
    let w := ofCompiler ⟨echoBackend, [], .standard⟩
    let m := Machine.ofDisk ⟨[], [], ⟨"/tmp"⟩⟩
    (∃ e, (w.build (echoing [] .artifact ⟨"out/a.lib"⟩) m).1.1 = .error e) ∧
      (w.build (echoing [] .artifact ⟨"out/a.lib"⟩) m).2.disk.get? ["out"] = none ∧
      (w.build (echoing [] .artifact ⟨"out/a.lib"⟩) m).1.2 =
        { w with cache := { w.cache with misses := 1 } } := by
  intro w m
  have hfails : failsEarly (w.build (echoing [] .artifact ⟨"out/a.lib"⟩) m).1.1 = true := by
    decide +kernel
  have htree : m.disk.IsTree := isTree_of_flat (by simp [m, Machine.ofDisk])
  obtain ⟨e, hbuild, hother⟩ := exists_error_of_failsEarly hfails
  obtain ⟨hsame, hcache⟩ := build_error_traceless (w := w) (m := m) echo_tidy
    (fun _ => staysInside_of_isArtifact (by decide +kernel)) htree hbuild hother
  exact ⟨⟨e, hbuild⟩, hsame.get?_eq ["out"], hcache⟩

/-- A backend that writes the artifact that it is asked for and then reports an error. -/
def spoilingBackend : Backend := fun request =>
  match request.target with
  | .memory => pure ⟨[], some ⟨"spoiled", [], [], ByteArray.empty, none⟩⟩
  | .file p => do
    Act.onDisk none fun d => d.writeFile p "half".toUTF8
    pure ⟨[.unlocated "half done"], none⟩

theorem spoiling_tidy : spoilingBackend.Tidy where
  memory := by
    intro request htarget m _
    unfold spoilingBackend
    rw [htarget]
    exact .refl _ _
  file := by
    intro request p m htarget _
    unfold spoilingBackend
    rw [htarget]
    dsimp only
    cases hwrite : m.disk.writeFile p "half".toUTF8 with
    | error e =>
        rw [Act.bind_of_error (Act.onDisk_of_error hwrite)]
        exact .refl _ _
    | ok d =>
        rw [Act.bind_of_ok (Act.onDisk_of_ok hwrite)]
        exact writeFile_within hwrite
  calls := by
    intro request m output after module hanswer hmodule f hf
    unfold spoilingBackend at hanswer
    cases htarget : request.target with
    | memory =>
        rw [htarget] at hanswer
        cases hanswer
        cases hmodule
        cases hf
    | file p =>
        rw [htarget] at hanswer
        obtain ⟨_, _, -, hpure⟩ := Act.bind_ok hanswer
        cases hpure
        cases hmodule

/-- A backend that writes nothing, and whose module has a function that writes a file and gives up. -/
def scribblingBackend : Backend := fun _ =>
  pure ⟨[], some
    { name := "scribble"
      types := [⟨"Model", [.expandable [⟨"Notes", false⟩]]⟩]
      functions := [(.generator "scribble" [.expander "Notes" false], fun _ m =>
        (.error ⟨"gave up"⟩,
          { m with disk := (m.disk.writeFile ⟨"/x"⟩ "half".toUTF8).toOption.getD m.disk }))]
      image := ByteArray.empty
      location := none }⟩

/-- A workbench whose artifacts have an extension that leads up. -/
def escapingBench : Workbench := ofCompiler ⟨spoilingBackend, [], ⟨["src"], "/../x", []⟩⟩

/-- A workbench with functions that scribble. -/
def scribblingBench : Workbench := ofCompiler ⟨scribblingBackend, [], .standard⟩

/-- Both conditions are needed. An output `..lib` that was accepted for the extension `lib` is staged as
`../../x` by a compiler whose extension is `/../x`, so what a tidy backend writes before it reports an
error stays there, outside of the scratch directory. And where it is a function that writes before it
gives up, that stays, although the backend itself writes nothing. -/
theorem traces_of_failed_builds :
    scratchDisk.get? ["x"] = none ∧
      (spoilingBackend.Tidy ∧
        Configuration.withOutput (.ofPaths []) .artifact ⟨"..lib"⟩ .standard =
          .ok (echoing [] .artifact ⟨"..lib"⟩) ∧
        failsEarly (escapingBench.build (echoing [] .artifact ⟨"..lib"⟩) (.ofDisk scratchDisk)).1.1 ∧
        (escapingBench.build (echoing [] .artifact ⟨"..lib"⟩) (.ofDisk scratchDisk)).2.disk.get? ["x"] ≠
          none) ∧
      (∀ request m, (scribblingBackend request m).2 = m) ∧
        failsEarly (scribblingBench.build (echoing [] .source ⟨"o.src"⟩) (.ofDisk scratchDisk)).1.1 ∧
        (scribblingBench.build (echoing [] .source ⟨"o.src"⟩) (.ofDisk scratchDisk)).2.disk.get? ["x"] ≠
          none := by
  refine ⟨by decide, ⟨spoiling_tidy, rfl, ?_, ?_⟩, fun _ _ => rfl, ?_, ?_⟩
  · -- The second compilation fails, and its artifact is where nobody looks for it.
    decide +kernel
  · decide +kernel
  · -- The function is called before anything is delivered.
    decide +kernel
  · decide +kernel

/-! ## Later calls -/

/-- The workbenches that builds with one compiler can lead to, on whatever machines. -/
inductive Worked (c : Compiler) : Workbench → Prop
  | fresh : Worked c (ofCompiler c)
  | build {w : Workbench} (config : Configuration) (m : Machine) :
      Worked c w → Worked c (w.build config m).1.2

theorem Worked.compiler (h : Worked c w) : w.compiler = c := by
  induction h with
  | fresh => rfl
  | build config m _ ih => exact (build_compiler _ config m).trans ih

section

variable {Q : ∀ {α : Type}, StateM Machine α → Prop}

/-- A build makes modules with functions of the backend. -/
theorem run_calls (hb : c.backend.Behaves Q) {r : BuildResult}
    (h : run c config m = (.ok r, m')) :
    ∀ module ∈ r.modules, ∀ f ∈ module.functions, ∀ values, Q (f.2 values) := by
  rw [run_apply] at h
  obtain ⟨hr, -⟩ := Prod.mk.inj h
  obtain ⟨scratch, s, fragments, m₁, m₂, m₃, hsurvey, -, hdeliver, -⟩ := work_ok (Prod.ext hr rfl)
  obtain ⟨hscratch, -, hfits⟩ := deliver_ok hdeliver
  intro module hmodule
  rcases List.mem_cons.mp hmodule with rfl | hfinal
  · rw [hscratch]
    exact surveySources_calls hb hsurvey
  · rw [Option.mem_toList] at hfinal
    have hmode : config.mode = .embed := hfits.mp (by rw [hfinal]; rfl)
    unfold deliver at hdeliver
    rw [hmode] at hdeliver
    obtain ⟨final, between, hcompile, hpure⟩ := Act.bind_ok hdeliver
    cases hpure
    obtain rfl := Option.some.inj hfinal
    exact compileWithGenerated_calls hb hcompile

/-- Every module in the cache has functions of the backend. -/
theorem Worked.entries_calls (h : Worked c w) (hb : c.backend.Behaves Q) :
    ∀ entry ∈ w.cache.entries, ∀ module ∈ entry.2.result.modules, ∀ f ∈ module.functions,
      ∀ values, Q (f.2 values) := by
  induction h with
  | fresh =>
      intro entry hentry
      cases hentry
  | @build w config m hworked ih =>
      cases hget : w.cache.get? config with
      | some kept =>
          rw [build_of_some hget]
          exact ih
      | none =>
          rw [build_of_none hget]
          split
          · rename_i r after hrun
            intro entry hentry
            rcases List.mem_append.mp hentry with hold | hnew
            · exact ih entry hold
            · obtain rfl := List.mem_singleton.mp hnew
              rw [hworked.compiler] at hrun
              exact run_calls hb hrun
          · exact ih

/-- So has every module that a build hands out, from the cache or not. -/
theorem Worked.build_calls (h : Worked c w) (hb : c.backend.Behaves Q) {kept : Kept BuildResult}
    (hbuild : (w.build config m).1.1 = .ok kept) :
    ∀ module ∈ kept.result.modules, ∀ f ∈ module.functions, ∀ values, Q (f.2 values) := by
  cases hget : w.cache.get? config with
  | some found =>
      rw [build_of_some hget] at hbuild
      cases hbuild
      obtain ⟨key, hentry, -⟩ := ResultCache.get?_some hget
      exact h.entries_calls hb (key, kept) hentry
  | none =>
      rw [build_of_none hget] at hbuild
      cases hdone : run w.compiler config m with
      | mk outcome after =>
          rw [hdone] at hbuild
          cases outcome with
          | error e => cases hbuild
          | ok r =>
              cases hbuild
              rw [h.compiler] at hdone
              exact run_calls hb hdone

end

/-- The expanders of a survey call functions of the backend. -/
theorem survey_calls {Q : ∀ {α : Type}, StateM Machine α → Prop}
    (hQ : Act.Compositional Q) (hb : w.compiler.backend.Behaves Q) {s : Survey Machine}
    (h : w.survey config m = (.ok s, m')) : ∀ e ∈ s.expanders, ∀ type, Q (e.call type) := by
  obtain ⟨⟨scratch, surveyed⟩, between, hsurvey, hpure⟩ := Act.bind_ok h
  cases hpure
  obtain ⟨rfl, -⟩ := surveySources_ok hsurvey
  intro e he type
  obtain ⟨f, hf, hcall⟩ := Survey.exists_of_mem_expanders he
  rw [hcall]
  exact hQ.routine.call (surveySources_calls hb hsurvey f hf _)

end Workbench

end Expansion
