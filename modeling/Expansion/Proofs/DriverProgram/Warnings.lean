import Expansion.Proofs.Catalog.CompiledModule
import Expansion.Proofs.DriverProgram.Verdict
import Expansion.Proofs.Workbench.Warnings

/-!
# Warnings influence nothing

Two driver programs that end alike, leave the same disk and print reports with the same catalog and
the same errors make backends that are the same but for warnings
(`DriverProgram.SameButWarnings.backend`). A program that fails is heard with its own errors, or else
with its last words, and which of the two it is does not depend on warnings either
(`interpret_alike`).

**`Workbench.warnings_never_matter`** puts this together with what is known of workbenches: whether
the backends are any two that differ in warnings, or two such driver programs, no call of a history
answers differently, and the history leaves the same cache and the same files.
-/

namespace Expansion

/-- Reports with the same catalog and the same errors in the same order. -/
structure Report.Alike (r r' : Report) : Prop where
  catalog : r.catalog = r'.catalog
  errors : r.diagnostics.filter Diagnostic.isError = r'.diagnostics.filter Diagnostic.isError

/-- Whether there is an error can be told from the errors. -/
theorem Report.Alike.any_isError {r r' : Report} (h : r.Alike r') :
    r.diagnostics.any Diagnostic.isError = r'.diagnostics.any Diagnostic.isError := by
  have hany : ∀ ds : List Diagnostic,
      ds.any Diagnostic.isError = (ds.filter Diagnostic.isError).any Diagnostic.isError := by
    intro ds
    simp only [List.any_filter, Bool.and_self]
  rw [hany, h.errors, ← hany]

namespace DriverProgram

variable {p p' : DriverProgram} {F : Failure → Failure → Prop}

/-- Outputs of compilations that end alike and print reports that are alike, or nothing, or what is
no report for the same reason. -/
structure SpeakAlike (output output' : ProcessOutput) : Prop where
  status : output.status = output'.status
  err : output.err = output'.err
  printed : Outcomes Eq (Option.Rel Report.Alike) (printedReport output.out)
    (printedReport output'.out)

/-- Programs that are started in the same way, leave the same disk, and speak alike when they
compile. A call of a function is answered with the same output. -/
structure SameButWarnings (p p' : DriverProgram) : Prop where
  program : p.program = p'.program
  arguments : p.arguments = p'.arguments
  artifactExtension : p.artifactExtension = p'.artifactExtension
  compiles : ∀ artifact request d,
    Outcomes Eq SpeakAlike
        (p.runner p.program (p.arguments ++ compileArguments artifact request) d).1
        (p'.runner p.program (p.arguments ++ compileArguments artifact request) d).1 ∧
      (p.runner p.program (p.arguments ++ compileArguments artifact request) d).2 =
        (p'.runner p.program (p.arguments ++ compileArguments artifact request) d).2
  invokes : ∀ artifact function typeName d,
    p.runner p.program (p.arguments ++ invokeArguments artifact function typeName) d =
      p'.runner p.program (p.arguments ++ invokeArguments artifact function typeName) d

/-! ## One run -/

/-- Programs that are run with the same arguments, if what is left of the runs is related. -/
theorem run_lockstep {R : ProcessOutput → ProcessOutput → Prop} (hF : ∀ e, F e e)
    (h : p.SameButWarnings p') {arguments : List String}
    (hleft : ∀ d, Outcomes Eq R (p.runner p.program (p.arguments ++ arguments) d).1
        (p'.runner p.program (p.arguments ++ arguments) d).1 ∧
      (p.runner p.program (p.arguments ++ arguments) d).2 =
        (p'.runner p.program (p.arguments ++ arguments) d).2) :
    Act.Lockstep (Outcomes F R) (p.run arguments) (p'.run arguments) := by
  intro m n hmn
  obtain ⟨hanswer, hdisk⟩ := hleft m.disk
  unfold run startFailure
  rw [← h.program, ← h.arguments, ← hmn.disk]
  dsimp only
  cases argumentFault? p.program (p.arguments ++ arguments) with
  | some e => exact ⟨.error (hF _), hmn⟩
  | none =>
      cases hm : p.runner p.program (p.arguments ++ arguments) m.disk with
      | mk answer after =>
          cases hn : p'.runner p.program (p.arguments ++ arguments) m.disk with
          | mk answer' after' =>
              rw [hm, hn] at hanswer hdisk
              obtain rfl : after = after' := hdisk
              cases hanswer with
              | ok hspeak => exact ⟨.ok hspeak, hmn.onto after⟩
              | error he =>
                  rw [he]
                  exact ⟨.error (hF _), hmn.onto after⟩

theorem call_lockstep (hF : ∀ e, F e e) (h : p.SameButWarnings p') (image : ByteArray)
    (function typeName : String) :
    Act.Lockstep (Outcomes F Eq) (p.call image function typeName) (p'.call image function typeName) := by
  unfold call
  rw [h.artifactExtension]
  refine Act.Lockstep.withScratchFile hF _ _ _ ?_
  intro artifact
  refine run_lockstep hF h ?_
  intro d
  rw [h.invokes]
  exact ⟨.of_eq (fun _ => rfl) rfl, rfl⟩

/-- A function gives the same text, or the same fault. -/
theorem entry_lockstep (h : p.SameButWarnings p') (image : ByteArray) (f : FunctionInfo)
    (values : List Value) :
    Act.Lockstep Eq (p.entry image f values) (p'.entry image f values) := by
  unfold entry
  split
  · intro m n hmn
    rename_i type
    obtain ⟨hanswer, hafter⟩ :=
      call_lockstep (F := Eq) (fun _ => rfl) h image f.fullName type.fullName m n hmn
    cases hm : p.call image f.fullName type.fullName m with
    | mk answer after =>
        cases hn : p'.call image f.fullName type.fullName n with
        | mk answer' after' =>
            rw [hm, hn] at hanswer hafter
            obtain rfl : answer = answer' := hanswer.eq
            dsimp only
            rw [hm, hn]
            cases answer with
            | ok output => exact ⟨rfl, hafter⟩
            | error e => exact ⟨rfl, hafter⟩
  · exact Act.Lockstep.pure rfl

/-! ## One compilation -/

/-- Outputs that speak alike come to reports that are alike. -/
theorem interpret_alike {output output' : ProcessOutput} (h : SpeakAlike output output') :
    Outcomes Eq Report.Alike (interpret output) (interpret output') := by
  have hprinted := h.printed
  unfold interpret
  rw [h.status, h.err]
  generalize printedReport output.out = printed, printedReport output'.out = printed' at hprinted
  dsimp only
  split
  · -- A success is taken by its word.
    cases hprinted with
    | error heq =>
        rw [heq]
        exact .error rfl
    | ok hreports =>
        cases hreports with
        | none => exact .error rfl
        | some halike => exact .ok halike
  · -- Of a failure the errors are taken, and an error is made up if there are none.
    have hbelieved : ((printed.toOption.bind id).getD Report.empty).Alike
        ((printed'.toOption.bind id).getD Report.empty) := by
      cases hprinted with
      | error _ => exact ⟨rfl, rfl⟩
      | ok hreports =>
          cases hreports with
          | none => exact ⟨rfl, rfl⟩
          | some halike => exact halike
    refine .ok ⟨rfl, ?_⟩
    dsimp only
    rw [filter_withError, filter_withError, hbelieved.errors]

theorem load_alike (h : p.SameButWarnings p') (artifact : FilePath) (catalog : Catalog)
    (image : ByteArray) :
    (p.load artifact catalog image).Alike (p'.load artifact catalog image) := by
  unfold load
  rw [CompiledModule.ofCatalog_eq, CompiledModule.ofCatalog_eq]
  refine ⟨rfl, rfl, ?_, rfl, rfl⟩
  rw [List.forall₂_map_left_iff, List.forall₂_map_right_iff, List.forall₂_same]
  intro f _
  exact ⟨rfl, entry_lockstep h image f⟩

theorem readImage_lockstep (hF : ∀ e, F e e) (artifact : FilePath) :
    Act.Lockstep (Outcomes F Eq) (readImage artifact) (readImage artifact) := by
  refine Act.Lockstep.bind Act.Lockstep.disk ?_
  rintro d _ rfl
  split
  · exact Act.Lockstep.ok rfl
  · exact Act.Lockstep.fail (hF _)

theorem accept_lockstep (hF : ∀ e, F e e) (h : p.SameButWarnings p') (artifact : FilePath)
    {report report' : Report} (hreport : report.Alike report') :
    Act.Lockstep (Outcomes F CompileOutput.Alike) (p.accept artifact report)
      (p'.accept artifact report') := by
  unfold accept
  rw [hreport.catalog, hreport.any_isError]
  split
  · exact Act.Lockstep.ok ⟨hreport.errors, .none⟩
  · split
    · exact Act.Lockstep.ok ⟨hreport.errors, .none⟩
    · refine Act.Lockstep.bind (readImage_lockstep hF artifact) ?_
      rintro image _ rfl
      exact Act.Lockstep.ok ⟨hreport.errors, .some (load_alike h _ _ _)⟩

theorem compileTo_lockstep (hF : ∀ e, F e e) (h : p.SameButWarnings p') (artifact : FilePath)
    (request : CompileRequest) :
    Act.Lockstep (Outcomes F CompileOutput.Alike) (p.compileTo artifact request)
      (p'.compileTo artifact request) := by
  refine Act.Lockstep.bind (run_lockstep hF h (h.compiles artifact request)) ?_
  intro output output' hspeak
  have hreports := interpret_alike hspeak
  cases hleft : interpret output with
  | ok report =>
      cases hright : interpret output' with
      | ok report' =>
          rw [hleft, hright] at hreports
          cases hreports with
          | ok halike => exact accept_lockstep hF h artifact halike
      | error breach =>
          rw [hleft, hright] at hreports
          cases hreports
  | error breach =>
      cases hright : interpret output' with
      | ok report' =>
          rw [hleft, hright] at hreports
          cases hreports
      | error breach' =>
          rw [hleft, hright] at hreports
          cases hreports with
          | error heq =>
              rw [heq]
              exact Act.Lockstep.fail (hF _)

/-- Programs that are the same but for warnings make backends that are. -/
theorem SameButWarnings.backend (h : p.SameButWarnings p') (hF : ∀ e, F e e) :
    p.backend.SameButWarnings F p'.backend := by
  intro request
  unfold DriverProgram.backend
  split
  · rename_i artifact _
    refine Act.Lockstep.bind (compileTo_lockstep hF h artifact request) ?_
    rintro ⟨diagnostics, module?⟩ ⟨diagnostics', module'?⟩ ⟨herrors, hmodules⟩
    refine Act.Lockstep.ok ⟨herrors, ?_⟩
    cases hmodules with
    | none => exact .none
    | some hmodule => exact .some (hmodule.locatedAt artifact)
  · rw [h.artifactExtension]
    refine Act.Lockstep.withScratchDirectory hF _ ?_
    intro directory
    exact compileTo_lockstep hF h _ request

end DriverProgram

/-! ## Histories -/

/-- The calls of a history have outcomes that are alike on two workbenches, and leave behind caches
that are alike, one disk, and logs that agree but for warnings. -/
structure Workbench.SameHistory (F : Failure → Failure → Prop) (w w' : Workbench)
    (calls : List Call) (m : Machine) : Prop where
  answers : List.Forall₂ (Answer.Alike F) (w.answers calls m).1.1 (w'.answers calls m).1.1
  caches : (w.answers calls m).1.2.cache.Alike (w'.answers calls m).1.2.cache
  disk : (w.answers calls m).2.disk = (w'.answers calls m).2.disk
  remarks : (w.answers calls m).2.remarks = (w'.answers calls m).2.remarks

namespace Workbench

variable {F : Failure → Failure → Prop} {b b' : Backend}

theorem sameHistory (hF : ∀ e, F e e) (hb : b.SameButWarnings F b') (baseline : List FilePath)
    (kinds : FileKinds) (calls : List Call) (m : Machine) :
    SameHistory F (ofCompiler ⟨b, baseline, kinds⟩) (ofCompiler ⟨b', baseline, kinds⟩) calls m := by
  have halike : (ofCompiler ⟨b, baseline, kinds⟩).Alike F (ofCompiler ⟨b', baseline, kinds⟩) :=
    ⟨hb, rfl, rfl, .empty⟩
  obtain ⟨⟨hanswers, hafter⟩, hmachines⟩ := answers_lockstep hF halike calls m m (.refl m)
  exact ⟨hanswers, hafter.caches, hmachines.disk, hmachines.remarks⟩

/-- **Warnings influence nothing.** Take two backends that answer every request with the same errors
and modules that are alike, or two driver programs that end alike and print such reports, with any
warnings anywhere. On workbenches with them, any calls of `build`, `generate` and `survey` have the
same outcomes: results with the same text, modules, images and run numbers, or the same failures, with
the same errors in the same order. They leave the same cache and the same files behind.

Which failures of the backends themselves count as the same may be chosen; those of driver programs
are equal. -/
theorem warnings_never_matter (baseline : List FilePath) (kinds : FileKinds) (calls : List Call)
    (m : Machine) :
    (∀ (F : Failure → Failure → Prop) (b b' : Backend), (∀ e, F e e) → b.SameButWarnings F b' →
      SameHistory F (ofCompiler ⟨b, baseline, kinds⟩) (ofCompiler ⟨b', baseline, kinds⟩) calls m) ∧
    ∀ p p' : DriverProgram, p.SameButWarnings p' →
      SameHistory Eq (ofCompiler ⟨p.backend, baseline, kinds⟩)
        (ofCompiler ⟨p'.backend, baseline, kinds⟩) calls m := by
  constructor
  · intro F b b' hF hb
    exact sameHistory hF hb baseline kinds calls m
  · intro p p' hp
    exact sameHistory (fun _ => rfl) (hp.backend fun _ => rfl) baseline kinds calls m

end Workbench

/-! ## An echo and a program that warn -/

/-- A warning. -/
def hint : Diagnostic := { Diagnostic.unlocated "unused" with severity := .warning }

/-- The echo with a warning in front. -/
def hintingEcho : Backend := fun request => do
  let output ← echoBackend request
  pure { output with diagnostics := hint :: output.diagnostics }

theorem echo_sameButWarnings : echoBackend.SameButWarnings Eq hintingEcho := by
  intro request
  have hcalls : ∀ values, Act.Lockstep Eq ((flagPrinter request).2 values)
      ((flagPrinter request).2 values) := by
    intro values
    unfold flagPrinter
    dsimp only
    split <;> exact Act.Lockstep.pure rfl
  exact Act.Lockstep.ok ⟨rfl, .some ⟨rfl, rfl, .cons ⟨rfl, hcalls⟩ .nil, rfl, rfl⟩⟩

/-- A program that prints a report when it is asked to compile, and fails every time. -/
def failing (report : Report) : DriverProgram where
  runner := fun _ arguments d =>
    if arguments.head? = some "compile" then
      (.ok (Outline.printAndExit 1 (report.encode.compact ++ "\n")), d)
    else (.ok (Outline.printAndExit 1 ""), d)
  program := ⟨"/failing"⟩
  arguments := []
  artifactExtension := "lib"

theorem failing_compiles (report : Report) (artifact : FilePath) (request : CompileRequest)
    (d : Disk) :
    (failing report).runner ⟨"/failing"⟩ (DriverProgram.compileArguments artifact request) d =
      (.ok (Outline.printAndExit 1 (report.encode.compact ++ "\n")), d) := rfl

theorem failing_invokes (report : Report) (artifact : FilePath) (function typeName : String)
    (d : Disk) :
    (failing report).runner ⟨"/failing"⟩ (DriverProgram.invokeArguments artifact function typeName)
      d = (.ok (Outline.printAndExit 1 ""), d) := rfl

theorem failing_sameButWarnings {r r' : Report} (h : r.Alike r') :
    (failing r).SameButWarnings (failing r') where
  program := rfl
  arguments := rfl
  artifactExtension := rfl
  compiles := by
    intro artifact request d
    have hprinted : Outcomes Eq (Option.Rel Report.Alike)
        (DriverProgram.printedReport (r.encode.compact ++ "\n").toUTF8)
        (DriverProgram.printedReport (r'.encode.compact ++ "\n").toUTF8) := by
      rw [DriverProgram.printedReport_compact, DriverProgram.printedReport_compact]
      exact .ok (.some h)
    have hleft := failing_compiles r artifact request d
    have hright := failing_compiles r' artifact request d
    unfold failing at hleft hright ⊢
    dsimp only at hleft hright ⊢
    rw [List.nil_append, hleft, hright]
    refine ⟨.ok ⟨?_, ?_, hprinted⟩, ?_⟩ <;> dsimp only [Outline.printAndExit]
  invokes := by
    intro artifact function typeName d
    have hleft := failing_invokes r artifact function typeName d
    have hright := failing_invokes r' artifact function typeName d
    unfold failing at hleft hright ⊢
    dsimp only at hleft hright ⊢
    rw [List.nil_append, hleft, hright]

/-- Warnings around an error and in front of a module. -/
theorem warnings_dropped :
    let error := Diagnostic.unlocated "no"
    let calls := [Call.build (echoing ["a"] .embed ⟨""⟩), .survey (echoing [] .source ⟨"out.src"⟩)]
    Workbench.SameHistory Eq (.ofCompiler ⟨echoBackend, [], .standard⟩)
        (.ofCompiler ⟨hintingEcho, [], .standard⟩) calls (.ofDisk DriverProgram.sampleDisk) ∧
      Workbench.SameHistory Eq (.ofCompiler ⟨(failing ⟨[error], none⟩).backend, [], .standard⟩)
        (.ofCompiler ⟨(failing ⟨[hint, error, hint], none⟩).backend, [], .standard⟩) calls
        (.ofDisk DriverProgram.sampleDisk) := by
  intro error calls
  obtain ⟨hbackends, hprograms⟩ :=
    Workbench.warnings_never_matter [] .standard calls (.ofDisk DriverProgram.sampleDisk)
  exact ⟨hbackends Eq _ _ (fun _ => rfl) echo_sameButWarnings,
    hprograms _ _ (failing_sameButWarnings ⟨rfl, rfl⟩)⟩

end Expansion
