import Expansion.Proofs.DriverProgram.Backend

/-!
# What a compilation makes of a program that ended

Nothing is assumed of the program here: it may end in any way, print any bytes and leave any disk
behind. What the compiler in front of it answers is settled by how the program ended, by what it
printed and by what is in the artifact then (`Ended`).

* A run that is no success comes to errors, whatever was printed (`interpret_of_failure`).
* A success has printed a report (`Prints`), or else it is a breach of the protocol.
* A report comes to errors or to the module of its catalog and of the artifact.
* **`compile_fail_safe`** is the whole table (`Settled`), and a module comes out of one row of it.
-/

namespace Expansion.DriverProgram

open Disk

variable {p : DriverProgram} {c : Compiler} {m after : Machine} {d start left : Disk}
variable {out : FilePath} {request : CompileRequest} {output : ProcessOutput} {report : Report}
variable {sources references : List FilePath} {flags : List String} {target : CompileTarget}

/-- For a request on a disk, the program was started with `out` for its artifact, and it ended with
an output and left a disk behind. -/
inductive Ended (p : DriverProgram) (request : CompileRequest) (d : Disk) (out : FilePath)
    (output : ProcessOutput) (left : Disk) : Prop
  | intro {start : Disk} : p.Stages request.target d out start →
      p.Passes (p.arguments ++ compileArguments out request) →
      p.runner p.program (p.arguments ++ compileArguments out request) start = (.ok output, left) →
      Ended p request d out output left

/-- What a program printed is a report. -/
structure Prints (output : ProcessOutput) (report : Report) : Prop where
  something : Text.isBlankText (Text.ofBytesLossy output.out) = false
  decodes : Json.decodeText Report.decode (Text.ofBytesLossy output.out) = .ok report

/-- What a failed program has to say for itself: what it printed for errors, without the blanks
around it, or else how it ended. -/
def lastWords (output : ProcessOutput) : String :=
  if (Text.trim (Text.ofBytesLossy output.err)).isEmpty then
    "compiler driver exited with " ++ output.status.describe
  else Text.trim (Text.ofBytesLossy output.err)

/-! ## Reading the output -/

theorem printedReport_ok_iff :
    printedReport output.out = .ok (some report) ↔ Prints output report := by
  unfold printedReport
  dsimp only
  cases hblank : Text.isBlankText (Text.ofBytesLossy output.out) with
  | true =>
      rw [if_pos rfl]
      constructor
      · intro h
        cases h
      · intro h
        cases hblank.symm.trans h.something
  | false =>
      rw [if_neg Bool.false_ne_true]
      constructor
      · intro h
        refine ⟨hblank, ?_⟩
        cases hdecode : Json.decodeText Report.decode (Text.ofBytesLossy output.out) with
        | ok printed =>
            rw [hdecode] at h
            cases h
            rfl
        | error fault =>
            rw [hdecode] at h
            cases h
      · intro h
        rw [h.decodes]
        rfl

theorem Prints.unique {other : Report} (h : Prints output report) (h' : Prints output other) :
    report = other :=
  Except.ok.inj (h.decodes.symm.trans h'.decodes)

theorem interpret_of_prints (hsuccess : output.status.isSuccess = true)
    (hprints : Prints output report) : interpret output = .ok report := by
  unfold interpret
  rw [if_pos hsuccess, printedReport_ok_iff.mpr hprints]

theorem interpret_of_blank (hsuccess : output.status.isSuccess = true)
    (hblank : Text.isBlankText (Text.ofBytesLossy output.out) = true) :
    interpret output = .error .noReport := by
  unfold interpret printedReport
  dsimp only
  rw [if_pos hsuccess, if_pos hblank]

theorem interpret_of_invalid {fault : Json.Fault} (hsuccess : output.status.isSuccess = true)
    (hsaid : Text.isBlankText (Text.ofBytesLossy output.out) = false)
    (hfault : Json.decodeText Report.decode (Text.ofBytesLossy output.out) = .error fault) :
    interpret output = .error (.invalidReport fault) := by
  unfold interpret printedReport
  dsimp only
  rw [if_pos hsuccess, if_neg (by simp [hsaid]), hfault]
  rfl

/-- If there is an error already, no other is made up. -/
theorem filter_withError (message : String) (diagnostics : List Diagnostic) :
    (withError message diagnostics).filter Diagnostic.isError =
      if diagnostics.filter Diagnostic.isError = [] then [Diagnostic.unlocated message]
      else diagnostics.filter Diagnostic.isError := by
  unfold withError
  cases herror : diagnostics.any Diagnostic.isError with
  | true =>
      obtain ⟨found, hfound, hgrave⟩ := List.any_eq_true.mp herror
      rw [if_pos rfl, if_neg]
      exact fun hnone => List.filter_eq_nil_iff.mp hnone found hfound hgrave
  | false =>
      have hnone : diagnostics.filter Diagnostic.isError = [] :=
        List.filter_eq_nil_iff.mpr (List.any_eq_false.mp herror)
      rw [if_neg Bool.false_ne_true, if_pos hnone, List.filter_append, hnone]
      rfl

theorem detail_eq (output : ProcessOutput) :
    detail "compiler driver exited with" output.err output.status = lastWords output := by
  have hwords : "compiler driver exited with" ++ " " = "compiler driver exited with " := by decide
  unfold detail lastWords
  rw [hwords]

/-- Whatever a failed program printed, it comes to a report without a catalog and with an error. The
errors are those that the program reported, or else its last words. -/
theorem interpret_of_failure (hfailure : output.status.isSuccess = false) :
    ∃ report, interpret output = .ok report ∧ report.catalog = none ∧
      report.diagnostics.any Diagnostic.isError = true ∧
      (∀ printed, Prints output printed → printed.diagnostics.filter Diagnostic.isError ≠ [] →
        report.diagnostics.filter Diagnostic.isError =
          printed.diagnostics.filter Diagnostic.isError) ∧
      ((∀ printed, Prints output printed → printed.diagnostics.filter Diagnostic.isError = []) →
        report.diagnostics.filter Diagnostic.isError =
          [Diagnostic.unlocated (lastWords output)]) := by
  -- What is believed of the output: the report that was printed, or one that says nothing.
  let believed := ((printedReport output.out).toOption.bind id).getD Report.empty
  have hbelieved : ∀ printed, Prints output printed → believed = printed := by
    intro printed hprints
    show ((printedReport output.out).toOption.bind id).getD Report.empty = printed
    rw [printedReport_ok_iff.mpr hprints]
    rfl
  have hunprinted : (∀ printed, ¬Prints output printed) → believed = Report.empty := by
    intro hnone
    show ((printedReport output.out).toOption.bind id).getD Report.empty = Report.empty
    cases hprinted : printedReport output.out with
    | error fault => rfl
    | ok report? =>
        cases report? with
        | none => rfl
        | some printed => exact absurd (printedReport_ok_iff.mp hprinted) (hnone printed)
  have hinterpret : interpret output = .ok
      { believed with
        diagnostics := withError (lastWords output) believed.diagnostics, catalog := none } := by
    unfold interpret
    rw [if_neg (by simp [hfailure]), detail_eq]
  have hfilter := filter_withError (lastWords output) believed.diagnostics
  refine ⟨_, hinterpret, rfl, ?_, ?_, ?_⟩
  · rw [← Bool.not_eq_false]
    intro hclean
    rw [List.filter_eq_nil_iff.mpr (List.any_eq_false.mp hclean)] at hfilter
    split at hfilter
    · cases hfilter
    · rename_i herrors
      exact herrors hfilter.symm
  · intro printed hprints herrors
    dsimp only
    rw [hfilter, hbelieved printed hprints, if_neg herrors]
  · intro hnone
    dsimp only
    rw [hfilter, if_pos]
    by_cases hprinted : ∃ printed, Prints output printed
    · obtain ⟨printed, hprints⟩ := hprinted
      rw [hbelieved printed hprints]
      exact hnone printed hprints
    · rw [hunprinted (not_exists.mp hprinted)]
      rfl

/-! ## From the output to the answer -/

/-- The compilation into an artifact is judged by the output. -/
theorem compileTo_of_run (hpass : p.Passes (p.arguments ++ compileArguments out request))
    (hrun : p.runner p.program (p.arguments ++ compileArguments out request) m.disk =
      (.ok output, left)) :
    p.compileTo out request m =
      match interpret output with
      | .ok report => p.accept out report { m with disk := left }
      | .error breach => (.error (.driver breach.message), { m with disk := left }) := by
  have hdone : p.run (compileArguments out request) m = (.ok output, { m with disk := left }) := by
    unfold run
    dsimp only
    rw [hpass]
    dsimp only
    rw [hrun]
  unfold compileTo
  rw [Act.bind_of_ok hdone]
  cases interpret output <;> rfl

/-! ## The whole table -/

/-- With an error among the diagnostics it makes no difference what else there is. -/
theorem accept_of_error (herrors : report.diagnostics.any Diagnostic.isError = true) :
    p.accept out report m = (.ok ⟨report.diagnostics, none⟩, m) := by
  cases hcatalog : report.catalog with
  | none => exact accept_of_no_catalog hcatalog
  | some catalog =>
      unfold accept
      rw [hcatalog]
      dsimp only
      rw [if_pos herrors]
      rfl

theorem accept_of_unreadable {catalog : Catalog} {e : Error}
    (hcatalog : report.catalog = some catalog)
    (hclean : report.diagnostics.any Diagnostic.isError = false)
    (hread : m.disk.readBytes out = .error e) :
    p.accept out report m = (.error (.driver ("driver reported success but artifact " ++ out.text
      ++ " is unreadable: " ++ e.message)), m) := by
  have hfail : readImage out m = (.error (.driver ("driver reported success but artifact "
      ++ out.text ++ " is unreadable: " ++ e.message)), m) := by
    unfold readImage
    rw [Act.bind_of_ok (Act.disk_apply m), hread]
    rfl
  unfold accept
  rw [hcatalog]
  dsimp only
  rw [if_neg (by simp [hclean]), Act.bind_of_error hfail]

/-- An answer of the backend comes from a program that ended. -/
theorem ended_of_backend {answer : CompileOutput}
    (h : p.backend request m = (.ok answer, after)) :
    ∃ out output left, p.Ended request m.disk out output left := by
  have hstaged : ∃ out start, p.Stages request.target m.disk out start := by
    cases htarget : request.target with
    | file q => exact ⟨q, m.disk, .file⟩
    | memory =>
        cases hmake : m.disk.makeDirectory (m.disk.freshScratch "typexpand-module-" "") with
        | ok made => exact ⟨_, made, .memory hmake⟩
        | error e =>
            unfold backend at h
            rw [htarget] at h
            dsimp only at h
            unfold Act.withScratchDirectory at h
            rw [Act.bind_of_ok (Act.disk_apply m),
              Act.bind_of_error (Act.onDisk_of_error hmake)] at h
            cases congrArg Prod.fst h
  obtain ⟨out, start, hstages⟩ := hstaged
  cases hdone : p.compileTo out request { m with disk := start } with
  | mk result judged =>
      obtain ⟨locate, final, -, hanswer, -⟩ := backend_of_stages hstages hdone
      rw [hanswer] at h
      cases result with
      | error failure => cases congrArg Prod.fst h
      | ok reported =>
          obtain ⟨output, ran, hrun, -⟩ := Act.bind_ok hdone
          unfold run at hrun
          dsimp only at hrun
          cases hpass : argumentFault? p.program (p.arguments ++ compileArguments out request) with
          | some e =>
              rw [hpass] at hrun
              cases congrArg Prod.fst hrun
          | none =>
              rw [hpass] at hrun
              dsimp only at hrun
              cases hend : p.runner p.program (p.arguments ++ compileArguments out request) start with
              | mk ended left =>
                  rw [hend] at hrun
                  cases ended with
                  | error e => cases congrArg Prod.fst hrun
                  | ok printed => exact ⟨out, printed, left, .intro hstages hpass hend⟩

/-- What is to be made of a program that ended with an output and left the artifact on a disk, row by
row. -/
structure Settled (output : ProcessOutput) (artifact : FilePath) (left : Disk)
    (result : Except Failure Module) : Prop where
  /-- A failed program comes to errors: those of its report, or else its last words. -/
  failed : output.status.isSuccess = false → ∃ errors, result = .error (.compilation errors) ∧
    errors ≠ [] ∧ (∀ e ∈ errors, e.isError = true) ∧
    (∀ report, Prints output report → report.diagnostics.filter Diagnostic.isError ≠ [] →
      errors = report.diagnostics.filter Diagnostic.isError) ∧
    ((∀ report, Prints output report → report.diagnostics.filter Diagnostic.isError = []) →
      errors = [Diagnostic.unlocated (lastWords output)])
  /-- A success has to print something, -/
  blank : output.status.isSuccess = true →
    Text.isBlankText (Text.ofBytesLossy output.out) = true →
    result = .error (.driver "driver printed no compile report")
  /-- and that has to be a report. -/
  invalid : ∀ fault, output.status.isSuccess = true →
    Text.isBlankText (Text.ofBytesLossy output.out) = false →
    Json.decodeText Report.decode (Text.ofBytesLossy output.out) = .error fault →
    result = .error (.driver ("invalid compile report: " ++ fault.message))
  /-- Errors in a report are the answer, -/
  errors : ∀ report, output.status.isSuccess = true → Prints output report →
    report.diagnostics.filter Diagnostic.isError ≠ [] →
    result = .error (.compilation (report.diagnostics.filter Diagnostic.isError))
  /-- and without errors there has to be a catalog, -/
  nothing : ∀ report, output.status.isSuccess = true → Prints output report →
    report.diagnostics.filter Diagnostic.isError = [] → report.catalog = none →
    result = .error (.compilationMessage "compiler reported no errors but produced no module")
  /-- and an artifact, -/
  unreadable : ∀ report catalog e, output.status.isSuccess = true → Prints output report →
    report.diagnostics.filter Diagnostic.isError = [] → report.catalog = some catalog →
    left.readBytes artifact = .error e →
    result = .error (.driver ("driver reported success but artifact " ++ artifact.text
      ++ " is unreadable: " ++ e.message))
  /-- and these make the module. -/
  compiled : ∀ report catalog image, output.status.isSuccess = true → Prints output report →
    report.diagnostics.filter Diagnostic.isError = [] → report.catalog = some catalog →
    left.readBytes artifact = .ok image →
    ∃ module, result = .ok module ∧ module.catalog = catalog ∧ module.image = image

/-- A module comes out of the last row only. -/
theorem Settled.of_ok {module : Module} (h : Settled output out left (.ok module)) :
    ∃ report, output.status.isSuccess = true ∧ Prints output report ∧
      report.diagnostics.filter Diagnostic.isError = [] ∧
      report.catalog = some module.catalog ∧ left.readBytes out = .ok module.image := by
  have hsuccess : output.status.isSuccess = true := by
    rw [← Bool.not_eq_false]
    intro hfailure
    obtain ⟨errors, herrors, -⟩ := h.failed hfailure
    cases herrors
  have hsaid : Text.isBlankText (Text.ofBytesLossy output.out) = false := by
    rw [← Bool.not_eq_true]
    intro hnothing
    cases h.blank hsuccess hnothing
  cases hdecode : Json.decodeText Report.decode (Text.ofBytesLossy output.out) with
  | error fault => cases h.invalid fault hsuccess hsaid hdecode
  | ok report =>
      have hprints : Prints output report := ⟨hsaid, hdecode⟩
      have hclean : report.diagnostics.filter Diagnostic.isError = [] := by
        by_contra hgrave
        cases h.errors report hsuccess hprints hgrave
      cases hcatalog : report.catalog with
      | none => cases h.nothing report hsuccess hprints hclean hcatalog
      | some catalog =>
          cases hread : left.readBytes out with
          | error e => cases h.unreadable report catalog e hsuccess hprints hclean hcatalog hread
          | ok image =>
              obtain ⟨made, hmade, rfl, rfl⟩ :=
                h.compiled report catalog image hsuccess hprints hclean hcatalog hread
              cases hmade
              exact ⟨report, hsuccess, hprints, hclean, hcatalog, rfl⟩

/-- The answer of the compiler is settled when the program has ended. -/
theorem settled_of_ended (hbackend : c.backend = p.backend)
    (hended : p.Ended (c.requestOf sources references flags target) m.disk out output left) :
    Settled output out left (c.compile sources references flags target m).1 := by
  obtain ⟨hstages, hpass, hrun⟩ := hended
  have hdone := compileTo_of_run
    (m := { Compiler.sent (c.requestOf sources references flags target) m with disk := _ })
    hpass hrun
  have hgrave : ∀ {diagnostics : List Diagnostic}, diagnostics.filter Diagnostic.isError ≠ [] →
      diagnostics.any Diagnostic.isError = true := by
    intro diagnostics herrors
    rw [← Bool.not_eq_false]
    intro hclean
    exact herrors (List.filter_eq_nil_iff.mpr (List.any_eq_false.mp hclean))
  have hclean : ∀ {diagnostics : List Diagnostic}, diagnostics.filter Diagnostic.isError = [] →
      diagnostics.any Diagnostic.isError = false := by
    intro diagnostics hnone
    exact List.any_eq_false.mpr (List.filter_eq_nil_iff.mp hnone)
  constructor
  case failed =>
    intro hfailure
    obtain ⟨believed, hinterpret, -, herror, hreported, hsilent⟩ := interpret_of_failure hfailure
    rw [hinterpret] at hdone
    have hanswer := compile_of_errors hbackend hstages (hdone.trans (accept_of_error herror)) herror
    refine ⟨_, hanswer, ?_, ?_, hreported, hsilent⟩
    · obtain ⟨found, hfound, hfatal⟩ := List.any_eq_true.mp herror
      exact List.ne_nil_of_mem (List.mem_filter.mpr ⟨hfound, hfatal⟩)
    · intro e he
      exact (List.mem_filter.mp he).2
  case blank =>
    intro hsuccess hblank
    rw [interpret_of_blank hsuccess hblank] at hdone
    exact compile_of_breach hbackend hstages hdone
  case invalid =>
    intro fault hsuccess hsaid hfault
    rw [interpret_of_invalid hsuccess hsaid hfault] at hdone
    exact compile_of_breach hbackend hstages hdone
  case errors =>
    intro report hsuccess hprints herrors
    rw [interpret_of_prints hsuccess hprints] at hdone
    have haccept := hdone.trans (accept_of_error (hgrave herrors))
    exact compile_of_errors hbackend hstages haccept (hgrave herrors)
  case nothing =>
    intro report hsuccess hprints hnone hcatalog
    rw [interpret_of_prints hsuccess hprints] at hdone
    have haccept := hdone.trans (accept_of_no_catalog hcatalog)
    exact compile_of_no_module hbackend hstages haccept (hclean hnone)
  case unreadable =>
    intro report catalog e hsuccess hprints hnone hcatalog hread
    rw [interpret_of_prints hsuccess hprints] at hdone
    have haccept := hdone.trans (accept_of_unreadable hcatalog (hclean hnone) hread)
    exact compile_of_breach hbackend hstages haccept
  case compiled =>
    intro report catalog image hsuccess hprints hnone hcatalog hread
    rw [interpret_of_prints hsuccess hprints] at hdone
    have haccept := hdone.trans (accept_of_clean hcatalog (hclean hnone) hread)
    obtain ⟨location, hanswer⟩ := compile_of_module hbackend hstages haccept (hclean hnone) hread
    have hmodule := (isModule_load p out catalog image).relocate location
    exact ⟨_, hanswer, hmodule.catalog_eq, hmodule.image⟩

/-- **A compilation is fail-safe.** A module is handed out only when the program ended with success,
printed a report with a catalog and without errors, and left an artifact that can be read; the module
has this catalog and these bytes. Whenever the program ended, the table settles the answer. -/
theorem compile_fail_safe (sources references : List FilePath) (flags : List String)
    (target : CompileTarget) (m : Machine) (hbackend : c.backend = p.backend) :
    (∀ module, (c.compile sources references flags target m).1 = .ok module →
      ∃ out output left report,
        p.Ended (c.requestOf sources references flags target) m.disk out output left ∧
        output.status.isSuccess = true ∧ Prints output report ∧
        report.diagnostics.filter Diagnostic.isError = [] ∧
        report.catalog = some module.catalog ∧ left.readBytes out = .ok module.image) ∧
    ∀ out output left,
      p.Ended (c.requestOf sources references flags target) m.disk out output left →
      Settled output out left (c.compile sources references flags target m).1 := by
  refine ⟨fun module hmodule => ?_, fun out output left hended => settled_of_ended hbackend hended⟩
  have hcompile : c.compile sources references flags target m = (.ok module, _) :=
    Prod.ext hmodule rfl
  rw [Compiler.compile_apply, hbackend] at hcompile
  obtain ⟨answer, judged, hanswer, -⟩ := Act.bind_ok hcompile
  obtain ⟨out, output, left, hended⟩ := ended_of_backend hanswer
  have hsettled := settled_of_ended (m := m) hbackend hended
  rw [hmodule] at hsettled
  obtain ⟨report, hsuccess, hprints, hclean, hcatalog, hread⟩ := hsettled.of_ok
  exact ⟨out, output, left, report, hended, hsuccess, hprints, hclean, hcatalog, hread⟩

/-! ## A program that is killed -/

/-- A report with a catalog and without errors. -/
def earlyReport : Report := { Report.empty with catalog := some ⟨[], []⟩ }

/-- The output of a program that is killed when it has already printed that report. -/
def killedOutput : ProcessOutput where
  status := .signal 9
  out := (earlyReport.encode.compact ++ "\n").toUTF8
  err := " out of memory\n".toUTF8

/-- A program that is always killed. -/
def killedProgram : DriverProgram where
  runner := fun _ _ d => (.ok killedOutput, d)
  program := ⟨"/killed"⟩
  arguments := []
  artifactExtension := "lib"

theorem killedOutput_prints : Prints killedOutput earlyReport where
  something := by
    unfold killedOutput
    rw [Text.ofBytesLossy_toUTF8]
    decide
  decodes := by
    unfold killedOutput
    rw [Text.ofBytesLossy_toUTF8, Report.decodeText_compact]

theorem lastWords_killedOutput : lastWords killedOutput = "out of memory" := by
  unfold lastWords killedOutput
  dsimp only
  rw [Text.ofBytesLossy_toUTF8]
  decide

/-- The early report does not help: all that is heard are the program's last words. -/
theorem compile_of_killed :
    (Compiler.compile ⟨killedProgram.backend, [], .standard⟩ [] [] [] (.file ⟨"/m.lib"⟩)
      (.ofDisk sampleDisk)).1 =
        .error (.compilation [Diagnostic.unlocated "out of memory"]) := by
  have hended : killedProgram.Ended
      (Compiler.requestOf ⟨killedProgram.backend, [], .standard⟩ [] [] [] (.file ⟨"/m.lib"⟩))
      sampleDisk ⟨"/m.lib"⟩ killedOutput sampleDisk :=
    .intro .file (by decide) rfl
  have hsettled := (compile_fail_safe (p := killedProgram)
    (c := ⟨killedProgram.backend, [], .standard⟩) [] [] [] (.file ⟨"/m.lib"⟩)
    (.ofDisk sampleDisk) rfl).2 _ _ _ hended
  obtain ⟨errors, hanswer, -, -, -, hwords⟩ := hsettled.failed rfl
  have hsilent : ∀ report, Prints killedOutput report →
      report.diagnostics.filter Diagnostic.isError = [] := by
    intro report hprints
    rw [hprints.unique killedOutput_prints]
    rfl
  rw [hanswer, hwords hsilent, lastWords_killedOutput]

end Expansion.DriverProgram
