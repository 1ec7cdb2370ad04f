import Expansion.DriverProgram.Backend
import Expansion.Proofs.Catalog.CompiledModule
import Expansion.Proofs.Compiler.Compile
import Expansion.Proofs.DriverProgram.Protocol
import Expansion.Proofs.Machine.Restore

/-!
# Compiling outlines with a program

A driver program that is the compiler of outlines (`RunsOutlines`) makes of a request what
`Outline.compile` makes of it, and of a call what `Outline.invoke` makes of it: nothing is lost on
the way through arguments, printed reports, exit statuses, artifacts and scratch files.

* What a compilation needs of the disk is a place for its artifact (`Stages`), and what a call needs
  is a scratch file (`CanCall`).
* **`compile_of_outlines`**: the compiler in front of the program fails with the errors that
  `Outline.compile` reports, or hands out a module with its catalog and its artifact.
* **`entry_of_outlines`**: the entry points of that module answer what `Outline.invoke` does.
-/

namespace Expansion

open Disk Outline

/-! ## Judging an answer -/

namespace Compiler

/-- Warnings are logged, and that is all that becomes of them. -/
theorem forM_discard (warnings : List Diagnostic) (m : Machine) :
    ∃ after, (warnings.forM discard : Act PUnit) m = (.ok (), after) ∧ after.disk = m.disk :=
  Act.forM_of_ok (f := discard) (fun _ _ => ⟨_, rfl, rfl⟩) warnings m

/-- Errors fail the compilation, all of them and nothing else. -/
theorem settle_of_errors (target : CompileTarget) {output : CompileOutput} (m : Machine)
    (h : output.diagnostics.any Diagnostic.isError = true) :
    (settle target output m).1 =
      .error (.compilation (output.diagnostics.filter Diagnostic.isError)) := by
  obtain ⟨after, hwarnings, -⟩ :=
    forM_discard (output.diagnostics.filter fun d => !d.isError) m
  unfold settle
  rw [Act.bind_of_ok hwarnings]
  cases herrors : output.diagnostics.filter Diagnostic.isError with
  | nil =>
      obtain ⟨d, hd, herror⟩ := List.any_eq_true.mp h
      exact absurd herror (List.filter_eq_nil_iff.mp herrors d hd)
  | cons first others => rfl

/-- Without errors the module is judged. -/
theorem settle_of_clean (target : CompileTarget) (output : CompileOutput) (m : Machine)
    (h : output.diagnostics.any Diagnostic.isError = false) :
    ∃ after, after.disk = m.disk ∧
      settle target output m = accept target output.module? after := by
  obtain ⟨after, hwarnings, hdisk⟩ :=
    forM_discard (output.diagnostics.filter fun d => !d.isError) m
  have hnone : output.diagnostics.filter Diagnostic.isError = [] :=
    List.filter_eq_nil_iff.mpr (List.any_eq_false.mp h)
  refine ⟨after, hdisk, ?_⟩
  unfold settle
  rw [Act.bind_of_ok hwarnings, hnone]

/-- A module is accepted if it is for the caller alone, or if its file is there. -/
theorem accept_of_isFile {target : CompileTarget} {m : Machine}
    (hfile : ∀ q, target = .file q → m.disk.isFile q = true) (module : Module) :
    ∃ location, accept target (some module) m = (.ok { module with location := location }, m) := by
  cases target with
  | memory => exact ⟨module.location, rfl⟩
  | file q =>
      unfold accept
      dsimp only
      rw [Act.bind_of_ok (Act.disk_apply m), if_pos (hfile q rfl)]
      split
      · exact ⟨module.location, rfl⟩
      · exact ⟨some q, rfl⟩

end Compiler

namespace DriverProgram

variable {p : DriverProgram} {c : Compiler} {m n after : Machine} {d start left : Disk}
variable {out : FilePath}
variable {request : CompileRequest} {report : Report} {image : ByteArray} {module : Module}
variable {catalog : Catalog} {arguments flags : List String} {sources references : List FilePath}
variable {target : CompileTarget}

/-! ## Running the program -/

/-- The program has no arguments of its own, and on the disk, and on each that comes of it without a
change to what is there, it does what the compiler of outlines does. -/
structure RunsOutlines (p : DriverProgram) (d : Disk) : Prop where
  plain : p.arguments = []
  runs : ∀ d' arguments, Keeps nowhere d d' → p.runner p.program arguments d' =
    (.ok (runProgram arguments d').1, (runProgram arguments d').2)

/-- Whether arguments can be passed to the program. -/
def Passes (p : DriverProgram) (arguments : List String) : Prop :=
  argumentFault? p.program arguments = none

instance (p : DriverProgram) (arguments : List String) : Decidable (p.Passes arguments) :=
  inferInstanceAs (Decidable (_ = _))

/-- The path of the artifact of a compilation in memory, in a new scratch directory. -/
def modulePath (p : DriverProgram) (d : Disk) : FilePath :=
  (d.freshScratch "typexpand-module-" "").child ("module." ++ p.artifactExtension)

/-- Where a compilation starts the program, and what it names as the artifact. -/
inductive Stages (p : DriverProgram) : CompileTarget → Disk → FilePath → Disk → Prop
  | memory {d start : Disk} :
      d.makeDirectory (d.freshScratch "typexpand-module-" "") = .ok start →
      Stages p .memory d (p.modulePath d) start
  | file {d : Disk} {q : FilePath} : Stages p (.file q) d q d

/-- The path of a call's scratch file. -/
def callPath (p : DriverProgram) (d : Disk) : FilePath :=
  d.freshScratch "typexpand-invoke-" ("." ++ p.artifactExtension)

/-- Whether a call's scratch file can be made: nothing has its path, and the image can be written
there. -/
def CanCall (p : DriverProgram) (image : ByteArray) (d : Disk) : Prop :=
  d.isTaken (p.callPath d) = false ∧ ∃ d', d.writeFile (p.callPath d) image = .ok d'

theorem run_of_outlines (hruns : p.RunsOutlines d) (hkeeps : Keeps nowhere d m.disk)
    (hpass : p.Passes arguments) :
    p.run arguments m =
      (.ok (runProgram arguments m.disk).1, { m with disk := (runProgram arguments m.disk).2 }) := by
  unfold run
  rw [hruns.plain, List.nil_append]
  dsimp only
  rw [hpass]
  dsimp only
  rw [hruns.runs m.disk arguments hkeeps]

/-! ## Compiling -/

theorem compileTo_of_outlines (hruns : p.RunsOutlines d) (hkeeps : Keeps nowhere d m.disk)
    (hpass : p.Passes (compileArguments out request))
    (hstub : Outline.compile m.disk ⟨out, request.references, request.flags, request.sources⟩ =
      .ok (report, left)) :
    p.compileTo out request m = p.accept out report { m with disk := left } := by
  obtain ⟨hreport, hleft⟩ := interpret_compile hstub
  unfold compileTo
  rw [Act.bind_of_ok (run_of_outlines hruns hkeeps hpass), hreport, hleft]

/-- A report without a catalog comes to no module. -/
theorem accept_of_no_catalog (hcatalog : report.catalog = none) :
    p.accept out report m = (.ok ⟨report.diagnostics, none⟩, m) := by
  unfold accept
  rw [hcatalog]
  rfl

/-- A report without errors comes to the module of its catalog and of what is in the artifact. -/
theorem accept_of_clean (hcatalog : report.catalog = some catalog)
    (hclean : report.diagnostics.any Diagnostic.isError = false)
    (hread : m.disk.readBytes out = .ok image) :
    p.accept out report m = (.ok ⟨report.diagnostics, some (p.load out catalog image)⟩, m) := by
  have himage : readImage out m = (.ok image, m) := by
    unfold readImage
    rw [Act.bind_of_ok (Act.disk_apply m), hread]
    rfl
  unfold accept
  rw [hcatalog]
  dsimp only
  rw [if_neg (by simp [hclean]), Act.bind_of_ok himage]
  rfl

/-- A module of the program: it declares what the catalog does, and every function calls the program
on the image. -/
structure IsModule (p : DriverProgram) (catalog : Catalog) (image : ByteArray) (module : Module) :
    Prop where
  types : module.types = catalog.types
  functions : module.functions = catalog.functions.map fun f => (f, p.entry image f)
  image : module.image = image

theorem IsModule.catalog_eq (h : p.IsModule catalog image module) : module.catalog = catalog := by
  have hfunctions : module.functions.map Prod.fst = catalog.functions := by
    rw [h.functions, List.map_map]
    exact List.map_id catalog.functions
  unfold CompiledModule.catalog
  rw [h.types, hfunctions]

/-- Where the module is does not matter. -/
theorem IsModule.relocate (h : p.IsModule catalog image module) (location : Option FilePath) :
    p.IsModule catalog image { module with location := location } :=
  ⟨h.types, h.functions, h.image⟩

theorem isModule_load (p : DriverProgram) (out : FilePath) (catalog : Catalog)
    (image : ByteArray) : p.IsModule catalog image (p.load out catalog image) := by
  unfold load
  rw [CompiledModule.ofCatalog_eq]
  exact ⟨rfl, rfl, rfl⟩

/-- A module has the name of its artifact. -/
theorem load_name (p : DriverProgram) (out : FilePath) (catalog : Catalog) (image : ByteArray) :
    (p.load out catalog image).name = out.stem?.getD "module" := by
  unfold load
  rw [CompiledModule.ofCatalog_eq]

/-- A module that comes of a report is the one of its catalog and of an image. -/
theorem load_of_accept {output : CompileOutput} (h : p.accept out report m = (.ok output, after))
    (hmodule : output.module? = some module) : ∃ catalog image, module = p.load out catalog image := by
  unfold accept at h
  cases hcatalog : report.catalog with
  | none =>
      rw [hcatalog] at h
      cases h
      cases hmodule
  | some catalog =>
      rw [hcatalog] at h
      dsimp only at h
      cases herror : report.diagnostics.any Diagnostic.isError with
      | true =>
          rw [herror, if_pos rfl] at h
          cases h
          cases hmodule
      | false =>
          rw [herror, if_neg Bool.false_ne_true] at h
          obtain ⟨image, between, -, hpure⟩ := Act.bind_ok h
          cases hpure
          cases hmodule
          exact ⟨catalog, image, rfl⟩

theorem load_of_compileTo {output : CompileOutput}
    (h : p.compileTo out request m = (.ok output, after))
    (hmodule : output.module? = some module) : ∃ catalog image, module = p.load out catalog image := by
  obtain ⟨printed, between, -, h⟩ := Act.bind_ok h
  cases hreport : interpret printed with
  | error breach =>
      rw [hreport] at h
      cases h
  | ok report =>
      rw [hreport] at h
      exact load_of_accept h hmodule

/-- A module that is compiled to a file is loaded from that file, and is there. -/
theorem load_of_backend {output : CompileOutput} {q : FilePath} (htarget : request.target = .file q)
    (h : p.backend request m = (.ok output, after)) (hmodule : output.module? = some module) :
    ∃ catalog image, module = (p.load q catalog image).locatedAt q := by
  unfold backend at h
  rw [htarget] at h
  obtain ⟨answer, between, hdone, hpure⟩ := Act.bind_ok h
  cases hpure
  obtain ⟨compiled, hcompiled, rfl⟩ := Option.map_eq_some_iff.mp hmodule
  obtain ⟨catalog, image, rfl⟩ := load_of_compileTo hdone hcompiled
  exact ⟨catalog, image, rfl⟩

/-- A module that the backend answers calls the program for each of its functions. -/
theorem isModule_of_backend {output : CompileOutput} (h : p.backend request m = (.ok output, after))
    (hmodule : output.module? = some module) : ∃ catalog image, p.IsModule catalog image module := by
  cases htarget : request.target with
  | memory =>
      unfold backend at h
      rw [htarget] at h
      obtain ⟨made, done, -, hwork, -⟩ := Act.withScratchDirectory_ok h
      obtain ⟨catalog, image, rfl⟩ := load_of_compileTo hwork hmodule
      exact ⟨catalog, image, isModule_load p _ catalog image⟩
  | file q =>
      obtain ⟨catalog, image, rfl⟩ := load_of_backend htarget h hmodule
      exact ⟨catalog, image, (isModule_load p q catalog image).relocate (some q)⟩

/-- What becomes of a compilation that reports: with errors there is no module, and without them the
module of the report and of the artifact that has been written. -/
theorem compileTo_reported (hruns : p.RunsOutlines d) (hkeeps : Keeps nowhere d m.disk)
    (hpass : p.Passes (compileArguments out request))
    (hstub : Outline.compile m.disk ⟨out, request.references, request.flags, request.sources⟩ =
      .ok (report, left)) :
    ∃ module?, p.compileTo out request m =
        (.ok ⟨report.diagnostics, module?⟩, { m with disk := left }) ∧
      (report.diagnostics.any Diagnostic.isError = false → ∃ catalog image module,
        report.catalog = some catalog ∧ left.readBytes out = .ok image ∧
        module? = some module ∧ p.IsModule catalog image module) := by
  rw [compileTo_of_outlines hruns hkeeps hpass hstub]
  rcases compile_cases hstub with ⟨herrors, hnone, -⟩ | ⟨hclean, hcatalog, hwrite⟩
  · refine ⟨none, accept_of_no_catalog hnone, fun hclean => ?_⟩
    rw [herrors] at hclean
    cases hclean
  · obtain ⟨place, runnable, -, hfind, -⟩ := writeFile_ok hwrite
    have hread := readBytes_of_find hfind
    exact ⟨_, accept_of_clean hcatalog hclean hread,
      fun _ => ⟨_, _, _, hcatalog, hread, rfl, isModule_load p out _ _⟩⟩

/-- What the backend answers is what comes of the compilation into the artifact, with the place of a
module that is written to a file. A file that was asked for is still as the compilation left it. -/
theorem backend_of_stages {result : Except Failure CompileOutput}
    (hstages : p.Stages request.target m.disk out start)
    (hdone : p.compileTo out request { m with disk := start } = (result, after)) :
    ∃ locate : Module → Module, ∃ final,
      (∀ module, ∃ location, locate module = { module with location := location }) ∧
      p.backend request m =
        (result.map fun o => { o with module? := o.module?.map locate }, final) ∧
      ∀ q, request.target = .file q → q = out ∧ final.disk = after.disk := by
  generalize htarget : request.target = target at hstages
  unfold backend
  rw [htarget]
  cases hstages with
  | memory hmake =>
      have hfirst := Act.withScratchDirectory_fst hmake fun directory =>
        p.compileTo (directory.child ("module." ++ p.artifactExtension)) request
      refine ⟨id, (Act.withScratchDirectory _ _ m).2, fun module => ⟨module.location, rfl⟩,
        Prod.ext (hfirst.trans ((congrArg Prod.fst hdone).trans ?_)) rfl, ?_⟩
      · cases result with
        | ok output => simp [Except.map]
        | error failure => rfl
      · intro q h
        cases h
  | file =>
      refine ⟨fun module => module.locatedAt out, after, fun module => ⟨some out, rfl⟩, ?_, ?_⟩
      · cases result with
        | ok output => exact Act.bind_of_ok hdone
        | error failure => exact Act.bind_of_error hdone
      · intro q h
        injection h with h
        exact ⟨h.symm, rfl⟩

/-- A compiler fails as its backend does. -/
theorem compile_of_breach {failure : Failure} (hbackend : c.backend = p.backend)
    (hstages : p.Stages target m.disk out start)
    (hdone : p.compileTo out (c.requestOf sources references flags target)
      { Compiler.sent (c.requestOf sources references flags target) m with disk := start } =
        (.error failure, after)) :
    (c.compile sources references flags target m).1 = .error failure := by
  obtain ⟨locate, final, -, hanswer, -⟩ := backend_of_stages
    (m := Compiler.sent (c.requestOf sources references flags target) m) hstages hdone
  rw [Compiler.compile_apply, hbackend, Act.bind_of_error hanswer]

/-- Errors fail the compilation, all of them and nothing else. -/
theorem compile_of_errors {answer : CompileOutput} (hbackend : c.backend = p.backend)
    (hstages : p.Stages target m.disk out start)
    (hdone : p.compileTo out (c.requestOf sources references flags target)
      { Compiler.sent (c.requestOf sources references flags target) m with disk := start } =
        (.ok answer, after))
    (herrors : answer.diagnostics.any Diagnostic.isError = true) :
    (c.compile sources references flags target m).1 =
      .error (.compilation (answer.diagnostics.filter Diagnostic.isError)) := by
  obtain ⟨locate, final, -, hanswer, -⟩ := backend_of_stages
    (m := Compiler.sent (c.requestOf sources references flags target) m) hstages hdone
  rw [Compiler.compile_apply, hbackend, Act.bind_of_ok hanswer]
  exact Compiler.settle_of_errors target _ herrors

/-- Without errors and without a module the compilation fails all the same. -/
theorem compile_of_no_module {diagnostics : List Diagnostic} (hbackend : c.backend = p.backend)
    (hstages : p.Stages target m.disk out start)
    (hdone : p.compileTo out (c.requestOf sources references flags target)
      { Compiler.sent (c.requestOf sources references flags target) m with disk := start } =
        (.ok ⟨diagnostics, none⟩, after))
    (hclean : diagnostics.any Diagnostic.isError = false) :
    (c.compile sources references flags target m).1 =
      .error (.compilationMessage "compiler reported no errors but produced no module") := by
  obtain ⟨locate, final, -, hanswer, -⟩ := backend_of_stages
    (m := Compiler.sent (c.requestOf sources references flags target) m) hstages hdone
  obtain ⟨judged, -, hsettle⟩ :=
    Compiler.settle_of_clean target ⟨diagnostics, none⟩ final hclean
  rw [Compiler.compile_apply, hbackend, Act.bind_of_ok hanswer]
  exact congrArg Prod.fst hsettle

/-- A module is handed out, wherever it is, if its artifact can be read in the end. -/
theorem compile_of_module {diagnostics : List Diagnostic} {module : Module} {image : ByteArray}
    (hbackend : c.backend = p.backend) (hstages : p.Stages target m.disk out start)
    (hdone : p.compileTo out (c.requestOf sources references flags target)
      { Compiler.sent (c.requestOf sources references flags target) m with disk := start } =
        (.ok ⟨diagnostics, some module⟩, after))
    (hclean : diagnostics.any Diagnostic.isError = false)
    (hread : after.disk.readBytes out = .ok image) :
    ∃ location, (c.compile sources references flags target m).1 =
      .ok { module with location := location } := by
  obtain ⟨locate, final, hlocate, hanswer, hfinal⟩ := backend_of_stages
    (m := Compiler.sent (c.requestOf sources references flags target) m) hstages hdone
  obtain ⟨judged, hdisk, hsettle⟩ :=
    Compiler.settle_of_clean target ⟨diagnostics, some (locate module)⟩ final hclean
  obtain ⟨place, runnable, hfind⟩ := find_of_readBytes hread
  have hfile : ∀ q, target = .file q → judged.disk.isFile q = true := by
    intro q hq
    obtain ⟨rfl, hsame⟩ := hfinal q hq
    unfold isFile
    rw [hdisk, hsame, hfind]
  obtain ⟨location, haccept⟩ := Compiler.accept_of_isFile hfile (locate module)
  obtain ⟨earlier, hlocated⟩ := hlocate module
  rw [Compiler.compile_apply, hbackend, Act.bind_of_ok hanswer]
  refine ⟨location, (congrArg Prod.fst hsettle).trans ?_⟩
  rw [haccept, hlocated]

/-- What a compiler makes of a request, given what the compiler of outlines makes of it: it fails
with the errors of the report, or hands out the module of the report's catalog and of the artifact
that has been written. -/
theorem compile_of_outlines (hbackend : c.backend = p.backend) (hruns : p.RunsOutlines m.disk)
    (hstages : p.Stages target m.disk out start)
    (hpass : p.Passes (compileArguments out (c.requestOf sources references flags target)))
    (hstub : Outline.compile start
      ⟨out, Compiler.mergeReferences c.baseline references, flags, sources⟩ = .ok (report, left)) :
    (report.diagnostics.filter Diagnostic.isError ≠ [] →
      (c.compile sources references flags target m).1 =
        .error (.compilation (report.diagnostics.filter Diagnostic.isError))) ∧
    (report.diagnostics.filter Diagnostic.isError = [] → ∃ catalog image module,
      report.catalog = some catalog ∧ left.readBytes out = .ok image ∧
      (c.compile sources references flags target m).1 = .ok module ∧
      p.IsModule catalog image module) := by
  have hkeeps : Keeps nowhere m.disk start := by
    cases hstages with
    | memory hmake => exact makeDirectory_keeps hmake
    | file => exact .refl _ _
  obtain ⟨module?, hdone, hmodule⟩ := compileTo_reported
    (m := { Compiler.sent (c.requestOf sources references flags target) m with disk := start })
    hruns hkeeps hpass hstub
  refine ⟨fun herrors => ?_, fun hnone => ?_⟩
  · have hany : report.diagnostics.any Diagnostic.isError = true := by
      rw [← Bool.not_eq_false]
      intro hclean
      exact herrors (List.filter_eq_nil_iff.mpr (List.any_eq_false.mp hclean))
    exact compile_of_errors hbackend hstages hdone hany
  · have hclean := List.any_eq_false.mpr (List.filter_eq_nil_iff.mp hnone)
    obtain ⟨catalog, image, module, hcatalog, hread, rfl, hload⟩ := hmodule hclean
    obtain ⟨location, hanswer⟩ := compile_of_module hbackend hstages hdone hclean hread
    exact ⟨catalog, image, _, hcatalog, hread, hanswer, hload.relocate location⟩

/-! ## Calling -/

/-- A call of a function answers what the bytes of the image make of it. -/
theorem entry_of_outlines (hruns : p.RunsOutlines n.disk) (hcan : p.CanCall image n.disk)
    (f : FunctionInfo) (type : TypeInfo)
    (hpass : p.Passes (invokeArguments (p.callPath n.disk) f.fullName type.fullName)) :
    (p.entry image f [.typeDescriptor type] n).1 =
        (answerOf (callImage image f.fullName type.fullName)).map Value.string ∧
      (n.disk.IsTree → (p.entry image f [.typeDescriptor type] n).2.disk = n.disk) := by
  obtain ⟨hfree, written, hwrite⟩ := hcan
  obtain ⟨place, runnable, -, hfind, -⟩ := writeFile_ok hwrite
  have hrun := run_of_outlines (m := { n with disk := written }) hruns
    (keeps_of_untaken hfree hwrite) hpass
  obtain ⟨hanswer, hsame⟩ :=
    interpretCall_invoke written (p.callPath n.disk) f.fullName type.fullName
  rw [invoke_of_readBytes (readBytes_of_find hfind)] at hanswer
  obtain ⟨hfirst, hrestores⟩ := Act.withScratchFile_of_untaken hfree hwrite
    fun artifact => p.run (invokeArguments artifact f.fullName type.fullName)
  have hcall : (p.call image f.fullName type.fullName n).1 =
      .ok (runProgram (invokeArguments (p.callPath n.disk) f.fullName type.fullName) written).1 :=
    hfirst.trans (congrArg Prod.fst hrun)
  have hdisk : n.disk.IsTree → (p.call image f.fullName type.fullName n).2.disk = n.disk :=
    fun htree => hrestores htree ((congrArg (Machine.disk ∘ Prod.snd) hrun).trans hsame)
  unfold entry
  dsimp only
  cases hdone : p.call image f.fullName type.fullName n with
  | mk result after =>
      rw [hdone] at hcall hdisk
      obtain rfl : result = _ := hcall
      exact ⟨congrArg (Except.map Value.string) hanswer, hdisk⟩

/-! ## The boundary cannot be seen -/

/-- **A compiler that runs the program does what the compiler of outlines does.** It fails with the
errors of the report, in order and unchanged, or hands out a module with the catalog of the report
and the artifact that was written. A function of that module answers for a type what a call of the
artifact answers, whatever file the artifact is in, and the words of a fault are trimmed. -/
theorem compile_transparent (sources references : List FilePath) (flags : List String)
    (target : CompileTarget) (hbackend : c.backend = p.backend) (hruns : p.RunsOutlines m.disk)
    (hstages : p.Stages target m.disk out start)
    (hpass : p.Passes (compileArguments out (c.requestOf sources references flags target)))
    (hstub : Outline.compile start
      ⟨out, Compiler.mergeReferences c.baseline references, flags, sources⟩ = .ok (report, left)) :
    (report.diagnostics.filter Diagnostic.isError ≠ [] →
      (c.compile sources references flags target m).1 =
        .error (.compilation (report.diagnostics.filter Diagnostic.isError))) ∧
    (report.diagnostics.filter Diagnostic.isError = [] → ∃ module,
      (c.compile sources references flags target m).1 = .ok module ∧
      report.catalog = some module.catalog ∧ left.readBytes out = .ok module.image ∧
      ∀ f ∈ module.functions, ∀ (type : TypeInfo) (n : Machine), p.RunsOutlines n.disk →
        p.CanCall module.image n.disk →
        p.Passes (invokeArguments (p.callPath n.disk) f.1.fullName type.fullName) →
        ∀ d artifact, d.readBytes artifact = .ok module.image →
          (f.2 [.typeDescriptor type] n).1 =
            (answerOf (invoke d ⟨artifact, f.1.fullName, type.fullName⟩)).map Value.string) := by
  obtain ⟨hfails, hcompiles⟩ := compile_of_outlines hbackend hruns hstages hpass hstub
  refine ⟨hfails, fun hnone => ?_⟩
  obtain ⟨catalog, image, module, hcatalog, hread, hdone, hmodule⟩ := hcompiles hnone
  refine ⟨module, hdone, ?_, ?_, ?_⟩
  · rw [hmodule.catalog_eq, hcatalog]
  · rw [hmodule.image, hread]
  · intro f hf type n hruns hcan hpass d artifact hartifact
    rw [hmodule.functions] at hf
    obtain ⟨info, -, rfl⟩ := List.mem_map.mp hf
    rw [hmodule.image] at hcan hartifact
    rw [invoke_of_readBytes hartifact]
    exact (entry_of_outlines hruns hcan info type hpass).1

/-! ## A disk to try it on -/

/-- The program on machines that run nothing else. -/
def outlineProgram : DriverProgram where
  runner := fun _ arguments d => (.ok (runProgram arguments d).1, (runProgram arguments d).2)
  program := ⟨"/outline"⟩
  arguments := []
  artifactExtension := "lib"

theorem outlineProgram_runs (d : Disk) : outlineProgram.RunsOutlines d := ⟨rfl, fun _ _ _ => rfl⟩

/-- A compiler in front of the program. -/
def sampleCompiler : Compiler := ⟨outlineProgram.backend, [], .standard⟩

/-- An outline of one type and one expander. -/
def sampleText : String := "type T A\nexpander g A = x"

/-- A disk with the outline and a scratch directory. -/
def sampleDisk : Disk where
  entries := [(["tmp"], .directory), (["a"], .file sampleText.toUTF8 false)]
  home := []
  scratch := ⟨"/tmp"⟩

theorem sampleDisk_isTree : sampleDisk.IsTree := isTree_of_flat (by decide)

/-- The outline is there, and still is when other things have been made. -/
theorem sample_reads (h : Keeps nowhere sampleDisk d) :
    ReadSource.ofPath d ⟨"/a"⟩ = ⟨⟨"/a"⟩, .ok sampleText⟩ := by
  have hpieces : piecesOf "/a" = ["", "a"] := by decide
  have hfind : sampleDisk.find ⟨"/a"⟩ true =
      .ok (.present ["a"] (.file sampleText.toUTF8 false)) := by
    rw [find_ok_iff]
    refine ⟨⟨by decide, by decide, by decide⟩, ?_⟩
    rw [hpieces]
    exact .idle rfl (.inl rfl)
      (.step rfl ⟨⟨by decide, by decide⟩, by decide⟩ rfl (by simp) (.stop rfl))
  unfold ReadSource.ofPath readText
  rw [readBytes_of_find (h.find_kept hfind id)]
  dsimp only
  rw [Text.fromUTF8?_toUTF8]

theorem sample_hasRoom_module :
    sampleDisk.HasRoom "typexpand-module-" "" "typexpand-module-000000" :=
  hasRoom_of_tmp rfl rfl (by decide) (by decide) ⟨⟨by decide, by decide⟩, by decide⟩
    ⟨by decide, by decide, by decide⟩ rfl

theorem sample_hasRoom_call :
    sampleDisk.HasRoom "typexpand-invoke-" ".lib" "typexpand-invoke-000000.lib" :=
  hasRoom_of_tmp rfl rfl (by decide) (by decide) ⟨⟨by decide, by decide⟩, by decide⟩
    ⟨by decide, by decide, by decide⟩ rfl

theorem sample_callPath : outlineProgram.callPath sampleDisk =
    sampleDisk.scratch.child "typexpand-invoke-000000.lib" := sample_hasRoom_call.fresh

theorem sample_canCall (image : ByteArray) : outlineProgram.CanCall image sampleDisk := by
  unfold CanCall
  rw [sample_callPath]
  exact ⟨sample_hasRoom_call.free, _, sample_hasRoom_call.file image⟩

/-- The path of the outline's artifact. -/
def sampleArtifact : FilePath :=
  (sampleDisk.scratch.child "typexpand-module-000000").child "module.lib"

theorem sample_modulePath : outlineProgram.modulePath sampleDisk = sampleArtifact :=
  congrArg (fun q => q.child "module.lib") sample_hasRoom_module.fresh

/-- There is room for the outline's artifact. -/
theorem sample_makes : ∃ start,
    sampleDisk.makeDirectory (sampleDisk.freshScratch "typexpand-module-" "") = .ok start ∧
    ∀ content, ∃ left, start.writeFile sampleArtifact content = .ok left := by
  have hmake := sample_hasRoom_module.directory
  have hname : IsName "module.lib" := ⟨⟨by decide, by decide⟩, by decide⟩
  have hsay : Sayable sampleArtifact :=
    ⟨by decide, by decide, by decide⟩
  obtain ⟨place, hopened⟩ :=
    opened_of_makeDirectory sampleDisk_isTree (by decide) ⟨by decide, by decide⟩ hmake
  rw [sample_hasRoom_module.fresh]
  exact ⟨_, hmake, fun content => ⟨_,
    writeFile_child content (by decide) hname hsay hopened.inside (hopened.empty _)⟩⟩

/-- What compiling the outline comes to. -/
theorem sample_compile (h : Keeps nowhere sampleDisk d)
    (hwrite : d.writeFile sampleArtifact (Artifact.ofTexts [sampleText]).toText.toUTF8 = .ok left) :
    Outline.compile d ⟨sampleArtifact, [], [], [⟨"/a"⟩]⟩ =
      .ok (⟨[], some (Artifact.ofTexts [sampleText]).catalog⟩, left) := by
  have hreads : [FilePath.mk "/a"].map (ReadSource.ofPath d) = [⟨⟨"/a"⟩, .ok sampleText⟩] := by
    rw [List.map_singleton, sample_reads h]
  have hdiagnose : diagnose d (([] : List String).contains strictFlag) []
      [⟨⟨"/a"⟩, .ok sampleText⟩] = [] := rfl
  have hartifact : artifactOf d [⟨"/a"⟩] = Artifact.ofTexts [sampleText] := by
    unfold artifactOf
    rw [hreads]
    rfl
  have hcompile := compile_of_clean (a := ⟨sampleArtifact, [], [], [⟨"/a"⟩]⟩) (by
    rw [hreads, hdiagnose]
    rfl) (hartifact ▸ hwrite)
  rw [hreads, hdiagnose, hartifact] at hcompile
  exact hcompile

/-- The module of the outline has one function, and what that answers is the text of the expander.
-/
theorem transparent_of_sample :
    ∃ module, (sampleCompiler.compile [⟨"/a"⟩] [] [] .memory (.ofDisk sampleDisk)).1 =
        .ok module ∧
      module.functions.map Prod.fst = [.generator "g" [.expander "A" false]] ∧
      ∀ f ∈ module.functions, (f.2 [.typeDescriptor ⟨"T", []⟩] (.ofDisk sampleDisk)).1 =
        .ok (.string "x") := by
  obtain ⟨start, hmake, hroom⟩ := sample_makes
  obtain ⟨left, hwrite⟩ := hroom (Artifact.ofTexts [sampleText]).toText.toUTF8
  have hkeeps := makeDirectory_keeps hmake
  have hstages := Stages.memory (p := outlineProgram) hmake
  rw [sample_modulePath] at hstages
  have hpass : outlineProgram.Passes
      (compileArguments sampleArtifact (sampleCompiler.requestOf [⟨"/a"⟩] [] [] .memory)) := by
    decide
  obtain ⟨module, hdone, hcatalog, hread, hcalls⟩ :=
    (compile_transparent (c := sampleCompiler) (m := .ofDisk sampleDisk) [⟨"/a"⟩] [] [] .memory rfl
      (outlineProgram_runs _) hstages hpass (sample_compile hkeeps hwrite)).2 rfl
  have hfunctions : module.functions.map Prod.fst = [.generator "g" [.expander "A" false]] := by
    have hdeclared : (Artifact.ofTexts [sampleText]).catalog.functions =
        [.generator "g" [.expander "A" false]] := by decide +kernel
    rw [← hdeclared]
    exact congrArg Catalog.functions (Option.some.inj hcatalog).symm
  refine ⟨module, hdone, hfunctions, ?_⟩
  intro f hf
  have hname : f.1.fullName = "g" := by
    have hmem := List.mem_map_of_mem (f := Prod.fst) hf
    rw [hfunctions, List.mem_singleton] at hmem
    rw [hmem]
    rfl
  have hpassCall : outlineProgram.Passes
      (invokeArguments (outlineProgram.callPath sampleDisk) f.1.fullName "T") := by
    rw [hname, sample_callPath]
    decide
  have himage : module.image = (Artifact.ofTexts [sampleText]).toText.toUTF8 := by
    obtain ⟨place, runnable, -, hfind, -⟩ := writeFile_ok hwrite
    rw [readBytes_of_find hfind] at hread
    exact (Except.ok.inj hread).symm
  have hanswer : callImage module.image "g" "T" = .ok "x" := by
    rw [himage, callImage_toText (Artifact.ofTexts_sorted _)]
    decide +kernel
  rw [hcalls f hf ⟨"T", []⟩ (.ofDisk sampleDisk) (outlineProgram_runs _) (sample_canCall _)
    hpassCall left _ hread, invoke_of_readBytes hread, hname, hanswer]
  rfl

end DriverProgram

end Expansion
