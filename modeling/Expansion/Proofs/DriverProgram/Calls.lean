import Expansion.Proofs.DriverProgram.Backend
import Expansion.Proofs.Survey.Answers
import Expansion.Proofs.Survey.Order

/-!
# Calls of a program's functions

What happens when a module that a driver program compiled is surveyed and one of its expanders is
called, long after the compilation and on whatever has become of the disk.

* **`entry_of_staged`**: a call writes the image to a new scratch file, runs the program on that
  disk, and takes the file away again. The program is free to do anything there, and stands once in
  the equation: what comes behind it (`settled`) runs nothing, so a program that counts its runs on
  the disk counts one for each call.
* **`exists_of_mem_load`**: an expander of the survey is named like the function that it calls, for
  both come from one entry of the catalog. Other entries do not matter, also if they have the same
  name.
* **`call_of_load`** puts the two together.
-/

namespace Expansion

namespace Survey

variable {σ : Type}

/-- What an entry point answers with a text is what the expander answers. -/
theorem bind_of_text {name : String} {entry : Entry σ} {type : TypeInfo} {n after : σ}
    {answer : Except Fault String}
    (h : entry [.typeDescriptor type] n = (answer.map Value.string, after)) :
    bind name entry type n = (answer, after) := by
  unfold bind
  rw [bind_of_eq h]
  cases answer <;> rfl

end Survey

namespace DriverProgram

open Outline

variable {p : DriverProgram} {catalog : Catalog} {image : ByteArray} {artifact : FilePath}
variable {n : Machine} {staged : Disk}

/-- What a call comes to, from the machine that it was made on and from how the run of the program
on the scratch file went: the answer is read off what is left of the program, or says why it was not
started, and the file is taken away. -/
def settled (program scratch : FilePath) (n : Machine) :
    Except Disk.Error ProcessOutput × Disk → Except Fault String × Machine
  | (.ok output, d) => (interpretCall output, { n with disk := d.without scratch })
  | (.error e, d) =>
    (.error (faultOf (.driver ("failed to run " ++ program.text ++ ": " ++ e.message))),
      { n with disk := d.without scratch })

/-- A program whose arguments can be passed is run once, on the disk as it is. -/
theorem run_apply {arguments : List String}
    (h : argumentFault? p.program (p.arguments ++ arguments) = none) (n : Machine) :
    p.run arguments n =
      ((p.runner p.program (p.arguments ++ arguments) n.disk).1.mapError p.startFailure,
        { n with disk := (p.runner p.program (p.arguments ++ arguments) n.disk).2 }) := by
  unfold run
  dsimp only
  rw [h]
  dsimp only
  cases p.runner p.program (p.arguments ++ arguments) n.disk with
  | mk result d => cases result <;> rfl

/-- A call of a function is one run of the program on a disk with the image in a scratch file. -/
theorem entry_of_staged (f : FunctionInfo) (type : TypeInfo)
    (hstage : n.disk.writeFile (p.callPath n.disk) image = .ok staged)
    (hpass : argumentFault? p.program
      (p.arguments ++ invokeArguments (p.callPath n.disk) f.fullName type.fullName) = none) :
    p.entry image f [.typeDescriptor type] n =
      let outcome := settled p.program (p.callPath n.disk) n (p.runner p.program
        (p.arguments ++ invokeArguments (p.callPath n.disk) f.fullName type.fullName) staged)
      (outcome.1.map Value.string, outcome.2) := by
  have hcall : p.call image f.fullName type.fullName n =
      Act.removing (p.callPath n.disk)
        (p.run (invokeArguments (p.callPath n.disk) f.fullName type.fullName))
        { n with disk := staged } := Act.withScratchFile_apply hstage _
  unfold entry
  dsimp only
  rw [hcall, Act.removing_apply, run_apply hpass]
  dsimp only
  cases p.runner p.program
      (p.arguments ++ invokeArguments (p.callPath n.disk) f.fullName type.fullName) staged with
  | mk result d => cases result <;> rfl

/-- A function looks at the name of a type and at nothing else of it. -/
theorem entry_congr (f : FunctionInfo) {type other : TypeInfo}
    (h : type.fullName = other.fullName) :
    p.entry image f [.typeDescriptor type] = p.entry image f [.typeDescriptor other] := by
  unfold entry
  dsimp only
  rw [h]

/-- An expander of the survey calls the function that it is named like. -/
theorem exists_of_mem_load {e : Expander Machine}
    (he : e ∈ (Survey.ofModule (p.load artifact catalog image)).expanders) :
    ∃ f ∈ catalog.functions, f.isExpander = true ∧ e.name = f.fullName ∧
      e.call = Survey.bind f.fullName (p.entry image f) := by
  obtain ⟨⟨f, entry⟩, hf, htake⟩ := Survey.mem_expanders_iff.mp he
  rw [(isModule_load p artifact catalog image).functions] at hf
  obtain ⟨info, hinfo, hpair⟩ := List.mem_map.mp hf
  -- The name and the entry point that the expander was made of come from this one entry.
  obtain ⟨rfl, rfl⟩ := Prod.mk.inj hpair
  have hexpander : info.isExpander = true := by
    rw [← Survey.isSome_expander? (info, p.entry image info), htake]
    rfl
  exact ⟨info, hinfo, hexpander, Survey.bound_of_expander? htake⟩

/-- **A call runs the program once, on the image.** Whatever the catalog lists, an expander of the
module's survey is one of its functions, and calls this one and no other. Take any type and any
machine, however different it is from the one that the module was compiled on: if the scratch file
can be made and the arguments can be passed, the call is one run of the program, with the expander's
own name, the name of the type and the path of a file that holds exactly the image, and then the
file is taken away. The rest of the type's description makes no difference. -/
theorem call_of_load (p : DriverProgram) (artifact : FilePath) (catalog : Catalog)
    (image : ByteArray) {e : Expander Machine}
    (he : e ∈ (Survey.ofModule (p.load artifact catalog image)).expanders) :
    (∃ f ∈ catalog.functions, f.isExpander = true ∧ e.name = f.fullName) ∧
    (∀ (type : TypeInfo) (n : Machine) (staged : Disk),
      n.disk.writeFile (p.callPath n.disk) image = .ok staged →
      argumentFault? p.program
        (p.arguments ++ invokeArguments (p.callPath n.disk) e.name type.fullName) = none →
      staged.readBytes (p.callPath n.disk) = .ok image ∧
      e.call type n = settled p.program (p.callPath n.disk) n
        (p.runner p.program
          (p.arguments ++ ["invoke", "--artifact=" ++ (p.callPath n.disk).text,
            "--function=" ++ e.name, "--type=" ++ type.fullName]) staged)) ∧
    ∀ (type other : TypeInfo) (n : Machine), type.fullName = other.fullName →
      e.call type n = e.call other n := by
  obtain ⟨f, hf, hexpander, hname, hcall⟩ := exists_of_mem_load he
  refine ⟨⟨f, hf, hexpander, hname⟩, ?_, ?_⟩
  · intro type n staged hstage hpass
    obtain ⟨place, runnable, -, hfind, -⟩ := Disk.writeFile_ok hstage
    rw [hname] at hpass ⊢
    rw [hcall]
    exact ⟨Disk.readBytes_of_find hfind,
      Survey.bind_of_text (entry_of_staged f type hstage hpass)⟩
  · intro type other n hsame
    rw [hcall]
    unfold Survey.bind
    rw [entry_congr f hsame]

/-! ## A program that tells what it is asked -/

/-- A program that prints its arguments, and behind them the text of the artifact. -/
def echoProgram : DriverProgram where
  runner := fun _ arguments d =>
    let artifact := (arguments.findSome? (Text.stripPrefix? "--artifact=")).getD ""
    let text := (d.readText ⟨artifact⟩).toOption.getD ""
    (.ok (printAndExit 0 (Text.join " " (arguments ++ [text]))), d)
  program := ⟨"/echo"⟩
  arguments := ["-q"]
  artifactExtension := "lib"

/-- A catalog with two functions of one name, of which only the second is an expander. -/
def echoCatalog : Catalog where
  types := []
  functions := [.generator "g" [], .generator "z" [.expander "B" true],
    .generator "g" [.expander "A" false]]

/-- The text of a call of its expander. -/
def echoText : String :=
  "-q invoke --artifact=/tmp/typexpand-invoke-000000.lib --function=g --type=T code"

theorem runner_echoProgram {d : Disk}
    (h : d.readBytes ⟨"/tmp/typexpand-invoke-000000.lib"⟩ = .ok "code".toUTF8) :
    echoProgram.runner echoProgram.program (echoProgram.arguments ++
        ["invoke", "--artifact=/tmp/typexpand-invoke-000000.lib", "--function=g", "--type=T"]) d =
      (.ok (printAndExit 0 echoText), d) := by
  have hartifact : (["-q", "invoke", "--artifact=/tmp/typexpand-invoke-000000.lib",
      "--function=g", "--type=T"].findSome? (Text.stripPrefix? "--artifact=")).getD "" =
      "/tmp/typexpand-invoke-000000.lib" := by decide +kernel
  have htext : d.readText ⟨"/tmp/typexpand-invoke-000000.lib"⟩ = .ok "code" := by
    unfold Disk.readText
    rw [h]
    dsimp only
    rw [Text.fromUTF8?_toUTF8]
  have hjoin : Text.join " " ["-q", "invoke", "--artifact=/tmp/typexpand-invoke-000000.lib",
      "--function=g", "--type=T", "code"] = echoText := by decide +kernel
  simp only [echoProgram, List.cons_append, List.nil_append, hartifact, htext, Except.toOption,
    Option.getD_some, hjoin]

/-- The expander calls the program with its name, and the program finds what was compiled. -/
theorem call_of_echoProgram :
    ∃ e ∈ (Survey.ofModule (echoProgram.load ⟨"/old.lib"⟩ echoCatalog "code".toUTF8)).expanders,
      e.template = "A" ∧ (e.call ⟨"T", [.other "x"]⟩ (.ofDisk sampleDisk)).1 = .ok echoText := by
  let g : FunctionInfo := .generator "g" [.expander "A" false]
  have hg : (g, echoProgram.entry "code".toUTF8 g) ∈
      (echoProgram.load ⟨"/old.lib"⟩ echoCatalog "code".toUTF8).functions := by
    rw [(isModule_load _ _ _ _).functions]
    exact List.mem_map_of_mem (by decide)
  have he := Survey.mem_expanders_iff.mpr ⟨_, hg, rfl⟩
  refine ⟨_, he, rfl, ?_⟩
  obtain ⟨-, staged, hstage⟩ := sample_canCall "code".toUTF8
  have hpath : echoProgram.callPath sampleDisk = ⟨"/tmp/typexpand-invoke-000000.lib"⟩ :=
    sample_callPath
  have hpass : argumentFault? echoProgram.program (echoProgram.arguments ++
      invokeArguments (echoProgram.callPath sampleDisk) "g" "T") = none := by
    rw [hpath]
    decide
  obtain ⟨hread, hcall⟩ := (call_of_load echoProgram ⟨"/old.lib"⟩ echoCatalog "code".toUTF8 he).2.1
    ⟨"T", [.other "x"]⟩ (.ofDisk sampleDisk) staged hstage hpass
  have hrun := runner_echoProgram (hpath ▸ hread)
  rw [hcall]
  show (settled _ (echoProgram.callPath sampleDisk) _ (echoProgram.runner _
    (_ ++ ["invoke", "--artifact=" ++ (echoProgram.callPath sampleDisk).text, _, _]) _)).1 = _
  rw [hpath]
  exact (congrArg (fun run => (settled _ _ _ run).1) hrun).trans (interpretCall_printAndExit echoText)

end DriverProgram

end Expansion
