import Expansion.DriverProgram.Protocol
import Expansion.Outline.Command
import Expansion.Proofs.Outline.Compile
import Expansion.Proofs.Text.Split

/-!
# The compiler of outlines keeps to the protocol

What a driver program is asked, the compiler of outlines understands, and what it prints is taken
for what it meant.

* **Arguments**: `arguments_unambiguous`. Every path, flag and name stands behind a mark of its own,
  and no two marks begin alike.
* **Reports**: `interpret_printed`. The exit status says the same as the report, so nothing is added
  to it and nothing is taken away.
* **Calls**: `interpretCall_invoke`. The text is printed as it is, and the words of a fault are never
  blank.
-/

namespace Expansion

open DriverProgram Outline

/-! ## Arguments -/

namespace Outline.Command

variable {out : Option FilePath} {references : List FilePath} {flags rest : List String}

/-- What stands behind more than the two dashes is no longer the mark of the sources. -/
theorem marked_ne_dashes {mark : String} (hmark : 2 < mark.length) (text : String) :
    mark ++ text ≠ "--" := by
  intro h
  have hlength := congrArg String.length h
  rw [String.length_append] at hlength
  have htwo : "--".length = 2 := rfl
  omega

theorem parseCompile_out (p : FilePath) :
    parseCompile out references flags (("--out=" ++ p.text) :: rest) =
      parseCompile (some p) references flags rest := by
  rw [parseCompile, if_neg (marked_ne_dashes (by decide) p.text), Text.stripPrefix?_append]

theorem parseCompile_reference (p : FilePath) :
    parseCompile out references flags (("--reference=" ++ p.text) :: rest) =
      parseCompile out (references ++ [p]) flags rest := by
  have hout : Text.stripPrefix? "--out=" ("--reference=" ++ p.text) = none :=
    Text.stripPrefix?_other _ fun _ => rfl
  rw [parseCompile, if_neg (marked_ne_dashes (by decide) p.text), hout, Text.stripPrefix?_append]

theorem parseCompile_flag (flag : String) :
    parseCompile out references flags (("--flag=" ++ flag) :: rest) =
      parseCompile out references (flags ++ [flag]) rest := by
  have hout : Text.stripPrefix? "--out=" ("--flag=" ++ flag) = none :=
    Text.stripPrefix?_other _ fun _ => rfl
  have hreference : Text.stripPrefix? "--reference=" ("--flag=" ++ flag) = none :=
    Text.stripPrefix?_other _ fun _ => rfl
  rw [parseCompile, if_neg (marked_ne_dashes (by decide) flag), hout, hreference,
    Text.stripPrefix?_append]

theorem parseCompile_references (more : List FilePath) :
    parseCompile out references flags (more.map (fun p => "--reference=" ++ p.text) ++ rest) =
      parseCompile out (references ++ more) flags rest := by
  induction more generalizing references with
  | nil => rw [List.append_nil, List.map_nil, List.nil_append]
  | cons p more ih =>
      rw [List.map_cons, List.cons_append, parseCompile_reference, ih, List.append_assoc,
        List.singleton_append]

theorem parseCompile_flags (more : List String) :
    parseCompile out references flags (more.map (fun flag => "--flag=" ++ flag) ++ rest) =
      parseCompile out references (flags ++ more) rest := by
  induction more generalizing flags with
  | nil => rw [List.append_nil, List.map_nil, List.nil_append]
  | cons flag more ih =>
      rw [List.map_cons, List.cons_append, parseCompile_flag, ih, List.append_assoc,
        List.singleton_append]

theorem parseCompile_dashes (sources : List FilePath) (p : FilePath) :
    parseCompile (some p) references flags ("--" :: sources.map FilePath.text) =
      .ok { out := p, references, flags, sources } := by
  rw [parseCompile, if_pos rfl, parseCompile.finish, List.map_map]
  have hid : sources.map (FilePath.mk ∘ FilePath.text) = sources := List.map_id sources
  rw [hid]

/-- What is asked for a compilation is understood. -/
theorem parse_compileArguments (artifact : FilePath) (request : CompileRequest) :
    parse (compileArguments artifact request) =
      .ok (.compile ⟨artifact, request.references, request.flags, request.sources⟩) := by
  unfold compileArguments
  simp only [List.append_assoc, List.cons_append, List.nil_append]
  rw [parse, parseCompile_out, parseCompile_references, parseCompile_flags, parseCompile_dashes]
  rfl

/-- What is asked for a call is understood. -/
theorem parse_invokeArguments (artifact : FilePath) (function typeName : String) :
    parse (invokeArguments artifact function typeName) =
      .ok (.invoke ⟨artifact, function, typeName⟩) := by
  have hfunction : Text.stripPrefix? "--function=" ("--artifact=" ++ artifact.text) = none :=
    Text.stripPrefix?_other _ fun _ => rfl
  have htype : Text.stripPrefix? "--type=" ("--artifact=" ++ artifact.text) = none :=
    Text.stripPrefix?_other _ fun _ => rfl
  have htype' : Text.stripPrefix? "--type=" ("--function=" ++ function) = none :=
    Text.stripPrefix?_other _ fun _ => rfl
  unfold invokeArguments
  simp only [parse, parseInvoke, valueOf, List.findSome?_cons, Text.stripPrefix?_append, hfunction,
    htype, htype']
  rfl

/-- Two compilations are asked for alike only if they are the same but for what becomes of the module
in the end, which the program is not told. -/
theorem compileArguments_inj {artifact artifact' : FilePath} {request request' : CompileRequest} :
    compileArguments artifact request = compileArguments artifact' request' ↔
      artifact = artifact' ∧ request.references = request'.references ∧
        request.flags = request'.flags ∧ request.sources = request'.sources := by
  constructor
  · intro hsame
    have hread := (parse_compileArguments artifact request).symm.trans
      (hsame ▸ parse_compileArguments artifact' request')
    injection hread with hread
    injection hread with hread
    injection hread with hout hreferences hflags hsources
    exact ⟨hout, hreferences, hflags, hsources⟩
  · rintro ⟨rfl, hreferences, hflags, hsources⟩
    unfold compileArguments
    rw [hreferences, hflags, hsources]

/-- Two calls are asked for alike only if they are the same. -/
theorem invokeArguments_inj {artifact artifact' : FilePath}
    {function function' typeName typeName' : String} :
    invokeArguments artifact function typeName = invokeArguments artifact' function' typeName' ↔
      artifact = artifact' ∧ function = function' ∧ typeName = typeName' := by
  constructor
  · intro hsame
    have hread := (parse_invokeArguments artifact function typeName).symm.trans
      (hsame ▸ parse_invokeArguments artifact' function' typeName')
    injection hread with hread
    injection hread with hread
    injection hread with hartifact hfunction htype
    exact ⟨hartifact, hfunction, htype⟩
  · rintro ⟨rfl, rfl, rfl⟩
    rfl

/-- **What a driver program is asked has one meaning.** Whatever the paths, flags and names are made
of, the program takes every one of them for what it was given as, in its order, and no two different
questions are asked in the same words. -/
theorem arguments_unambiguous (artifact artifact' : FilePath) (request request' : CompileRequest)
    (function function' typeName typeName' : String) :
    parse (compileArguments artifact request) = .ok (.compile
        { out := artifact
          references := request.references
          flags := request.flags
          sources := request.sources }) ∧
      parse (invokeArguments artifact function typeName) = .ok (.invoke
        { artifact, function, typeName }) ∧
      (compileArguments artifact request = compileArguments artifact' request' ↔
        artifact = artifact' ∧ request.references = request'.references ∧
          request.flags = request'.flags ∧ request.sources = request'.sources) ∧
      (invokeArguments artifact function typeName =
          invokeArguments artifact' function' typeName' ↔
        artifact = artifact' ∧ function = function' ∧ typeName = typeName') :=
  ⟨parse_compileArguments artifact request, parse_invokeArguments artifact function typeName,
    compileArguments_inj, invokeArguments_inj⟩

/-- Marks and dashes among the sources are sources. -/
example : parse (compileArguments ⟨"m.bin"⟩
    { sources := [⟨"--"⟩, ⟨"--flag=x"⟩, ⟨""⟩], references := [⟨"=,--out=y"⟩], flags := ["--"]
      target := .memory }) = .ok (.compile
    { out := ⟨"m.bin"⟩, references := [⟨"=,--out=y"⟩], flags := ["--"]
      sources := [⟨"--"⟩, ⟨"--flag=x"⟩, ⟨""⟩] }) := by decide

end Outline.Command

/-! ## What is printed -/

namespace DriverProgram

/-- A report that was printed on a line can be read. -/
theorem printedReport_compact (report : Report) :
    printedReport (report.encode.compact ++ "\n").toUTF8 = .ok (some report) := by
  have hspeaks : Text.isBlankText (report.encode.compact ++ "\n") = false := by
    obtain ⟨more, hbrace⟩ : ∃ more, report.encode.compact.toList = '\x7b' :: more :=
      ⟨_, String.toList_ofList⟩
    rw [Text.isBlankText_append, Text.isBlankText, hbrace]
    rfl
  unfold printedReport
  dsimp only
  rw [Text.ofBytesLossy_toUTF8, hspeaks, Report.decodeText_compact]
  rfl

/-- A report is taken as it was printed, if it has a catalog exactly when it has no error. -/
theorem interpret_printed {report : Report}
    (h : report.catalog.isSome = !report.diagnostics.any Diagnostic.isError) :
    interpret (printAndExit (if report.catalog.isSome then 0 else 1)
      (report.encode.compact ++ "\n")) = .ok report := by
  unfold interpret printAndExit
  dsimp only
  rw [printedReport_compact]
  cases hcatalog : report.catalog with
  | some c => rfl
  | none =>
      rw [hcatalog] at h
      have herror : report.diagnostics.any Diagnostic.isError = true := by simpa using h
      have hreport : report = { report with catalog := none } := by rw [← hcatalog]
      have hstatus : (ExitStatus.code (if (none : Option Catalog).isSome then 0 else 1)).isSuccess =
          false := rfl
      rw [hstatus, if_neg (by simp)]
      have hsame : withError (detail "compiler driver exited with" ByteArray.empty (.code 1))
          report.diagnostics = report.diagnostics := if_pos herror
      show Except.ok { report with
        diagnostics := withError (detail "compiler driver exited with" ByteArray.empty (.code 1))
          report.diagnostics
        catalog := none } = _
      rw [hsame, ← hreport]

/-- A fault's words are what is left when the line that they were printed on is trimmed. -/
theorem interpretCall_exitWith (fault : Outline.Fault) :
    interpretCall (exitWith 3 fault.message) = .error ⟨Text.trim fault.message⟩ := by
  have hsaid : detail "exited with" (fault.message ++ "\n").toUTF8 (.code 3) =
      Text.trim fault.message := by
    unfold detail
    dsimp only
    rw [Text.ofBytesLossy_toUTF8, Text.trim_newline, Text.isEmpty_trim, fault.message_speaks]
    rfl
  unfold interpretCall exitWith
  dsimp only
  rw [hsaid]
  rfl

/-- A text is what was printed. -/
theorem interpretCall_printAndExit (text : String) :
    interpretCall (printAndExit 0 text) = .ok text := by
  unfold interpretCall printAndExit
  dsimp only
  rw [Text.fromUTF8?_toUTF8]
  rfl

/-- The answer of a driver program to a call, in terms of what the compiler of outlines makes of it.
-/
def answerOf : Except Outline.Fault String → Except Fault String
  | .ok text => .ok text
  | .error fault => .error ⟨Text.trim fault.message⟩

/-- A call prints its text or the words of its fault, and leaves the disk alone. -/
theorem interpretCall_invoke (d : Disk) (artifact : FilePath) (function typeName : String) :
    interpretCall (runProgram (invokeArguments artifact function typeName) d).1 =
        answerOf (invoke d ⟨artifact, function, typeName⟩) ∧
      (runProgram (invokeArguments artifact function typeName) d).2 = d := by
  unfold runProgram
  rw [Outline.Command.parse_invokeArguments]
  dsimp only
  cases invoke d ⟨artifact, function, typeName⟩ with
  | error fault => exact ⟨interpretCall_exitWith fault, rfl⟩
  | ok text => exact ⟨interpretCall_printAndExit text, rfl⟩

/-- A compilation prints its report. -/
theorem interpret_compile {d left : Disk} {artifact : FilePath} {request : CompileRequest}
    {report : Report}
    (h : Outline.compile d ⟨artifact, request.references, request.flags, request.sources⟩ =
      .ok (report, left)) :
    interpret (runProgram (compileArguments artifact request) d).1 = .ok report ∧
      (runProgram (compileArguments artifact request) d).2 = left := by
  have hcatalog : report.catalog.isSome = !report.diagnostics.any Diagnostic.isError := by
    rcases compile_cases h with ⟨herrors, hnone, -⟩ | ⟨hclean, hsome, -⟩
    · rw [herrors, hnone]
      rfl
    · rw [hclean, hsome]
      rfl
  unfold runProgram
  rw [Outline.Command.parse_compileArguments]
  dsimp only
  rw [h]
  exact ⟨interpret_printed hcatalog, rfl⟩

end DriverProgram

end Expansion
