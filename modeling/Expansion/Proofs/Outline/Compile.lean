import Expansion.Outline.Backend
import Expansion.Proofs.Disk.Keeps
import Expansion.Proofs.Outline.Artifact
import Expansion.Proofs.Text.Blank

/-!
# What a compilation of outlines leaves

* **`compile_cases`**: a report has a catalog exactly if none of its diagnostics is an error, and
  then the artifact with this catalog has been written.
* `invoke_of_readBytes`: a call depends on the bytes of the artifact and on nothing else on the disk.
* No fault has blank words (`Fault.message_speaks`).
-/

namespace Expansion.Outline

variable {d left : Disk} {a : CompileArguments} {report : Report}

/-- The artifact that a compilation writes. -/
def artifactOf (d : Disk) (sources : List FilePath) : Artifact :=
  Artifact.ofTexts (textsOf (sources.map (ReadSource.ofPath d)))

/-- A compilation that makes a report has errors and leaves the disk alone, or it has none and
writes its artifact. -/
theorem compile_cases (h : compile d a = .ok (report, left)) :
    (report.diagnostics.any Diagnostic.isError = true ∧ report.catalog = none ∧ left = d) ∨
    (report.diagnostics.any Diagnostic.isError = false ∧
      report.catalog = some (artifactOf d a.sources).catalog ∧
      d.writeFile a.out (artifactOf d a.sources).toText.toUTF8 = .ok left) := by
  unfold compile at h
  dsimp only at h
  split at h
  · rename_i herrors
    cases h
    exact .inl ⟨herrors, rfl, rfl⟩
  · rename_i hnone
    split at h
    · rename_i written hwrite
      cases h
      exact .inr ⟨by simpa using hnone, rfl, hwrite⟩
    · cases h

/-- Without errors, and with a place for the artifact, a compilation makes a report. -/
theorem compile_of_clean
    (hclean : (diagnose d (a.flags.contains strictFlag) a.references
      (a.sources.map (ReadSource.ofPath d))).any Diagnostic.isError = false)
    (hwrite : d.writeFile a.out (artifactOf d a.sources).toText.toUTF8 = .ok left) :
    compile d a = .ok (⟨diagnose d (a.flags.contains strictFlag) a.references
      (a.sources.map (ReadSource.ofPath d)), some (artifactOf d a.sources).catalog⟩, left) := by
  have hwrite' : d.writeFile a.out
      (Artifact.ofTexts (textsOf (a.sources.map (ReadSource.ofPath d)))).toText.toUTF8 =
        .ok left := hwrite
  unfold compile
  dsimp only
  rw [hclean, if_neg (by simp), hwrite']
  rfl

/-- With an error nothing is written. -/
theorem compile_of_error
    (herror : (diagnose d (a.flags.contains strictFlag) a.references
      (a.sources.map (ReadSource.ofPath d))).any Diagnostic.isError = true) :
    compile d a = .ok (⟨diagnose d (a.flags.contains strictFlag) a.references
      (a.sources.map (ReadSource.ofPath d)), none⟩, d) := by
  unfold compile
  dsimp only
  rw [if_pos herror]

/-- Without errors, and without a place for the artifact, a compilation fails. -/
theorem compile_of_no_room {e : Disk.Error}
    (hclean : (diagnose d (a.flags.contains strictFlag) a.references
      (a.sources.map (ReadSource.ofPath d))).any Diagnostic.isError = false)
    (hwrite : ∀ content, d.writeFile a.out content = .error e) :
    compile d a = .error (.disk e) := by
  unfold compile
  dsimp only
  rw [hclean, if_neg (by simp), hwrite]

/-- Without an error among what it says, a compilation has read all of its sources. -/
theorem exists_text_of_clean {strict : Bool} {references : List FilePath}
    {sources : List ReadSource}
    (h : (diagnose d strict references sources).any Diagnostic.isError = false) :
    ∀ source ∈ sources, ∃ text, source.content = .ok text := by
  intro source hsource
  cases hcontent : source.content with
  | ok text => exact ⟨text, rfl⟩
  | error e =>
      have hsaid : Diagnostic.unlocated ("cannot read " ++ source.path.text ++ ": " ++ e.message) ∈
          diagnose d strict references sources := by
        refine List.mem_append_right _ (List.mem_flatMap.mpr ⟨source, hsource, ?_⟩)
        unfold diagnosticsOf
        rw [hcontent]
        exact List.mem_singleton_self _
      rw [List.any_eq_false] at h
      exact absurd rfl (h _ hsaid)

/-- An artifact has been written to a file, from which it is read again. -/
structure Artifact.Written (artifact : Artifact) (d : Disk) (p : FilePath) (left : Disk) : Prop where
  write : d.writeFile p artifact.toText.toUTF8 = .ok left
  load : load left p = .ok artifact

theorem Artifact.written {p : FilePath} {artifact : Artifact} (hsorted : artifact.bodies.Sorted)
    (h : d.writeFile p artifact.toText.toUTF8 = .ok left) : artifact.Written d p left := by
  refine ⟨h, ?_⟩
  obtain ⟨place, runnable, -, hfind, -⟩ := Disk.writeFile_ok h
  unfold load Disk.readText
  rw [Disk.readBytes_of_find hfind]
  dsimp only
  rw [Text.fromUTF8?_toUTF8]
  dsimp only
  rw [Artifact.decodeText_toText hsorted]

/-- What an artifact file makes of a call is what its bytes make of it. -/
theorem invoke_of_readBytes {p : FilePath} {image : ByteArray} (h : d.readBytes p = .ok image)
    (function typeName : String) :
    invoke d ⟨p, function, typeName⟩ = callImage image function typeName := by
  unfold invoke load callImage Disk.readText
  rw [h]
  dsimp only
  cases String.fromUTF8? image with
  | none => rfl
  | some content =>
      dsimp only
      cases Json.decodeText Artifact.decode content <;> rfl

/-- The bytes of an artifact make of a call what the artifact makes of it. -/
theorem callImage_toText {artifact : Artifact} (h : artifact.bodies.Sorted)
    (function typeName : String) :
    callImage artifact.toText.toUTF8 function typeName = artifact.call function typeName := by
  unfold callImage
  rw [Text.fromUTF8?_toUTF8]
  dsimp only
  rw [Artifact.decodeText_toText h]

/-- The words of a fault are never blank. -/
theorem Fault.message_speaks (fault : Fault) : Text.isBlankText fault.message = false := by
  have hfront : ∀ word rest, Text.isBlankText word = false → Text.isBlankText (word ++ rest) = false :=
    fun word rest h => by rw [Text.isBlankText_append, h, Bool.false_and]
  cases fault with
  | usage message => exact hfront "usage: " message (by decide)
  | unknownFunction name => exact hfront _ "'" (hfront "unknown function '" name (by decide))
  | asked function typeName =>
      have hword : Text.isBlankText (function ++ " failed for ") = false := by
        rw [Text.isBlankText_append, Bool.and_eq_false_iff]
        exact .inr (by decide)
      exact hfront _ typeName hword
  | disk error => exact hfront "I/O error: " error.message (by decide)
  | json fault => exact hfront "JSON error: " fault.message (by decide)

end Expansion.Outline
