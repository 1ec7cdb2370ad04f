import Expansion.Proofs.Disk.Rewrite
import Expansion.Proofs.Outline.Compile
import Expansion.Proofs.Outline.Meaning
import Mathlib.Data.List.Enum

/-!
# What a compilation of outlines says

All that a compilation says can be read off the words of the lines: an error for each reference that
is not there, and then, source by source, one that it cannot be read, or a diagnostic for each line
whose first word is `error` or `warning` (`remarks`).

* The first word decides, and a line has the same first word in front of its first equals sign as it
  has at all (`words_eq`).
* **The message is what stands in front of an equals sign** (`frontWords`), also on a line that has
  no body for the sign to begin; all other words of the line are there exactly if it has no such
  sign (`message_eq_iff`).
* **`diagnostics_of_compile`**: this is what is said, and an artifact is written exactly if no error
  is among it.
-/

namespace Expansion.Outline

open Meaning

variable {d : Disk} {a : CompileArguments} {line : String}

/-! ## The words of a line -/

/-- The words in front of a line's first equals sign, or all of them if it has none. -/
def frontWords (line : String) : List String := (CutLine.ofText line).words

/-- Whether a line has an equals sign with spaces around it. -/
def HasSign (line : String) : Prop := " = ".toList <:+: line.toList

instance (line : String) : Decidable (HasSign line) := inferInstanceAs (Decidable (_ <:+: _))

theorem frontWords_of_not_hasSign (h : ¬HasSign line) : frontWords line = Text.words line := by
  unfold frontWords CutLine.ofText
  rw [Text.splitOnce_eq_none_iff.mpr h]

/-- The equals sign is a word of its own. -/
theorem exists_words_of_hasSign (h : HasSign line) :
    ∃ others, Text.words line = frontWords line ++ "=" :: others := by
  unfold frontWords CutLine.ofText
  cases hsplit : Text.splitOnce " = " line with
  | none => exact absurd h (Text.splitOnce_eq_none_iff.mp hsplit)
  | some sides =>
      obtain ⟨head, tail⟩ := sides
      have hline : line =
          head ++ String.singleton ' ' ++ ("=" ++ String.singleton ' ' ++ tail) := by
        rw [Text.splitOnce_eq hsplit]
        simp [← String.toList_inj]
      have hsign : Text.words "=" = ["="] := by decide
      rw [hline, Text.words_append rfl, Text.words_append rfl, hsign]
      exact ⟨Text.words tail, rfl⟩

/-- What begins with no word in front of its equals sign begins with the sign. -/
theorem head?_words (line : String) :
    (Text.words line).head? = (frontWords line).head? ∨
      frontWords line = [] ∧ (Text.words line).head? = some "=" := by
  by_cases h : HasSign line
  · obtain ⟨others, hwords⟩ := exists_words_of_hasSign h
    rw [hwords]
    cases hfront : frontWords line with
    | nil => exact .inr ⟨rfl, rfl⟩
    | cons first rest => exact .inl rfl
  · exact .inl (by rw [frontWords_of_not_hasSign h])

/-! ## What is said -/

/-- How grave a remark is that begins with a word, if the word makes it one. -/
def severityOf? (strict : Bool) : String → Option Severity
  | "error" => some .error
  | "warning" => some (if strict then .error else .warning)
  | _ => none

/-- The remark of a numbered line: its first word says whether there is one, and of the words that
are read of it all but the first are the message. -/
def remarkOf? (read : String → List String) (strict : Bool) (p : FilePath) (number : Nat)
    (line : String) : Option Diagnostic :=
  ((Text.words line).head?.bind (severityOf? strict)).map fun severity =>
    { severity, file := p.text, startLine := UInt32.ofNat number, startColumn := 1,
      endLine := UInt32.ofNat number, endColumn := UInt32.ofNat line.utf8ByteSize,
      message := Text.join " " (read line).tail }

/-- The remarks of a source, whose lines are counted from one. -/
def remarksOf (read : String → List String) (strict : Bool) (p : FilePath) :
    Except Disk.Error String → List Diagnostic
  | .ok text => ((Text.lines text).zipIdx 1).filterMap fun (line, number) =>
      remarkOf? read strict p number line
  | .error e => [.unlocated ("cannot read " ++ p.text ++ ": " ++ e.message)]

theorem remarksOf_ok (read : String → List String) (strict : Bool) (p : FilePath) (text : String) :
    remarksOf read strict p (.ok text) = ((Text.lines text).zipIdx 1).flatMap fun pair =>
      (remarkOf? read strict p pair.2 pair.1).toList :=
  List.filterMap_eq_flatMap_toList _ _

/-- The remarks of a compilation: on references that are not there, and on its sources. -/
def remarks (read : String → List String) (d : Disk) (a : CompileArguments) : List Diagnostic :=
  ((a.references.filter fun p => !d.leadsSomewhere p).map fun p =>
      .unlocated ("reference not found: " ++ p.text)) ++
    a.sources.flatMap fun p => remarksOf read (a.flags.contains strictFlag) p (d.readText p)

theorem remark?_ofWords (strict : Bool) (words : List String) (behind? : Option String) :
    (Line.ofWords words behind?).remark? strict =
      (words.head?.bind (severityOf? strict)).map fun severity =>
        (severity, Text.join " " words.tail) := by
  cases words with
  | nil => rfl
  | cons first rest =>
      by_cases herror : first = "error"
      · subst herror
        rfl
      by_cases hwarning : first = "warning"
      · subst hwarning
        rfl
      have hnone : severityOf? strict first = none := by
        unfold severityOf?
        split
        · exact absurd rfl herror
        · exact absurd rfl hwarning
        · rfl
      rw [List.head?_cons, Option.bind_some, hnone]
      unfold Line.ofWords
      split
      case h_6 hwords => exact absurd (List.cons.inj hwords).1 herror
      case h_7 hwords => exact absurd (List.cons.inj hwords).1 hwarning
      all_goals rfl

/-- The compiler says of a line what its words say. -/
theorem diagnosticOf?_eq (strict : Bool) (p : FilePath) (number : Nat) (line : String) :
    diagnosticOf? strict p number line = remarkOf? frontWords strict p number line := by
  have hfront : (Line.parse line).remark? strict =
      ((frontWords line).head?.bind (severityOf? strict)).map fun severity =>
        (severity, Text.join " " (frontWords line).tail) := by
    rw [parse_eq_ofWords]
    exact remark?_ofWords strict _ _
  have hhead : (Text.words line).head?.bind (severityOf? strict) =
      (frontWords line).head?.bind (severityOf? strict) := by
    rcases head?_words line with h | ⟨hempty, hsign⟩
    · rw [h]
    · rw [hempty, hsign]
      rfl
  unfold diagnosticOf? remarkOf?
  rw [hfront, hhead, Option.map_map]
  rfl

theorem diagnosticsOfLines_eq (strict : Bool) (p : FilePath) (number : Nat) (lines : List String) :
    diagnosticsOfLines strict p number lines = (lines.zipIdx number).flatMap fun pair =>
      (remarkOf? frontWords strict p pair.2 pair.1).toList := by
  induction lines generalizing number with
  | nil => rfl
  | cons line rest ih =>
      rw [diagnosticsOfLines, ih, diagnosticOf?_eq, List.zipIdx_cons, List.flatMap_cons]

/-- The compiler says what the words of the lines say. -/
theorem diagnose_eq_remarks (d : Disk) (a : CompileArguments) :
    diagnose d (a.flags.contains strictFlag) a.references
      (a.sources.map (ReadSource.ofPath d)) = remarks frontWords d a := by
  unfold diagnose remarks
  congr 1
  · rw [← List.filterMap_eq_map, List.filterMap_filter]
    refine List.filterMap_congr fun p _ => ?_
    unfold diagnosticOfReference?
    cases d.leadsSomewhere p <;> rfl
  · rw [List.flatMap_map]
    congr 1
    funext p
    unfold diagnosticsOf ReadSource.ofPath
    cases d.readText p with
    | error e => rfl
    | ok text =>
        rw [remarksOf_ok]
        exact diagnosticsOfLines_eq _ p 1 (Text.lines text)

/-! ## Messages -/

/-- A text is joined from fewer words than another one, which goes on behind them. -/
theorem join_ne_of_more (front : List String) (others : List String) :
    Text.join " " front ≠ Text.join " " (front ++ "=" :: others) := by
  have hlong : (Text.join " " ("=" :: others)).length ≠ 0 := by
    unfold Text.join
    cases others with
    | nil => decide
    | cons next rest =>
        rw [String.intercalate_cons_cons, String.length_append, String.length_append]
        have hsign : "=".length = 1 := rfl
        omega
  intro h
  have hlength := congrArg String.length h
  cases front with
  | nil => exact hlong hlength.symm
  | cons first rest =>
      unfold Text.join at hlength hlong
      rw [String.intercalate_append_of_ne_nil (by simp) (by simp), String.length_append,
        String.length_append] at hlength
      omega

/-- All words of a line that is a remark are in its message exactly if it has no equals sign. -/
theorem message_eq_iff (h : ∃ word rest, frontWords line = word :: rest) :
    Text.join " " (frontWords line).tail = Text.join " " (Text.words line).tail ↔
      ¬HasSign line := by
  constructor
  · intro heq hsign
    obtain ⟨word, rest, hfront⟩ := h
    obtain ⟨others, hwords⟩ := exists_words_of_hasSign hsign
    rw [hwords, hfront] at heq
    exact join_ne_of_more rest others heq
  · intro hsign
    rw [frontWords_of_not_hasSign hsign]

/-- Whether a line is a remark. -/
def IsRemark (line : String) : Prop :=
  (Text.words line).head? = some "error" ∨ (Text.words line).head? = some "warning"

instance (line : String) : Decidable (IsRemark line) := inferInstanceAs (Decidable (_ ∨ _))

theorem exists_severity_iff (strict : Bool) (line : String) :
    (∃ severity, (Text.words line).head?.bind (severityOf? strict) = some severity) ↔
      IsRemark line := by
  unfold IsRemark
  cases (Text.words line).head? with
  | none => simp
  | some first =>
      rw [Option.bind_some]
      unfold severityOf?
      split <;> simp_all

/-- All that a line says is said exactly if it is no remark or has no equals sign. -/
theorem remarkOf?_eq_iff (strict : Bool) (p : FilePath) (number : Nat) (line : String) :
    remarkOf? frontWords strict p number line = remarkOf? Text.words strict p number line ↔
      (IsRemark line → ¬HasSign line) := by
  unfold remarkOf?
  by_cases hremark : IsRemark line
  · obtain ⟨severity, hseverity⟩ := (exists_severity_iff strict line).mpr hremark
    have hfront : ∃ word rest, frontWords line = word :: rest := by
      cases hwords : frontWords line with
      | cons word rest => exact ⟨word, rest, rfl⟩
      | nil =>
          rcases head?_words line with h | ⟨-, h⟩
          · rw [IsRemark, h, hwords] at hremark
            simp at hremark
          · rw [IsRemark, h] at hremark
            simp at hremark
    rw [hseverity, ← message_eq_iff hfront]
    simp [hremark]
  · have hnone : (Text.words line).head?.bind (severityOf? strict) = none := by
      rw [Option.eq_none_iff_forall_ne_some]
      exact fun severity h => hremark ((exists_severity_iff strict line).mp ⟨severity, h⟩)
    rw [hnone]
    simp [hremark]

/-- Lists that are joined from parts of the same lengths are equal if all parts are. -/
theorem flatMap_eq_flatMap_iff {α β : Type} {f g : α → List β} {list : List α}
    (hlength : ∀ x ∈ list, (f x).length = (g x).length) :
    list.flatMap f = list.flatMap g ↔ ∀ x ∈ list, f x = g x := by
  induction list with
  | nil => simp
  | cons first rest ih =>
      obtain ⟨hfirst, hrest⟩ := List.forall_mem_cons.mp hlength
      rw [List.flatMap_cons, List.flatMap_cons, List.forall_mem_cons, ← ih hrest]
      constructor
      · exact fun h => List.append_inj h hfirst
      · rintro ⟨hsame, hothers⟩
        rw [hsame, hothers]

theorem length_remarkOf? (read other : String → List String) (strict : Bool) (p : FilePath)
    (number : Nat) (line : String) : (remarkOf? read strict p number line).toList.length =
      (remarkOf? other strict p number line).toList.length := by
  unfold remarkOf?
  cases (Text.words line).head?.bind (severityOf? strict) <;> rfl

theorem length_remarksOf (read other : String → List String) (strict : Bool) (p : FilePath)
    (content : Except Disk.Error String) :
    (remarksOf read strict p content).length = (remarksOf other strict p content).length := by
  cases content with
  | error e => rfl
  | ok text =>
      rw [remarksOf_ok, remarksOf_ok, List.length_flatMap, List.length_flatMap]
      congr 1
      exact List.map_congr_left fun pair _ => length_remarkOf? read other strict p pair.2 pair.1

theorem remarksOf_eq_iff (strict : Bool) (p : FilePath) (content : Except Disk.Error String) :
    remarksOf frontWords strict p content = remarksOf Text.words strict p content ↔
      ∀ text, content = .ok text → ∀ line ∈ Text.lines text, IsRemark line → ¬HasSign line := by
  cases content with
  | error e => simp [remarksOf]
  | ok text =>
      rw [remarksOf_ok, remarksOf_ok,
        flatMap_eq_flatMap_iff fun pair _ => length_remarkOf? _ _ strict p pair.2 pair.1,
        List.forall_mem_zipIdx]
      constructor
      · intro h other hother line hline
        cases hother
        obtain ⟨i, hi, rfl⟩ := List.mem_iff_getElem.mp hline
        have hsame := congrArg List.head? (h i hi)
        rw [Option.head?_toList, Option.head?_toList] at hsame
        exact (remarkOf?_eq_iff strict p (1 + i) _).mp hsame
      · intro h i hi
        dsimp only
        rw [(remarkOf?_eq_iff strict p (1 + i) _).mpr (h text rfl _ (List.getElem_mem hi))]

/-- Nothing that the lines say is left out exactly if no remark has an equals sign. -/
theorem remarks_eq_iff (d : Disk) (a : CompileArguments) :
    remarks frontWords d a = remarks Text.words d a ↔
      ∀ p ∈ a.sources, ∀ text, d.readText p = .ok text →
        ∀ line ∈ Text.lines text, IsRemark line → ¬HasSign line := by
  unfold remarks
  rw [List.append_right_inj, flatMap_eq_flatMap_iff fun p _ => length_remarksOf _ _ _ p _]
  exact forall₂_congr fun p _ => remarksOf_eq_iff _ p _

/-! ## Compilations -/

/-- **What a compilation says**, if its artifact can be written: an error for each reference that is
not there, in their order, and then source by source one that it cannot be read, or a remark for each
line that begins with `error` or `warning`, with the words in front of the line's first equals sign
for its message. Those are all words of the line, for all lines, exactly if no such line has the
sign. Without an error the artifact is written and its catalog reported; with one nothing is. -/
theorem diagnostics_of_compile (h : d.Writable a.out) :
    ∃ report left, compile d a = .ok (report, left) ∧
      report.diagnostics = remarks frontWords d a ∧
      (report.diagnostics = remarks Text.words d a ↔
        ∀ p ∈ a.sources, ∀ text, d.readText p = .ok text →
          ∀ line ∈ Text.lines text, IsRemark line → ¬HasSign line) ∧
      ((∃ x ∈ report.diagnostics, x.severity = .error) → report.catalog = none ∧ left = d) ∧
      ((∀ x ∈ report.diagnostics, x.severity ≠ .error) →
        report.catalog = some (artifactOf d a.sources).catalog ∧
        (artifactOf d a.sources).Written d a.out left) := by
  have hsay := diagnose_eq_remarks d a
  have hclear : (remarks frontWords d a).any Diagnostic.isError = false ↔
      ∀ x ∈ remarks frontWords d a, x.severity ≠ .error := by
    simp [Diagnostic.isError]
  obtain ⟨left, hwrite⟩ := h (artifactOf d a.sources).toText.toUTF8
  by_cases hany : (remarks frontWords d a).any Diagnostic.isError = true
  · refine ⟨⟨remarks frontWords d a, none⟩, d, ?_, rfl, remarks_eq_iff d a, fun _ => ⟨rfl, rfl⟩,
      fun hnone => ?_⟩
    · rw [← hsay] at hany ⊢
      exact compile_of_error hany
    · rw [hclear.mpr hnone] at hany
      cases hany
  · rw [Bool.not_eq_true] at hany
    refine ⟨⟨remarks frontWords d a, some (artifactOf d a.sources).catalog⟩, left, ?_, rfl,
      remarks_eq_iff d a, fun ⟨x, hx, herror⟩ => absurd herror (hclear.mp hany x hx),
      fun _ => ⟨rfl, Artifact.written (Artifact.ofTexts_sorted _) hwrite⟩⟩
    rw [← hsay] at hany ⊢
    exact compile_of_clean hany hwrite

/-- A source that has a warning and an error. -/
def noteText : String := "type m.A\nwarning odd = name\n  error no \t such type\r\n"

/-- A disk with the source, and without the file `core.lib`. -/
def noteDisk : Disk where
  entries := [(["a"], .file noteText.toUTF8 false)]
  home := []
  scratch := ⟨"/tmp"⟩

/-- A compilation of the source that needs the file. -/
def noteArguments : CompileArguments := ⟨⟨"out.lib"⟩, [⟨"core.lib"⟩], [], [⟨"a"⟩]⟩

theorem noteDisk_writable : noteDisk.Writable noteArguments.out :=
  Disk.writable_of_isSome ByteArray.empty (by decide +kernel)

theorem remarks_noteDisk : (remarks frontWords noteDisk noteArguments).map
      (fun x => (x.severity, x.file, x.startLine, x.message)) =
    [(.error, "<unknown>", 0, "reference not found: core.lib"), (.warning, "a", 2, "odd"),
      (.error, "a", 3, "no such type")] := by
  decide +kernel

/-- The compilation says three things and writes nothing. -/
theorem diagnostics_of_notes : noteDisk.Writable noteArguments.out ∧
    ∃ report, compile noteDisk noteArguments = .ok (report, noteDisk) ∧
      report.diagnostics.map (fun x => (x.severity, x.file, x.startLine, x.message)) =
        [(.error, "<unknown>", 0, "reference not found: core.lib"), (.warning, "a", 2, "odd"),
          (.error, "a", 3, "no such type")] ∧
      report.catalog = none := by
  obtain ⟨report, left, hcompile, hdiagnostics, -, herror, -⟩ :=
    diagnostics_of_compile noteDisk_writable
  have hsaid := remarks_noteDisk
  rw [← hdiagnostics] at hsaid
  have hhead : ∃ x ∈ report.diagnostics, x.severity = .error := by
    obtain ⟨x, hx, hfirst⟩ := List.mem_map.mp (hsaid ▸ List.mem_cons_self)
    exact ⟨x, hx, congrArg Prod.fst hfirst⟩
  obtain ⟨hcatalog, rfl⟩ := herror hhead
  exact ⟨noteDisk_writable, report, hcompile, hsaid, hcatalog⟩

/-- Of the warning `odd = name` only `odd` is said. -/
theorem not_all_words_of_notes : ¬∃ report left, compile noteDisk noteArguments = .ok (report, left) ∧
    report.diagnostics = remarks Text.words noteDisk noteArguments := by
  have hsay := diagnose_eq_remarks noteDisk noteArguments
  have herror : (remarks frontWords noteDisk noteArguments).any Diagnostic.isError = true := by
    decide +kernel
  have hread : noteDisk.readText ⟨"a"⟩ = .ok noteText := by decide +kernel
  rintro ⟨report, left, hcompile, hall⟩
  rw [compile_of_error (hsay ▸ herror), hsay] at hcompile
  cases hcompile
  exact (remarks_eq_iff noteDisk noteArguments).mp hall ⟨"a"⟩ (.head _) noteText hread
    "warning odd = name" (by decide +kernel) (by decide +kernel) (by decide +kernel)

end Expansion.Outline
