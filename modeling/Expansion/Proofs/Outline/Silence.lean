import Expansion.Proofs.Outline.Remarks

/-!
# Texts that say nothing

Any text may stand in an outline. One in which no line begins with a word of an outline
(`SaysNothing`) may be compiled as a source too, at any place among the others.

* A line that begins with no such word says nothing, whatever signs it has and however it goes on
  (`parse_of_unopened`).
* An artifact is read off the lines, so a text that says nothing is all that it adds
  (`ofTexts_insert`).
* **`compile_of_saysNothing`**: the compilation reports what it does without the text, and if it
  writes an artifact, that has the text at its place and is the same in all else.
-/

namespace Expansion.Outline

variable {d : Disk} {p : FilePath} {text line : String}

/-- The words with which a line begins that says something. -/
def openings : List String :=
  ["type", "expander", "expander!", "malformed", "fail", "error", "warning"]

/-- Whether a line begins with none of them. -/
def Unopened (line : String) : Prop := ∀ word ∈ (Text.words line).head?, word ∉ openings

/-- Whether no line of a text begins with one of them. -/
def SaysNothing (text : String) : Prop := ∀ line ∈ Text.lines text, Unopened line

instance (line : String) : Decidable (Unopened line) :=
  inferInstanceAs (Decidable (∀ word ∈ (Text.words line).head?, word ∉ openings))

instance (text : String) : Decidable (SaysNothing text) :=
  inferInstanceAs (Decidable (∀ line ∈ Text.lines text, Unopened line))

/-! ## Lines -/

theorem ofWords_of_unopened {words : List String} (h : ∀ word ∈ words.head?, word ∉ openings)
    (behind? : Option String) : Line.ofWords words behind? = .other := by
  have hopened : ∀ {word rest}, words = word :: rest → word ∉ openings := by
    rintro word rest rfl
    exact h word rfl
  unfold Line.ofWords
  split
  case h_8 => rfl
  all_goals exact absurd (by decide) (hopened rfl)

/-- A line says nothing that begins with none of the words, whatever follows its equals sign. -/
theorem parse_of_unopened (h : Unopened line) : Line.parse line = .other := by
  rw [Meaning.parse_eq_ofWords]
  refine ofWords_of_unopened ?_ _
  show ∀ word ∈ (frontWords line).head?, word ∉ openings
  rcases head?_words line with hhead | ⟨hempty, -⟩
  · exact hhead ▸ h
  · rw [hempty]
    exact fun word hword => nomatch hword

/-- Nothing is taken from the lines of a text that says nothing. -/
theorem filterMap_insert {α : Type} (h : SaysNothing text) (take : Line → Option α)
    (htake : take .other = none) (front back : List String) :
    ((front ++ text :: back).flatMap Artifact.linesOf).filterMap take =
      ((front ++ back).flatMap Artifact.linesOf).filterMap take := by
  have hnothing : (Artifact.linesOf text).filterMap take = [] := by
    rw [List.filterMap_eq_nil_iff]
    intro l hl
    obtain ⟨line, hline, rfl⟩ := List.mem_map.mp hl
    rw [parse_of_unopened (h line hline), htake]
  rw [List.flatMap_append, List.flatMap_append, List.flatMap_cons, List.filterMap_append,
    List.filterMap_append, List.filterMap_append, hnothing, List.nil_append]

/-- All that such a text adds to an artifact is itself. -/
theorem ofTexts_insert (h : SaysNothing text) (front back : List String) :
    Artifact.ofTexts (front ++ text :: back) =
      { Artifact.ofTexts (front ++ back) with sources := front ++ text :: back } := by
  unfold Artifact.ofTexts Artifact.ofLines
  rw [filterMap_insert h Line.type? rfl, filterMap_insert h Line.function? rfl,
    filterMap_insert h Line.body? rfl, filterMap_insert h Line.failure? rfl]

theorem diagnosticsOfLines_of_unopened {lines : List String} (h : ∀ line ∈ lines, Unopened line)
    (strict : Bool) (p : FilePath) (number : Nat) :
    diagnosticsOfLines strict p number lines = [] := by
  induction lines generalizing number with
  | nil => rfl
  | cons line rest ih =>
      obtain ⟨hline, hrest⟩ := List.forall_mem_cons.mp h
      unfold diagnosticsOfLines diagnosticOf?
      rw [parse_of_unopened hline, ih hrest]
      rfl

/-! ## Compilations -/

/-- Nothing is said about a source that says nothing. -/
theorem diagnose_insert (hread : d.readText p = .ok text) (h : SaysNothing text) (strict : Bool)
    (references before after : List FilePath) :
    diagnose d strict references ((before ++ p :: after).map (ReadSource.ofPath d)) =
      diagnose d strict references ((before ++ after).map (ReadSource.ofPath d)) := by
  have hnothing : diagnosticsOf strict (ReadSource.ofPath d p) = [] := by
    unfold diagnosticsOf ReadSource.ofPath
    rw [hread]
    exact diagnosticsOfLines_of_unopened h strict p 1
  unfold diagnose
  rw [List.map_append, List.map_append, List.map_cons, List.flatMap_append, List.flatMap_append,
    List.flatMap_cons, hnothing, List.nil_append]

/-- The texts of sources that are on a disk. -/
def textsAt (d : Disk) (sources : List FilePath) : List String :=
  textsOf (sources.map (ReadSource.ofPath d))

theorem textsAt_append (d : Disk) (before after : List FilePath) :
    textsAt d (before ++ after) = textsAt d before ++ textsAt d after := by
  unfold textsAt textsOf
  rw [List.map_append, List.filterMap_append]

theorem textsAt_cons (hread : d.readText p = .ok text) (sources : List FilePath) :
    textsAt d (p :: sources) = text :: textsAt d sources := by
  unfold textsAt textsOf
  rw [List.map_cons, List.filterMap_cons]
  simp [ReadSource.ofPath, hread, Except.toOption]

/-- Sources that can all be read have as many texts. -/
theorem length_textsAt {sources : List FilePath}
    (h : ∀ p ∈ sources, ∃ text, d.readText p = .ok text) :
    (textsAt d sources).length = sources.length := by
  have hall : ∀ source ∈ sources.map (ReadSource.ofPath d),
      source.content.toOption.isSome = true := by
    intro source hsource
    obtain ⟨p, hp, rfl⟩ := List.mem_map.mp hsource
    obtain ⟨text, htext⟩ := h p hp
    unfold ReadSource.ofPath
    rw [htext]
    rfl
  unfold textsAt textsOf
  rw [List.filterMap_length_eq_length.mpr hall, List.length_map]

theorem artifactOf_insert (hread : d.readText p = .ok text) (h : SaysNothing text)
    (before after : List FilePath) : artifactOf d (before ++ p :: after) =
      { artifactOf d (before ++ after) with
        sources := textsAt d before ++ text :: textsAt d after } := by
  show Artifact.ofTexts (textsAt d (before ++ p :: after)) =
    { Artifact.ofTexts (textsAt d (before ++ after)) with
      sources := textsAt d before ++ text :: textsAt d after }
  rw [textsAt_append, textsAt_cons hread, ofTexts_insert h, textsAt_append]

/-- What comes of two compilations, the second of which has one source more, with this text and at
this place. -/
inductive AddsText (d : Disk) (out : FilePath) (place : Nat) (text : String) :
    Except Fault (Report × Disk) → Except Fault (Report × Disk) → Prop
  /-- Both give up, and for one reason. -/
  | fails (fault : Fault) : AddsText d out place text (.error fault) (.error fault)
  /-- Both find the same errors, and write nothing. -/
  | rejects (diagnostics : List Diagnostic) :
      AddsText d out place text (.ok (⟨diagnostics, none⟩, d)) (.ok (⟨diagnostics, none⟩, d))
  /-- Both report the same, and what they write differs in the text alone. -/
  | writes (diagnostics : List Diagnostic) {artifact : Artifact} {front back : List String}
      {left left' : Disk} : artifact.sources = front ++ back → front.length = place →
      artifact.Written d out left →
      { artifact with sources := front ++ text :: back }.Written d out left' →
      AddsText d out place text (.ok (⟨diagnostics, some artifact.catalog⟩, left))
        (.ok (⟨diagnostics, some artifact.catalog⟩, left'))

/-- **A source that says nothing adds nothing but its text**, wherever it stands among the others. -/
theorem compile_of_saysNothing (hread : d.readText p = .ok text) (h : SaysNothing text)
    (out : FilePath) (references : List FilePath) (flags : List String)
    (before after : List FilePath) :
    AddsText d out before.length text (compile d ⟨out, references, flags, before ++ after⟩)
      (compile d ⟨out, references, flags, before ++ p :: after⟩) := by
  have hsame := diagnose_insert hread h (flags.contains strictFlag) references before after
  by_cases herror : (diagnose d (flags.contains strictFlag) references
      ((before ++ after).map (ReadSource.ofPath d))).any Diagnostic.isError = true
  · rw [compile_of_error herror, compile_of_error (hsame ▸ herror), hsame]
    exact .rejects _
  · rw [Bool.not_eq_true] at herror
    rcases Disk.writable_or_error d out with hout | ⟨e, he⟩
    · obtain ⟨left, hwrite⟩ := hout (artifactOf d (before ++ after)).toText.toUTF8
      obtain ⟨left', hwrite'⟩ := hout (artifactOf d (before ++ p :: after)).toText.toUTF8
      have hinsert := artifactOf_insert hread h before after
      have hlength : (textsAt d before).length = before.length := by
        refine length_textsAt fun q hq => ?_
        exact exists_text_of_clean herror _ (List.mem_map_of_mem (List.mem_append_left after hq))
      have hwritten : (artifactOf d (before ++ after)).Written d out left :=
        Artifact.written (Artifact.ofTexts_sorted _) hwrite
      have hwritten' : (artifactOf d (before ++ p :: after)).Written d out left' :=
        Artifact.written (Artifact.ofTexts_sorted _) hwrite'
      rw [compile_of_clean herror hwrite, compile_of_clean (hsame ▸ herror) hwrite', hsame]
      dsimp only
      rw [hinsert] at hwritten' ⊢
      exact .writes _ (textsAt_append d before after) hlength hwritten hwritten'
    · rw [compile_of_no_room herror he, compile_of_no_room (hsame ▸ herror) he]
      exact .fails _

/-- A text with signs, with words of an outline that begin no line, and with the end of a line in
the middle. -/
def fillerText : String := "impl Show for A = type\r\n = error\n\n  // typed: fail m.A"

/-- Two outlines and the text. -/
def fillerDisk : Disk where
  entries := [(["a"], .file "type m.A Show\nexpander g.s Show = impl".toUTF8 false),
    (["b"], .file "warning later\n".toUTF8 false), (["g"], .file fillerText.toUTF8 false)]
  home := []
  scratch := ⟨"/tmp"⟩

/-- The text is compiled between the outlines. -/
theorem addsText_filler : fillerDisk.readText ⟨"g"⟩ = .ok fillerText ∧ SaysNothing fillerText ∧
    AddsText fillerDisk ⟨"out.lib"⟩ 1 fillerText
      (compile fillerDisk ⟨⟨"out.lib"⟩, [], [], [⟨"a"⟩, ⟨"b"⟩]⟩)
      (compile fillerDisk ⟨⟨"out.lib"⟩, [], [], [⟨"a"⟩, ⟨"g"⟩, ⟨"b"⟩]⟩) := by
  have hread : fillerDisk.readText ⟨"g"⟩ = .ok fillerText := by decide +kernel
  have hsilent : SaysNothing fillerText := by decide +kernel
  exact ⟨hread, hsilent, compile_of_saysNothing hread hsilent ⟨"out.lib"⟩ [] [] [⟨"a"⟩] [⟨"b"⟩]⟩

end Expansion.Outline
