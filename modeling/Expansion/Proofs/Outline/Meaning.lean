import Expansion.Outline.Compile
import Expansion.Proofs.Outline.Artifact
import Expansion.Proofs.Text.Words
import Expansion.Survey.Basic

/-!
# What outlines mean

What is generated from outlines, said of their lines and of nothing else: no catalog, no survey, no
artifact and no calls. Every line is cut at its first equals sign; what counts in front of it are
the words.

* The types and the expanders that lines declare are sorted by name, each expander meets each type
  (`pairs`), and **a pair runs if an item of the type's line names the expander's template**, and a
  marked one does if the expander is marked (`Runs`).
* **`outcome`** is the first pair that runs and is made to fail, or else the texts of the pairs that
  run, with an empty line between each two that say something.
-/

namespace Expansion.Outline.Meaning

/-- A line, cut at its first equals sign: the words in front of it, and what follows it. -/
structure CutLine where
  words : List String
  behind? : Option String
  deriving DecidableEq, Repr

/-- A type that a line declares, with the items behind its name. -/
structure DeclaredType where
  name : String
  items : List String
  deriving DecidableEq, Repr

/-- An expander that a line declares, and whether it is marked. -/
structure DeclaredExpander where
  name : String
  template : String
  marked : Bool
  deriving DecidableEq, Repr

namespace CutLine

/-- The line of a text. -/
def ofText (line : String) : CutLine :=
  match Text.splitOnce " = " line with
  | some (head, tail) => ⟨Text.words head, some tail⟩
  | none => ⟨Text.words line, none⟩

/-- The type that the line declares. -/
def type? (l : CutLine) : Option DeclaredType :=
  match l.words with
  | "type" :: name :: items => some ⟨name, items⟩
  | _ => none

/-- The expander that the line declares. -/
def expander? (l : CutLine) : Option DeclaredExpander :=
  match l.words with
  | ["expander", name, template] => some ⟨name, template, false⟩
  | ["expander!", name, template] => some ⟨name, template, true⟩
  | _ => none

/-- Whether the line makes an expander fail on a type. -/
def fails (l : CutLine) (expander type : String) : Bool := l.words == ["fail", expander, type]

/-- The text that the line declares for an expander of a name. -/
def text? (l : CutLine) (name : String) : Option String :=
  match l.expander? with
  | some e => if e.name = name then some (l.behind?.getD defaultBody) else none
  | none => none

end CutLine

/-- Whether an item is marked. -/
def isMarked (item : String) : Bool := item.toList.getLast? == some '!'

/-- The template that an item names. -/
def templateOf (item : String) : String :=
  if isMarked item then String.ofList item.toList.dropLast else item

/-- Whether an expander runs on a type: an item names its template, and if the expander is marked,
a marked item does. -/
def Runs (e : DeclaredExpander) (t : DeclaredType) : Prop :=
  (∃ item ∈ t.items, templateOf item = e.template) ∧
    (e.marked = true → ∃ item ∈ t.items, isMarked item = true ∧ templateOf item = e.template)

instance (e : DeclaredExpander) (t : DeclaredType) : Decidable (Runs e t) :=
  inferInstanceAs (Decidable (_ ∧ _))

/-- The lines of some texts. -/
def linesOf (texts : List String) : List CutLine :=
  texts.flatMap fun text => (Text.lines text).map CutLine.ofText

section

variable (lines : List CutLine)

/-- The types, by name. -/
def types : List DeclaredType :=
  (lines.filterMap CutLine.type?).mergeSort fun s t => decide (s.name ≤ t.name)

/-- The expanders, by name. -/
def expanders : List DeclaredExpander :=
  (lines.filterMap CutLine.expander?).mergeSort fun e f => decide (e.name ≤ f.name)

/-- Each expander with each type. -/
def pairs : List (DeclaredExpander × DeclaredType) :=
  (expanders lines).flatMap fun e => (types lines).map fun t => (e, t)

/-- The pairs that run. -/
def running : List (DeclaredExpander × DeclaredType) :=
  (pairs lines).filter fun (e, t) => decide (Runs e t)

/-- Whether a line makes an expander fail on a type. -/
def failsOn (expander type : String) : Bool := lines.any fun l => l.fails expander type

/-- The text of the expanders of a name: the one that is declared last. -/
def textOf (name : String) : String :=
  ((lines.filterMap fun l => l.text? name).getLast?).getD defaultBody

/-- What is generated: the names of the first pair that runs and fails, or the document. -/
def outcome : Except (String × String) String :=
  match (running lines).find? fun (e, t) => failsOn lines e.name t.name with
  | some (e, t) => .error (e.name, t.name)
  | none => .ok (Text.join "\n\n"
      (((running lines).map fun (e, t) => fill (textOf lines e.name) e.name t.name).filter
        fun text => !Text.isBlankText text))

end

/-! ## What a line declares -/

theorem parse_eq_ofWords (line : String) :
    Line.parse line = Line.ofWords (CutLine.ofText line).words (CutLine.ofText line).behind? := by
  unfold Line.parse CutLine.ofText
  cases Text.splitOnce " = " line with
  | none => rfl
  | some sides => rfl

variable {σ : Type} (words : List String) (behind? : Option String)

/-- The type of a catalog that is declared. -/
def DeclaredType.info (t : DeclaredType) : TypeInfo :=
  ⟨t.name, [.expandable (t.items.map requestOf)]⟩

/-- The function of a catalog that is declared. -/
def DeclaredExpander.info (e : DeclaredExpander) : FunctionInfo :=
  .generator e.name [.expander e.template e.marked]

/-- The expander of a survey that is declared. -/
def DeclaredExpander.bound (entry : FunctionInfo → Entry σ) (e : DeclaredExpander) : Expander σ :=
  ⟨e.name, e.template, e.marked, Survey.bind e.name (entry e.info)⟩

/-- The words of a line, by what the line declares. -/
inductive Shape : List String → Prop
  | type (name : String) (items : List String) : Shape ("type" :: name :: items)
  | expander (name template : String) : Shape ["expander", name, template]
  | marked (name template : String) : Shape ["expander!", name, template]
  | malformed (name template : String) : Shape ["malformed", name, template]
  | fail (expander type : String) : Shape ["fail", expander, type]
  | error (message : List String) : Shape ("error" :: message)
  | warning (message : List String) : Shape ("warning" :: message)
  | other {words : List String} : (∀ behind?, Line.ofWords words behind? = .other) →
      (∀ behind?, CutLine.type? ⟨words, behind?⟩ = none) →
      (∀ behind?, CutLine.expander? ⟨words, behind?⟩ = none) →
      (∀ behind? expander type, CutLine.fails ⟨words, behind?⟩ expander type = false) →
      Shape words

theorem shape : Shape words := by
  by_cases htype : ∃ name items, words = "type" :: name :: items
  · obtain ⟨name, items, rfl⟩ := htype
    exact .type name items
  by_cases hexpander : ∃ name template, words = ["expander", name, template]
  · obtain ⟨name, template, rfl⟩ := hexpander
    exact .expander name template
  by_cases hmarked : ∃ name template, words = ["expander!", name, template]
  · obtain ⟨name, template, rfl⟩ := hmarked
    exact .marked name template
  by_cases hmalformed : ∃ name template, words = ["malformed", name, template]
  · obtain ⟨name, template, rfl⟩ := hmalformed
    exact .malformed name template
  by_cases hfail : ∃ expander type, words = ["fail", expander, type]
  · obtain ⟨expander, type, rfl⟩ := hfail
    exact .fail expander type
  by_cases herror : ∃ message, words = "error" :: message
  · obtain ⟨message, rfl⟩ := herror
    exact .error message
  by_cases hwarning : ∃ message, words = "warning" :: message
  · obtain ⟨message, rfl⟩ := hwarning
    exact .warning message
  refine .other (fun _ => ?_) (fun _ => ?_) (fun _ => ?_) (fun _ expander type => ?_)
  · unfold Line.ofWords
    split
    · exact absurd ⟨_, _, rfl⟩ htype
    · exact absurd ⟨_, _, rfl⟩ hexpander
    · exact absurd ⟨_, _, rfl⟩ hmarked
    · exact absurd ⟨_, _, rfl⟩ hmalformed
    · exact absurd ⟨_, _, rfl⟩ hfail
    · exact absurd ⟨_, rfl⟩ herror
    · exact absurd ⟨_, rfl⟩ hwarning
    · rfl
  · unfold CutLine.type?
    split
    · rename_i hwords
      exact absurd ⟨_, _, hwords⟩ htype
    · rfl
  · unfold CutLine.expander?
    split
    · rename_i hwords
      exact absurd ⟨_, _, hwords⟩ hexpander
    · rename_i hwords
      exact absurd ⟨_, _, hwords⟩ hmarked
    · rfl
  · unfold CutLine.fails
    rw [beq_eq_false_iff_ne]
    exact fun hwords => hfail ⟨expander, type, hwords⟩

section

variable (texts : List String)

end

/-! ## What names are made of -/

variable {texts : List String}

end Expansion.Outline.Meaning
