import Expansion.Proofs.Catalog.Wire
import Expansion.Proofs.Survey.Answers
import Expansion.Survey.Report

/-!
# What a report of a survey tells

A report has nothing of a survey's entry points in it, and yet it tells what an expansion of the
survey calls.

* **The JSON text is read as the report that it was written for** (`decodeText_toJsonText`), whatever
  characters the names are made of: records that are written in one way (`Json.IsWritten`) come back,
  and so do lists of them (`Json.Restores`).
* `SurveyReport.runs` are the pairs that run, by the report alone. They are the pairs that apply
  (`runs_ofSurvey`).
* What an expansion calls is seen from expanders that note their calls (`Survey.noting`). They do all
  that the expanders of the survey do, in every state, and they note the pairs that apply, in order
  and up to the first fault (`fragmentsOf_noting`).
* **`calls_of_text`** puts this together: from the text to the calls.
-/

namespace Expansion

open Json

/-! ## Records that are written in one way -/

namespace Json

/-- What is written comes back when it is read, and it is not deeper than some levels. -/
structure Restores {α : Type} (encode : α → Json) (decode : Decoder α) (levels : Nat) : Prop where
  decoded : ∀ a, decode (encode a) = .ok a
  fits : ∀ room a, Fits (room + levels) (encode a)

section

variable {α : Type} {encode : α → Json} {decode : Decoder α} {levels : Nat}

theorem restores_text : Restores .string asText 0 := ⟨fun _ => rfl, fun _ _ => trivial⟩

theorem restores_flag : Restores .bool asFlag 0 := ⟨fun _ => rfl, fun _ _ => trivial⟩

theorem Restores.list (h : Restores encode decode levels) :
    Restores (encodeList encode) (asList decode) (levels + 1) where
  decoded := decode_encodeList h.decoded
  fits := fun room values => fits_encodeList (h.fits room) values

/-- The slot of a member that is written in this way. -/
def memberSlot (name : String) (encode : α → Json) (a : α) : Slot := .always name (· = encode a)

theorem Restores.serves (h : Restores encode decode levels) (name : String) (a : α) :
    Serves (.required name decode) (memberSlot name encode a) :=
  serves_required (decode_of_eq (h.decoded a))

theorem Restores.fitsSlot (h : Restores encode decode levels) (room : Nat) (name : String) (a : α) :
    ∀ value, (memberSlot name encode a).tells value → Fits (room + levels) value :=
  fits_of_eq (h.fits room a)

end

/-- Values that are written as records: the members give the slots, and the fields serve them. -/
structure IsWritten {α : Type} (fields : List Field) (slots : α → List Slot)
    (members : α → List (String × Json)) : Prop where
  gives : ∀ a, Gives (slots a) (members a)
  serves : ∀ a, List.Forall₂ Serves fields (slots a)
  names : (fields.map Field.name).Nodup

namespace IsWritten

variable {α β : Type} {fields : List Field} {slots : α → List Slot}
variable {members : α → List (String × Json)}

theorem check (h : IsWritten fields slots members) (a : α) :
    checkRecord fields (.object (members a)) = .ok () :=
  (h.gives a).checkRecord (h.serves a) h.names

/-- A member is read as the value that it is written for. -/
theorem read (h : IsWritten fields slots members) {encode : β → Json} {decode : Decoder β}
    {levels : Nat} (hvalue : Restores encode decode levels) {a : α} {name : String} {value : β}
    (hslot : memberSlot name encode value ∈ slots a) :
    readField fields name decode (.object (members a)) = .ok value :=
  (h.gives a).readField (h.serves a) h.names hslot (decode_of_eq (hvalue.decoded value))

theorem fits (h : IsWritten fields slots members) {room : Nat} {a : α}
    (hfits : FitSlots room (slots a)) : Fits (room + 1) (.object (members a)) :=
  (h.gives a).fits (h.serves a) h.names hfits

end IsWritten

end Json

/-! ## Reading a report -/

namespace SurveyReport

/-- A template of a type, as JSON. -/
def encodeTemplate (entry : String × Bool) : Json :=
  .object [("name", .string entry.1), ("explicit", .bool entry.2)]

/-- A type, as JSON. -/
def encodeType (entry : String × Templates) : Json :=
  .object [("name", .string entry.1), ("templates", encodeList encodeTemplate entry.2)]

/-- An expander, as JSON. -/
def encodeExpander (entry : String × String × Bool) : Json :=
  .object [("name", .string entry.1), ("template", .string entry.2.1),
    ("explicit_use", .bool entry.2.2)]

/-- The fields of a template. -/
def templateFields : List Field := [.required "name" asText, .required "explicit" asFlag]

/-- A template of a type. -/
def decodeTemplate : Decoder (String × Bool) := fun j => do
  checkRecord templateFields j
  let name ← readField templateFields "name" asText j
  let explicit ← readField templateFields "explicit" asFlag j
  .ok (name, explicit)

/-- The fields of a type. -/
def typeFields : List Field :=
  [.required "name" asText, .required "templates" (asList decodeTemplate)]

/-- A type with its templates. -/
def decodeType : Decoder (String × Templates) := fun j => do
  checkRecord typeFields j
  let name ← readField typeFields "name" asText j
  let templates ← readField typeFields "templates" (asList decodeTemplate) j
  .ok (name, templates)

/-- The fields of an expander. -/
def expanderFields : List Field :=
  [.required "name" asText, .required "template" asText, .required "explicit_use" asFlag]

/-- An expander with its template and its use. -/
def decodeExpander : Decoder (String × String × Bool) := fun j => do
  checkRecord expanderFields j
  let name ← readField expanderFields "name" asText j
  let template ← readField expanderFields "template" asText j
  let explicitUse ← readField expanderFields "explicit_use" asFlag j
  .ok (name, template, explicitUse)

/-- The fields of a report. -/
def fields : List Field :=
  [.required "types" (asList decodeType), .required "expanders" (asList decodeExpander)]

/-- A report. -/
def decode : Decoder SurveyReport := fun j => do
  checkRecord fields j
  let types ← readField fields "types" (asList decodeType) j
  let expanders ← readField fields "expanders" (asList decodeExpander) j
  .ok { types, expanders }

theorem toJson_eq (r : SurveyReport) :
    r.toJson = .object [("types", encodeList encodeType r.types),
      ("expanders", encodeList encodeExpander r.expanders)] := rfl

/-- The members that tell a template. -/
def templateSlots (entry : String × Bool) : List Slot :=
  [memberSlot "name" .string entry.1, memberSlot "explicit" .bool entry.2]

theorem isWritten_template : IsWritten templateFields templateSlots
    fun entry => [("name", .string entry.1), ("explicit", .bool entry.2)] where
  gives := fun entry => (Kept.give rfl (.give rfl .nil)).gives
  serves := fun entry =>
    .cons (restores_text.serves "name" entry.1) (.cons (restores_flag.serves "explicit" entry.2) .nil)
  names := by decide

theorem restores_template : Restores encodeTemplate decodeTemplate 1 where
  decoded := by
    intro entry
    have hcheck := isWritten_template.check entry
    have hname := isWritten_template.read restores_text (a := entry) (.head _)
    have hexplicit := isWritten_template.read restores_flag (a := entry) (.tail _ (.head _))
    unfold decodeTemplate encodeTemplate
    simp only [hcheck, hname, hexplicit, bind, Except.bind]
  fits := by
    intro room entry
    exact isWritten_template.fits ⟨restores_text.fitsSlot room "name" entry.1,
      restores_flag.fitsSlot room "explicit" entry.2, trivial⟩

/-- The members that tell a type. -/
def typeSlots (entry : String × Templates) : List Slot :=
  [memberSlot "name" .string entry.1, memberSlot "templates" (encodeList encodeTemplate) entry.2]

theorem isWritten_type : IsWritten typeFields typeSlots
    fun entry => [("name", .string entry.1), ("templates", encodeList encodeTemplate entry.2)] where
  gives := fun entry => (Kept.give rfl (.give rfl .nil)).gives
  serves := fun entry => .cons (restores_text.serves "name" entry.1)
    (.cons (restores_template.list.serves "templates" entry.2) .nil)
  names := by decide

theorem restores_type : Restores encodeType decodeType 3 where
  decoded := by
    intro entry
    have hcheck := isWritten_type.check entry
    have hname := isWritten_type.read restores_text (a := entry) (.head _)
    have htemplates := isWritten_type.read restores_template.list (a := entry) (.tail _ (.head _))
    unfold decodeType encodeType
    simp only [hcheck, hname, htemplates, bind, Except.bind]
  fits := by
    -- the list of templates is what makes a type deep
    intro room entry
    exact isWritten_type.fits ⟨restores_text.fitsSlot (room + 2) "name" entry.1,
      restores_template.list.fitsSlot room "templates" entry.2, trivial⟩

/-- The members that tell an expander. -/
def expanderSlots (entry : String × String × Bool) : List Slot :=
  [memberSlot "name" .string entry.1, memberSlot "template" .string entry.2.1,
    memberSlot "explicit_use" .bool entry.2.2]

theorem isWritten_expander : IsWritten expanderFields expanderSlots
    fun entry => [("name", .string entry.1), ("template", .string entry.2.1),
      ("explicit_use", .bool entry.2.2)] where
  gives := fun entry => (Kept.give rfl (.give rfl (.give rfl .nil))).gives
  serves := fun entry => .cons (restores_text.serves "name" entry.1)
    (.cons (restores_text.serves "template" entry.2.1)
      (.cons (restores_flag.serves "explicit_use" entry.2.2) .nil))
  names := by decide

theorem restores_expander : Restores encodeExpander decodeExpander 1 where
  decoded := by
    intro entry
    have hcheck := isWritten_expander.check entry
    have hname := isWritten_expander.read restores_text (a := entry) (.head _)
    have htemplate := isWritten_expander.read restores_text (a := entry) (.tail _ (.head _))
    have huse := isWritten_expander.read restores_flag (a := entry) (.tail _ (.tail _ (.head _)))
    unfold decodeExpander encodeExpander
    simp only [hcheck, hname, htemplate, huse, bind, Except.bind]
  fits := by
    intro room entry
    exact isWritten_expander.fits ⟨restores_text.fitsSlot room "name" entry.1,
      restores_text.fitsSlot room "template" entry.2.1,
      restores_flag.fitsSlot room "explicit_use" entry.2.2, trivial⟩

/-- The members that tell a report. -/
def slots (r : SurveyReport) : List Slot :=
  [memberSlot "types" (encodeList encodeType) r.types,
    memberSlot "expanders" (encodeList encodeExpander) r.expanders]

theorem isWritten_report : IsWritten fields slots
    fun r => [("types", encodeList encodeType r.types),
      ("expanders", encodeList encodeExpander r.expanders)] where
  gives := fun r => (Kept.give rfl (.give rfl .nil)).gives
  serves := fun r => .cons (restores_type.list.serves "types" r.types)
    (.cons (restores_expander.list.serves "expanders" r.expanders) .nil)
  names := by decide

theorem restores_report : Restores toJson decode 5 where
  decoded := by
    intro r
    have hcheck := isWritten_report.check r
    have htypes := isWritten_report.read restores_type.list (a := r) (.head _)
    have hexpanders := isWritten_report.read restores_expander.list (a := r) (.tail _ (.head _))
    rw [toJson_eq]
    unfold decode
    simp only [hcheck, htypes, hexpanders, bind, Except.bind]
  fits := by
    intro room r
    exact isWritten_report.fits ⟨restores_type.list.fitsSlot room "types" r.types,
      restores_expander.list.fitsSlot (room + 2) "expanders" r.expanders, trivial⟩

/-- The text of a report is read as the report. -/
theorem decodeText_toJsonText (r : SurveyReport) :
    decodeText SurveyReport.decode r.toJsonText = .ok r := by
  have hfits : Fits nestingLimit r.toJson := restores_report.fits 122 r
  unfold toJsonText
  rw [decodeText_pretty _ hfits, restores_report.decoded]

/-! ## What runs by a report -/

/-- Whether a type with these templates is one that an expander runs for: the template is listed, and
as an explicit one if the expander works only when asked for. -/
def admits (templates : Templates) (template : String) (explicitUse : Bool) : Bool :=
  (templates.lookup template).any fun explicit => !explicitUse || explicit

/-- Where no template is listed twice, as in every survey of a module, this asks for an entry of the
list. -/
theorem admits_iff {templates : Templates} (h : (templates.map Prod.fst).Nodup) (template : String)
    (explicitUse : Bool) :
    admits templates template explicitUse = true ↔
      ∃ explicit, (template, explicit) ∈ templates ∧ (explicitUse = true → explicit = true) := by
  have huse : ∀ explicit : Bool,
      (!explicitUse || explicit) = true ↔ (explicitUse = true → explicit = true) := by
    intro explicit
    cases explicitUse <;> simp
  unfold admits
  rw [Option.any_eq_true]
  constructor
  · rintro ⟨explicit, hlookup, hadmits⟩
    obtain ⟨before, behind, htemplates, -⟩ := List.lookup_eq_some_iff.mp hlookup
    refine ⟨explicit, ?_, (huse explicit).mp hadmits⟩
    rw [htemplates]
    exact List.mem_append_right before List.mem_cons_self
  · rintro ⟨explicit, hmem, hadmits⟩
    exact ⟨explicit, lookup_of_mem h hmem, (huse explicit).mpr hadmits⟩

/-- The pairs that run, by the report alone: the names of the expander and of the type, expander by
expander and for each type by type. -/
def runs (r : SurveyReport) : List (String × String) :=
  r.expanders.flatMap fun (expander, template, explicitUse) =>
    r.types.filterMap fun (type, templates) =>
      if admits templates template explicitUse then some (expander, type) else none

end SurveyReport

namespace Survey

variable {σ : Type}

/-- The names of a pair, if it runs. -/
def callOf? (pair : Expander σ × ExpandableType) : Option (String × String) :=
  if pair.1.appliesTo pair.2 then some (pair.1.name, pair.2.name) else none

/-- The rule of a report is the rule of an expansion. -/
theorem admits_eq_appliesTo (e : Expander σ) (t : ExpandableType) :
    SurveyReport.admits t.templates e.template e.explicitUse = e.appliesTo t := by
  unfold SurveyReport.admits Expander.appliesTo ExpandableType.accepts ExpandableType.requests
  cases t.templates.lookup e.template with
  | none => rfl
  | some explicit => simp

/-- The pairs that a report says run are those that do. -/
theorem runs_ofSurvey (s : Survey σ) :
    (SurveyReport.ofSurvey s).runs = (pairs s.types s.expanders).filterMap callOf? := by
  unfold SurveyReport.runs SurveyReport.ofSurvey pairs
  rw [List.flatMap_map, List.filterMap_flatMap]
  congr 1
  funext e
  dsimp only
  rw [List.filterMap_map, List.filterMap_map]
  congr 1
  funext t
  show (if SurveyReport.admits t.templates e.template e.explicitUse then some (e.name, t.name)
    else none) = callOf? (e, t)
  rw [admits_eq_appliesTo]
  rfl

end Survey

/-! ## Watching an expansion -/

/-- The expander with a note of every call, behind the notes of the state: its own name and the name
of the type. -/
def Expander.noting {σ : Type} (e : Expander σ) : Expander (σ × List (String × String)) where
  name := e.name
  template := e.template
  explicitUse := e.explicitUse
  call := fun type (n, notes) =>
    let (answer, after) := e.call type n
    (answer, after, notes ++ [(e.name, type.fullName)])

namespace Survey

variable {σ : Type}

/-- The survey with expanders that note their calls. -/
def noting (s : Survey σ) : Survey (σ × List (String × String)) where
  types := s.types
  expanders := s.expanders.map Expander.noting

/-- The pair with an expander that notes its calls. -/
def notingPair (pair : Expander σ × ExpandableType) :
    Expander (σ × List (String × String)) × ExpandableType :=
  (pair.1.noting, pair.2)

theorem pairs_noting (s : Survey σ) :
    pairs s.noting.types s.noting.expanders = (pairs s.types s.expanders).map notingPair := by
  unfold pairs noting notingPair
  simp only [List.flatMap_map, List.map_flatMap, List.map_map]
  rfl

/-- One pair has the fragment that it has without notes and leaves the state that it leaves without
notes, and it notes itself if it runs. -/
theorem fragment_noting (pair : Expander σ × ExpandableType) (n : σ)
    (notes : List (String × String)) :
    fragment (notingPair pair).1 (notingPair pair).2 (n, notes) =
      ((fragment pair.1 pair.2 n).1, (fragment pair.1 pair.2 n).2,
        notes ++ (callOf? pair).toList) := by
  obtain ⟨e, t⟩ := pair
  have hsame : e.noting.appliesTo t = e.appliesTo t := rfl
  unfold callOf? notingPair
  dsimp only
  cases hruns : e.appliesTo t with
  | false =>
      rw [fragment_of_idle hruns, fragment_of_idle (hsame.trans hruns)]
      simp
  | true =>
      cases hcall : e.call t.info n with
      | mk answer after =>
          have hnoted : e.noting.call t.info (n, notes) =
              (answer, after, notes ++ [(e.name, t.name)]) := by
            show ((e.call t.info n).1, (e.call t.info n).2, _) = _
            rw [hcall]
            rfl
          cases answer with
          | ok text => rw [fragment_of_ok hruns hcall, fragment_of_ok (hsame.trans hruns) hnoted]; rfl
          | error cause =>
              rw [fragment_of_error hruns hcall, fragment_of_error (hsame.trans hruns) hnoted]
              rfl

/-- **Watching changes nothing**: an expansion that is watched comes to the same, in the same state,
and notes the pairs that run, in order and each once. Only a fault ends the notes early. -/
theorem fragmentsOf_noting (pairs : List (Expander σ × ExpandableType)) (n : σ)
    (notes : List (String × String)) :
    ∃ called, called <+: pairs.filterMap callOf? ∧
      fragmentsOf (pairs.map notingPair) (n, notes) =
        ((fragmentsOf pairs n).1, (fragmentsOf pairs n).2, notes ++ called) ∧
      ∀ fragments, (fragmentsOf pairs n).1 = .ok fragments →
        called = pairs.filterMap callOf? := by
  induction pairs generalizing n notes with
  | nil => exact ⟨[], List.prefix_rfl, by rw [List.append_nil]; rfl, fun _ _ => rfl⟩
  | cons pair rest ih =>
      have hcalls : (pair :: rest).filterMap callOf? =
          (callOf? pair).toList ++ rest.filterMap callOf? := by
        rw [List.filterMap_cons]
        cases callOf? pair <;> rfl
      rw [hcalls, List.map_cons, fragmentsOf_cons, fragmentsOf_cons, fragment_noting]
      cases fragment pair.1 pair.2 n with
      | mk answer after =>
          cases answer with
          | error fault =>
              -- the pair has been called, and no later one will be
              refine ⟨(callOf? pair).toList, List.prefix_append _ _, rfl, ?_⟩
              intro fragments hfragments
              cases hfragments
          | ok text =>
              obtain ⟨called, hprefix, hrun, hall⟩ := ih after (notes ++ (callOf? pair).toList)
              refine ⟨(callOf? pair).toList ++ called, ?_, ?_, ?_⟩
              · exact (List.prefix_append_right_inj _).mpr hprefix
              · dsimp only
                rw [hrun, List.append_assoc]
              · intro fragments hfragments
                dsimp only at hfragments
                cases hothers : (fragmentsOf rest after).1 with
                | ok others => rw [hall others hothers]
                | error fault =>
                    rw [hothers] at hfragments
                    cases hfragments

/-- No expander faults for a type that it runs for, in whatever state. -/
def Faultless (s : Survey σ) : Prop :=
  ∀ e ∈ s.expanders, ∀ t ∈ s.types, e.appliesTo t = true → ∀ n, ∃ text,
    (e.call t.info n).1 = .ok text

theorem fragmentsOf_of_faultless {pairs : List (Expander σ × ExpandableType)}
    (h : ∀ pair ∈ pairs, pair.1.appliesTo pair.2 = true → ∀ n, ∃ text,
      (pair.1.call pair.2.info n).1 = .ok text) (n : σ) :
    ∃ fragments, (fragmentsOf pairs n).1 = .ok fragments := by
  induction pairs generalizing n with
  | nil => exact ⟨[], rfl⟩
  | cons pair rest ih =>
      have hfirst : ∃ text after, fragment pair.1 pair.2 n = (.ok text, after) := by
        cases hruns : pair.1.appliesTo pair.2 with
        | false => exact ⟨"", n, fragment_of_idle hruns n⟩
        | true =>
            obtain ⟨text, htext⟩ := h pair List.mem_cons_self hruns n
            exact ⟨text, _, fragment_of_ok hruns (Prod.ext htext rfl)⟩
      obtain ⟨text, after, hfragment⟩ := hfirst
      obtain ⟨others, hothers⟩ := ih (fun other hother => h other (.tail _ hother)) after
      refine ⟨text :: others, ?_⟩
      rw [fragmentsOf_cons_ok hfragment, hothers]
      rfl

theorem Faultless.expand_ok {s : Survey σ} (h : s.Faultless) (n : σ) :
    ∃ fragments, (s.expand n).1 = .ok fragments := by
  refine fragmentsOf_of_faultless ?_ n
  intro pair hpair
  obtain ⟨e, he, hpair⟩ := List.mem_flatMap.mp hpair
  obtain ⟨t, ht, rfl⟩ := List.mem_map.mp hpair
  exact h e he t ht

end Survey

/-! ## From the text to the calls -/

namespace SurveyReport

variable {σ : Type}

/-- **The JSON report of a survey tells what an expansion calls.** Read back from its text, the report
has every type with its templates and every expander with its template and use, in order. An
expansion from any state calls the pairs that run by the report, in order and each once: all of them
if it comes to fragments, and those up to a fault if it does not. It comes to fragments if no expander
faults. -/
theorem calls_of_text (s : Survey σ) :
    ∃ report, decodeText SurveyReport.decode (ofSurvey s).toJsonText = .ok report ∧
      report.types = s.types.map (fun t => (t.name, t.templates)) ∧
      report.expanders = s.expanders.map (fun e => (e.name, e.template, e.explicitUse)) ∧
      (∀ n notes, ∃ called, called <+: report.runs ∧
        s.noting.expand (n, notes) = ((s.expand n).1, (s.expand n).2, notes ++ called) ∧
        ∀ fragments, (s.expand n).1 = .ok fragments → called = report.runs) ∧
      (s.Faultless → ∀ n, ∃ fragments, (s.expand n).1 = .ok fragments) := by
  refine ⟨ofSurvey s, decodeText_toJsonText _, rfl, rfl, ?_, fun h n => h.expand_ok n⟩
  intro n notes
  rw [Survey.runs_ofSurvey]
  show ∃ called, _ ∧ Survey.fragmentsOf (Survey.pairs s.noting.types s.noting.expanders) (n, notes) =
    _ ∧ _
  rw [Survey.pairs_noting]
  exact Survey.fragmentsOf_noting (Survey.pairs s.types s.expanders) n notes

/-- A name with quotation marks, and a type that lists a template without asking for it: the text
tells the two calls of four pairs. -/
theorem calls_of_quotedNames :
    let s : Survey Unit :=
      ⟨[⟨⟨"m.\"A\"", []⟩, [("Eq", true), ("Show", false)]⟩, ⟨⟨"m.B", []⟩, [("Eq", false)]⟩],
        [⟨"gen.eq", "Eq", true, fun _ => pure (.ok "eq")⟩,
          ⟨"gen.show", "Show", false, fun _ => pure (.ok "show")⟩]⟩
    s.Faultless ∧ ∃ report,
      decodeText SurveyReport.decode (ofSurvey s).toJsonText = .ok report ∧
      (s.noting.expand ((), [])).2.2 = report.runs ∧
      report.runs = [("gen.eq", "m.\"A\""), ("gen.show", "m.\"A\"")] := by
  intro s
  have hfaultless : s.Faultless := by
    intro e he t _ _ n
    simp only [s, List.mem_cons, List.not_mem_nil, or_false] at he
    rcases he with rfl | rfl
    · exact ⟨"eq", rfl⟩
    · exact ⟨"show", rfl⟩
  obtain ⟨report, hread, htypes, hexpanders, hwatch, hends⟩ := calls_of_text s
  have hruns : report.runs = [("gen.eq", "m.\"A\""), ("gen.show", "m.\"A\"")] := by
    unfold runs
    rw [htypes, hexpanders]
    decide
  obtain ⟨called, -, hrun, hall⟩ := hwatch () []
  obtain ⟨fragments, hfragments⟩ := hends hfaultless ()
  refine ⟨hfaultless, report, hread, ?_, hruns⟩
  rw [hrun, hall fragments hfragments]
  rfl

end SurveyReport

end Expansion
