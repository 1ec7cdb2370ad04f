import Expansion.Proofs.Catalog.ShortName
import Expansion.Proofs.Disk.Rewrite
import Expansion.Proofs.Outline.Compile
import Expansion.Proofs.Text.Replace

/-!
# Expanders' texts with the names put in

A call puts three names into an expander's text, one mark after the other. Filled at once, the text
would show each name as it is (`Text.Filled`); mark after mark, a name that has been put in is looked
through for the marks that follow.

* **`invoke_fills_iff`**: all calls of a function for a type return the expander's text filled at
  once exactly if the names pass the marks that are replaced after them (`Harmless`).
* For other names there is a text that shows it: around the mark of a name stand the front and the
  end of another mark, which the name completes (`filled_around`). Plainest is a name that is itself
  a mark (`not_filled_of_markName`).
-/

namespace Expansion.Outline

open Text (Filled Distinct Clear Passes Inert Around replaceChars)

variable {function typeName : String}

/-- Stands for a type's short name. -/
def typeMark : List Char := "\x7btype\x7d".toList

/-- Stands for a type's full name. -/
def fullTypeMark : List Char := "\x7bfull_type\x7d".toList

/-- Stands for the function's short name. -/
def nameMark : List Char := "\x7bname\x7d".toList

/-- What the marks of an expander's text stand for. -/
def marks (function typeName : String) : Text.Marks :=
  [(typeMark, (shortName typeName).toList), (fullTypeMark, typeName.toList),
    (nameMark, (shortName function).toList)]

/-- The names pass the marks that are replaced after them. -/
structure Harmless (function typeName : String) : Prop where
  shortType : Passes fullTypeMark typeName.toList (shortName typeName).toList
  shortTypeName : Passes nameMark (shortName function).toList (shortName typeName).toList
  fullTypeName : Passes nameMark (shortName function).toList typeName.toList

/-! ## The three marks -/

theorem typeMark_ne_nil : typeMark ≠ [] := by decide

theorem fullTypeMark_ne_nil : fullTypeMark ≠ [] := by decide

theorem nameMark_ne_nil : nameMark ≠ [] := by decide

theorem distinct_marks (function typeName : String) : Distinct (marks function typeName) where
  notEmpty := by
    simp only [marks, List.forall_mem_cons, List.not_mem_nil]
    exact ⟨typeMark_ne_nil, fullTypeMark_ne_nil, nameMark_ne_nil, fun _ h => h.elim⟩
  apart := by
    have hkeys : ∀ mark ∈ [typeMark, fullTypeMark, nameMark],
        ∀ other ∈ [typeMark, fullTypeMark, nameMark], mark <+: other → mark = other := by
      decide
    have hsingle : ∀ entry ∈ marks function typeName, ∀ other ∈ marks function typeName,
        entry.1 = other.1 → entry = other :=
      List.inj_on_of_nodup_map (show [typeMark, fullTypeMark, nameMark].Nodup by decide)
    intro entry hentry other hother hbegins
    exact hsingle entry hentry other hother
      (hkeys _ (List.mem_map_of_mem hentry) _ (List.mem_map_of_mem hother) hbegins)

/-! ## Filling mark after mark -/

/-- A text with the short name of the type put in, then its full name, then the function's name. -/
def fillChars (function typeName : String) (s : List Char) : List Char :=
  replaceChars nameMark (shortName function).toList
    (replaceChars fullTypeMark typeName.toList
      (replaceChars typeMark (shortName typeName).toList s))

theorem toList_fill (body function typeName : String) :
    (fill body function typeName).toList = fillChars function typeName body.toList := by
  simp only [fill, Text.replaceAll, String.toList_ofList]
  rfl

/-- Names that pass the marks after them stay as they are. -/
theorem filled_of_harmless (h : Harmless function typeName) (s : List Char) :
    Filled (marks function typeName) s (fillChars function typeName s) := by
  have hkeys : ∀ mark ∈ [typeMark, fullTypeMark, nameMark], mark ≠ [] := by decide
  unfold fillChars
  induction s using Text.markInduction hkeys with
  | done => exact .done
  | put mark hmark rest ih =>
      simp only [List.mem_cons, List.not_mem_nil, or_false] at hmark
      rcases hmark with rfl | rfl | rfl
      · rw [Text.replaceChars_mark typeMark_ne_nil,
          h.shortType.replaceChars_append fullTypeMark_ne_nil,
          h.shortTypeName.replaceChars_append nameMark_ne_nil]
        exact .put (.head _) ih
      · have hpass : Inert typeMark fullTypeMark := by decide
        rw [Text.replaceChars_clear typeMark_ne_nil (hpass.clear rest),
          Text.replaceChars_mark fullTypeMark_ne_nil,
          h.fullTypeName.replaceChars_append nameMark_ne_nil]
        exact .put (.tail _ (.head _)) ih
      · have hpass : Inert typeMark nameMark := by decide
        have hpass' : Inert fullTypeMark nameMark := by decide
        rw [Text.replaceChars_clear typeMark_ne_nil (hpass.clear rest),
          Text.replaceChars_clear fullTypeMark_ne_nil (hpass'.clear _),
          Text.replaceChars_mark nameMark_ne_nil]
        exact .put (.tail _ (.tail _ (.head _))) ih
  | keep c rest hno ih =>
      have hfull := h.shortType.not_begins typeMark_ne_nil (.inr (hno _ (.tail _ (.head _))))
      have hname := h.fullTypeName.not_begins fullTypeMark_ne_nil
        (h.shortTypeName.not_begins typeMark_ne_nil (.inr (hno _ (.tail _ (.tail _ (.head _))))))
      rw [Text.replaceChars_char (hno _ (.head _)), Text.replaceChars_keep fullTypeMark_ne_nil hfull,
        Text.replaceChars_keep nameMark_ne_nil hname]
      exact .keep (fun entry hentry => hno entry.1 (List.mem_map_of_mem hentry)) ih

/-! ## Names between the ends of a mark -/

variable {mark before after s : List Char}

/-- A front and an end of one of the later two marks make no mark with one of the first two. -/
theorem clear_around (hmark : mark ∈ [fullTypeMark, nameMark]) (h : Around mark before after)
    {put : List Char} (hput : put ∈ [typeMark, fullTypeMark]) :
    Clear [typeMark, fullTypeMark, nameMark] before (put ++ after) ∧
      Clear [typeMark, fullTypeMark, nameMark] after [] := by
  have hall : ∀ mark ∈ [fullTypeMark, nameMark], ∀ before ∈ mark.inits, before ≠ mark →
      ∀ after ∈ mark.tails, after ≠ mark → ∀ put ∈ [typeMark, fullTypeMark],
        Clear [typeMark, fullTypeMark, nameMark] before (put ++ after) ∧
          Clear [typeMark, fullTypeMark, nameMark] after [] := by
    decide +kernel
  exact hall mark hmark before ((List.mem_inits _ _).mpr h.front) h.front_ne after
    ((List.mem_tails _ _).mpr h.back) h.back_ne put hput

/-- So one of the first two marks between the two is replaced alone. -/
theorem replaceChars_around (hmark : mark ∈ [fullTypeMark, nameMark]) (h : Around mark before after)
    {put : List Char} (hput : put ∈ [typeMark, fullTypeMark]) (text : List Char) :
    replaceChars put text (before ++ (put ++ after)) = before ++ (text ++ after) := by
  obtain ⟨hbefore, hafter⟩ := clear_around hmark h hput
  have honly : ∀ put ∈ [typeMark, fullTypeMark],
      put ≠ [] ∧ [put] ⊆ [typeMark, fullTypeMark, nameMark] := by
    decide
  obtain ⟨hne, hsub⟩ := honly put hput
  exact Text.replaceChars_once hne (hbefore.mono hsub) (hafter.mono hsub) text

theorem filled_around (hmark : mark ∈ [fullTypeMark, nameMark]) (h : Around mark before after)
    {put text : List Char} (hput : put ∈ [typeMark, fullTypeMark])
    (hmem : (put, text) ∈ marks function typeName) :
    Filled (marks function typeName) (before ++ (put ++ after)) (before ++ (text ++ after)) := by
  obtain ⟨hbefore, hafter⟩ := clear_around hmark h hput
  exact .once hmem hbefore hafter

/-- A name has a character that no mark has, if it has a short name of its own. -/
theorem exists_separator (h : shortName typeName ≠ typeName) :
    ∃ c ∈ typeName.toList, c ∉ fullTypeMark ∧ c ∉ nameMark := by
  by_contra hnone
  push Not at hnone
  -- every separator has a character that is in neither mark
  have hown : ∀ mark ∈ nameSeparators, '.' ∈ mark ∨ ':' ∈ mark := by decide
  refine h (shortName_of_absent ?_)
  intro mark hmark hthere
  rcases hown mark hmark with hdot | hcolon
  · exact absurd (hnone '.' (hthere.subset hdot) (by decide)) (by decide)
  · exact absurd (hnone ':' (hthere.subset hcolon) (by decide)) (by decide)

/-- If the later two marks leave a text alone, and the full name is not the short one, the text has no
mark for it: it would bring its separators. -/
theorem fullTypeMark_absent (hne : shortName typeName ≠ typeName)
    (hfixed : replaceChars nameMark (shortName function).toList
      (replaceChars fullTypeMark typeName.toList s) = s) : ¬fullTypeMark <:+: s := by
  intro hthere
  obtain ⟨c, hc, hfull, hname⟩ := exists_separator hne
  have hmore := (Text.count_replaceChars fullTypeMark_ne_nil hfull typeName.toList s).2 hthere
  have hkept := (Text.count_replaceChars nameMark_ne_nil hname (shortName function).toList
    (replaceChars fullTypeMark typeName.toList s)).1
  rw [hfixed] at hkept
  have hpos := List.count_pos_iff.mpr hc
  omega

section Fills

variable (h : ∀ s, Filled (marks function typeName) s (fillChars function typeName s))

include h

theorem fullTypeName_of_fills : Passes nameMark (shortName function).toList typeName.toList := by
  by_contra hnot
  rw [Passes, not_or] at hnot
  obtain ⟨before, after, haround, hthere⟩ := Text.exists_around nameMark_ne_nil hnot.2
  -- the mark of the full name stands between the parts, so only the last mark can change the result
  have hfull : fullTypeMark ∈ [typeMark, fullTypeMark] := .tail _ (.head _)
  have hname : nameMark ∈ [fullTypeMark, nameMark] := .tail _ (.head _)
  have hfilled := (h (before ++ (fullTypeMark ++ after))).unique (distinct_marks _ _)
    (filled_around hname haround hfull (.tail _ (.head _)))
  have hnone : ∀ before ∈ nameMark.inits, ∀ after ∈ nameMark.tails,
      ¬typeMark <:+: before ++ (fullTypeMark ++ after) := by
    decide +kernel
  rw [fillChars,
    Text.replaceChars_absent (hnone before ((List.mem_inits _ _).mpr haround.front) after
      ((List.mem_tails _ _).mpr haround.back)),
    replaceChars_around hname haround hfull] at hfilled
  exact hnot.1 (Text.eq_of_replaceChars_eq nameMark_ne_nil hthere hfilled)

/-- The later two marks leave the short name alone, with parts of a mark around it. -/
theorem fixed_of_fills (hmark : mark ∈ [fullTypeMark, nameMark]) (haround : Around mark before after) :
    replaceChars nameMark (shortName function).toList
      (replaceChars fullTypeMark typeName.toList
        (before ++ ((shortName typeName).toList ++ after))) =
      before ++ ((shortName typeName).toList ++ after) := by
  have hfilled := (h (before ++ (typeMark ++ after))).unique (distinct_marks _ _)
    (filled_around hmark haround (.head _) (.head _))
  rwa [fillChars, replaceChars_around hmark haround (.head _)] at hfilled

theorem shortTypeName_of_fills :
    Passes nameMark (shortName function).toList (shortName typeName).toList := by
  by_cases hsame : shortName typeName = typeName
  · rw [hsame]
    exact fullTypeName_of_fills h
  · by_contra hnot
    rw [Passes, not_or] at hnot
    obtain ⟨before, after, haround, hthere⟩ := Text.exists_around nameMark_ne_nil hnot.2
    have hfixed := fixed_of_fills h (.tail _ (.head _)) haround
    -- the text has no mark for the full name, which leaves the last mark to change it
    rw [Text.replaceChars_absent (fullTypeMark_absent hsame hfixed)] at hfixed
    exact hnot.1 (Text.eq_of_replaceChars_eq nameMark_ne_nil hthere hfixed)

theorem shortType_of_fills : Passes fullTypeMark typeName.toList (shortName typeName).toList := by
  by_contra hnot
  rw [Passes, not_or] at hnot
  obtain ⟨before, after, haround, hthere⟩ := Text.exists_around fullTypeMark_ne_nil hnot.2
  have hfixed := fixed_of_fills h (.head _) haround
  by_cases hsame : shortName typeName = typeName
  · -- what is put in for the full name passes the last mark, which therefore changes nothing
    rw [hsame] at hthere hfixed
    have hlast : replaceChars nameMark (shortName function).toList
        (replaceChars fullTypeMark typeName.toList (before ++ (typeName.toList ++ after))) =
          replaceChars fullTypeMark typeName.toList (before ++ (typeName.toList ++ after)) := by
      rcases fullTypeName_of_fills h with hself | hinert
      · rw [hself, Text.replaceChars_self nameMark_ne_nil]
      · refine Text.replaceChars_absent (fun hname => ?_) _
        have hnone : ∀ before ∈ fullTypeMark.inits, ∀ after ∈ fullTypeMark.tails,
            ¬nameMark <:+: before ++ (typeMark ++ after) := by
          decide +kernel
        have hput := Text.infix_of_infix_replaceChars fullTypeMark_ne_nil hinert hname
        rw [← replaceChars_around (.head _) haround (.head _)] at hput
        exact hnone before ((List.mem_inits _ _).mpr haround.front) after
          ((List.mem_tails _ _).mpr haround.back)
          (Text.infix_of_infix_replaceChars typeMark_ne_nil hinert hput)
    rw [hlast] at hfixed
    exact hnot.1 (Text.eq_of_replaceChars_eq fullTypeMark_ne_nil hthere hfixed)
  · exact fullTypeMark_absent hsame hfixed hthere

end Fills

/-- Every text is filled at once exactly if the names pass the marks after them. -/
theorem filled_iff_harmless : (∀ s, Filled (marks function typeName) s (fillChars function typeName s)) ↔
    Harmless function typeName :=
  ⟨fun h => ⟨shortType_of_fills h, shortTypeName_of_fills h, fullTypeName_of_fills h⟩,
    filled_of_harmless⟩

/-! ## Calls -/

/-- A disk with nothing on it. -/
def emptyDisk : Disk where
  entries := []
  home := []
  scratch := ⟨"/tmp"⟩

/-- Every text is that of an expander in some artifact. -/
theorem exists_expander (function typeName body : String) : ∃ d p artifact,
    load d p = .ok artifact ∧ artifact.bodies.lookup function = some body ∧
      (function, typeName) ∉ artifact.failures := by
  have hroom : emptyDisk.Writable ⟨"a"⟩ :=
    Disk.writable_of_isSome ByteArray.empty (by decide +kernel)
  let artifact : Artifact := ⟨⟨[], []⟩, [(function, body)], [], []⟩
  obtain ⟨left, hwrite⟩ := hroom artifact.toText.toUTF8
  have hsorted : artifact.bodies.Sorted := List.pairwise_singleton _ _
  exact ⟨left, ⟨"a"⟩, artifact, (Artifact.written hsorted hwrite).load, by simp [artifact],
    List.not_mem_nil⟩

theorem invoke_of_load {d : Disk} {p : FilePath} {artifact : Artifact} {body : String}
    (hload : load d p = .ok artifact) (hbody : artifact.bodies.lookup function = some body)
    (hworks : (function, typeName) ∉ artifact.failures) :
    invoke d ⟨p, function, typeName⟩ = .ok (fill body function typeName) := by
  have hnot : artifact.failures.contains (function, typeName) = false := by simpa using hworks
  unfold invoke Artifact.call
  dsimp only
  rw [hload]
  dsimp only
  rw [hbody]
  dsimp only
  rw [hnot, if_neg Bool.false_ne_true]

/-- **What a call returns** is the expander's text with each mark in it replaced by its name, and
nothing of what has been put in replaced again, whatever the text, exactly if the names pass the marks
that are replaced after them. -/
theorem invoke_fills_iff (function typeName : String) :
    (∀ d p artifact body, load d p = .ok artifact → artifact.bodies.lookup function = some body →
        (function, typeName) ∉ artifact.failures →
        ∃ text, invoke d ⟨p, function, typeName⟩ = .ok text ∧
          Filled (marks function typeName) body.toList text.toList) ↔
      Harmless function typeName := by
  rw [← filled_iff_harmless]
  constructor
  · intro h s
    obtain ⟨d, p, artifact, hload, hbody, hworks⟩ :=
      exists_expander function typeName (String.ofList s)
    obtain ⟨text, hinvoke, hfilled⟩ := h d p artifact _ hload hbody hworks
    rw [invoke_of_load hload hbody hworks] at hinvoke
    obtain rfl := Except.ok.inj hinvoke
    rwa [toList_fill, String.toList_ofList] at hfilled
  · intro h d p artifact body hload hbody hworks
    refine ⟨_, invoke_of_load hload hbody hworks, ?_⟩
    rw [toList_fill]
    exact h body.toList

/-- A call for plain names fills its text at once. -/
theorem invoke_plainNames : ∃ d p, invoke d ⟨p, "gen.show", "model.Person"⟩ =
    .ok "show of Person, a model.Person" := by
  obtain ⟨d, p, artifact, hload, hbody, hworks⟩ := exists_expander "gen.show" "model.Person"
    "\x7bname\x7d of \x7btype\x7d, a \x7bfull_type\x7d"
  have hharmless : Harmless "gen.show" "model.Person" :=
    ⟨by decide +kernel, by decide +kernel, by decide +kernel⟩
  obtain ⟨text, hinvoke, hfilled⟩ :=
    (invoke_fills_iff "gen.show" "model.Person").mpr hharmless d p artifact _ hload hbody hworks
  have hchars : fillChars "gen.show" "model.Person"
      "\x7bname\x7d of \x7btype\x7d, a \x7bfull_type\x7d".toList =
        "show of Person, a model.Person".toList := by
    decide +kernel
  have htext := hfilled.unique (distinct_marks _ _) (filled_of_harmless hharmless _)
  rw [hchars, String.toList_inj] at htext
  exact ⟨d, p, htext ▸ hinvoke⟩

/-- For a type with the name of a mark, the name that is put in is replaced by the function's. -/
theorem not_filled_of_markName : ∃ d p artifact text, load d p = .ok artifact ∧
    artifact.bodies.lookup "g.s" = some "\x7btype\x7d" ∧
    invoke d ⟨p, "g.s", "\x7bname\x7d"⟩ = .ok text ∧
    ¬Filled (marks "g.s" "\x7bname\x7d") "\x7btype\x7d".toList text.toList := by
  obtain ⟨d, p, artifact, hload, hbody, hworks⟩ :=
    exists_expander "g.s" "\x7bname\x7d" "\x7btype\x7d"
  refine ⟨d, p, artifact, _, hload, hbody, invoke_of_load hload hbody hworks, fun hfilled => ?_⟩
  have honce : Filled (marks "g.s" "\x7bname\x7d") ([] ++ (typeMark ++ []))
      ([] ++ ((shortName "\x7bname\x7d").toList ++ [])) :=
    .once (.head _) (by decide) (by decide)
  have hsame := hfilled.unique (distinct_marks _ _) honce
  rw [toList_fill] at hsame
  exact absurd hsame (by decide +kernel)

end Expansion.Outline
