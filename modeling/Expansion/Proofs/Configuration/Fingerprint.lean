import Expansion.Configuration
import Expansion.Proofs.Disk.Paths
import Mathlib.Tactic.SplitIfs

/-!
# What the fingerprint is taken of

The hashed bytes are the texts of a configuration one behind the other, each but the last ended by a
null byte. Nothing counts them: the mark in front of an item says which list it belongs to, and no
mode's name begins like a mark.

* **`fingerprintBytes_eq_iff_of_nulls`**: the bytes are the same exactly if all that is hashed is
  written in the same way, wherever the null characters of the items agree one by one.
* `fingerprintBytes_eq_iff_spelledAlike`: so the bytes tell all configurations apart whose items
  have no null characters, whatever else their texts are made of.
* `fingerprintBytes_eq_iff_of_same`: configurations that are taken for the same have the same bytes
  exactly if their paths are spelled the same. `not_fingerprint_eq_of_slash`: a slash at the end is
  enough to make a difference.
-/

namespace Expansion

/-! ## The null characters of a path -/

namespace Disk

theorem count_null_namesOf (pieces : List String) :
    ((namesOf pieces).flatMap String.toList).count '\x00' =
      (pieces.flatMap String.toList).count '\x00' := by
  induction pieces with
  | nil => rfl
  | cons piece rest ih =>
      rw [List.flatMap_cons, List.count_append]
      by_cases hidle : piece = "" ∨ piece = "."
      · have hnone : piece.toList.count '\x00' = 0 := by rcases hidle with rfl | rfl <;> rfl
        rw [namesOf_idle hidle, ih, hnone, Nat.zero_add]
      · rw [namesOf_spoken hidle, List.flatMap_cons, List.count_append, ih]

/-- The null characters of a path are those of its names. -/
theorem count_null_text (p : FilePath) :
    p.text.toList.count '\x00' =
      ((namesOf (piecesOf p.text)).flatMap String.toList).count '\x00' := by
  have hflat : ∀ pieces : List (List Char),
      (pieces.map String.ofList).flatMap String.toList = pieces.flatten := by
    intro pieces
    rw [List.flatMap_map]
    simp
  rw [count_null_namesOf, piecesOf, Text.splitOn, hflat, Text.flatten_splitChars,
    List.count_filter (by decide)]

theorem count_null_text_of_same {p q : FilePath} (h : p.same q = true) :
    p.text.toList.count '\x00' = q.text.toList.count '\x00' := by
  rw [count_null_text, count_null_text, (namesOf_eq_of_same h).1]

end Disk

/-! ## Null bytes and null characters -/

namespace Configuration

variable {s t : String} {as bs rest other : List UInt8}

theorem bytesOf_eq (s : String) : bytesOf s = s.toList.flatMap String.utf8EncodeChar := by
  unfold bytesOf
  rw [String.toUTF8_eq_toByteArray, ← String.utf8Encode_toList, List.utf8Encode,
    List.toList_data_toByteArray]

theorem bytesOf_inj : bytesOf s = bytesOf t ↔ s = t := by
  refine ⟨fun h => ?_, congrArg bytesOf⟩
  have hdata : s.toUTF8 = t.toUTF8 := ByteArray.ext (Array.toList_inj.mp h)
  rwa [String.toUTF8_eq_toByteArray, String.toUTF8_eq_toByteArray, String.toByteArray_inj] at hdata

theorem ofNat_ne_zero {n : Nat} (hpos : 0 < n) (hsmall : n < 256) : 0 ≠ UInt8.ofNat n := by
  intro h
  have hnat : 0 = (UInt8.ofNat n).toNat := congrArg UInt8.toNat h
  rw [UInt8.toNat_ofNat', Nat.mod_eq_of_lt hsmall] at hnat
  omega

/-- Only the null character has a null byte. -/
theorem count_null_utf8EncodeChar (c : Char) :
    (String.utf8EncodeChar c).count 0 = [c].count '\x00' := by
  by_cases hc : c = '\x00'
  · rw [hc]
    rfl
  · have hpos : 0 < c.val.toNat := by
      rw [Nat.pos_iff_ne_zero]
      intro hzero
      exact hc (Char.ext (UInt32.toNat_inj.mp hzero))
    -- the bytes of longer characters are marked in their upper half
    have hbytes : 0 ∉ String.utf8EncodeChar c := by
      unfold String.utf8EncodeChar
      dsimp only
      split_ifs <;> simp only [List.mem_cons, List.not_mem_nil, or_false, not_or]
      · exact ofNat_ne_zero hpos (by omega)
      · exact ⟨ofNat_ne_zero (by omega) (by omega), ofNat_ne_zero (by omega) (by omega)⟩
      · exact ⟨ofNat_ne_zero (by omega) (by omega), ofNat_ne_zero (by omega) (by omega),
          ofNat_ne_zero (by omega) (by omega)⟩
      · exact ⟨ofNat_ne_zero (by omega) (by omega), ofNat_ne_zero (by omega) (by omega),
          ofNat_ne_zero (by omega) (by omega), ofNat_ne_zero (by omega) (by omega)⟩
    rw [List.count_eq_zero.mpr hbytes, List.count_eq_zero.mpr]
    simpa using Ne.symm hc

theorem count_null_bytesOf (s : String) : (bytesOf s).count 0 = s.toList.count '\x00' := by
  rw [bytesOf_eq]
  induction s.toList with
  | nil => rfl
  | cons c cs ih =>
      rw [List.flatMap_cons, List.count_append, count_null_utf8EncodeChar, ih, ← List.count_append]
      rfl

/-- Where the next null byte ends something is told by how many came before. -/
theorem ended_inj (hcount : as.count 0 = bs.count 0) (h : as ++ 0 :: rest = bs ++ 0 :: other) :
    as = bs ∧ rest = other := by
  induction as generalizing bs with
  | nil =>
      cases bs with
      | nil => exact ⟨rfl, (List.cons.inj h).2⟩
      | cons b bs =>
          obtain ⟨rfl, -⟩ := List.cons.inj h
          simp at hcount
  | cons a as ih =>
      cases bs with
      | nil =>
          obtain ⟨rfl, -⟩ := List.cons.inj h
          simp at hcount
      | cons b bs =>
          obtain ⟨rfl, htail⟩ := List.cons.inj h
          rw [List.count_cons, List.count_cons, Nat.add_right_cancel_iff] at hcount
          obtain ⟨rfl, hrest⟩ := ih hcount htail
          exact ⟨rfl, hrest⟩

theorem ended_text_inj (hnulls : s.toList.count '\x00' = t.toList.count '\x00') :
    bytesOf s ++ 0 :: rest = bytesOf t ++ 0 :: other ↔ s = t ∧ rest = other := by
  constructor
  · intro h
    rw [← count_null_bytesOf, ← count_null_bytesOf] at hnulls
    obtain ⟨htext, hrest⟩ := ended_inj hnulls h
    exact ⟨bytesOf_inj.mp htext, hrest⟩
  · rintro ⟨rfl, rfl⟩
    rfl

/-! ## Marked items -/

/-- The texts of two lists have the same number of null characters, one by one. -/
def NullsAgree (xs ys : List String) : Prop :=
  ∀ pair ∈ xs.zip ys, pair.1.toList.count '\x00' = pair.2.toList.count '\x00'

theorem nullsAgree_refl (xs : List String) : NullsAgree xs xs := by
  intro pair hpair
  rw [List.zip_eq_zipWith, List.zipWith_self] at hpair
  obtain ⟨x, -, rfl⟩ := List.mem_map.mp hpair
  rfl

variable {mark : String} {xs ys items : List String} {b m : UInt8}

theorem markedItems_cons (mark item : String) (items : List String) (rest : List UInt8) :
    markedItems mark (item :: items) ++ rest =
      bytesOf mark ++ (bytesOf item ++ 0 :: (markedItems mark items ++ rest)) := by
  unfold markedItems
  rw [List.flatMap_cons]
  simp only [List.append_assoc, List.cons_append, List.nil_append]

/-- The first byte behind the items of a list is that of a mark or of what follows. -/
theorem head?_markedItems_ne (hmark : (bytesOf mark).head? = some m) (hne : m ≠ b)
    (hrest : rest.head? ≠ some b) : (markedItems mark items ++ rest).head? ≠ some b := by
  cases items with
  | nil => exact hrest
  | cons item items =>
      rw [markedItems_cons, List.head?_append, hmark, Option.some_or]
      exact fun h => hne (Option.some.inj h)

/-- **The items of a list are told from what follows**, if that does not begin like their mark. -/
theorem markedItems_inj (hmark : (bytesOf mark).head? = some b) (hnulls : NullsAgree xs ys)
    (hrest : rest.head? ≠ some b) (hother : other.head? ≠ some b) :
    markedItems mark xs ++ rest = markedItems mark ys ++ other ↔ xs = ys ∧ rest = other := by
  induction xs generalizing ys with
  | nil =>
      cases ys with
      | nil => exact (and_iff_right rfl).symm
      | cons y ys =>
          refine iff_of_false (fun h => hrest ?_) fun h => nomatch h.1
          rw [markedItems_cons] at h
          rw [show rest = _ from h, List.head?_append, hmark, Option.some_or]
  | cons x xs ih =>
      cases ys with
      | nil =>
          refine iff_of_false (fun h => hother ?_) fun h => nomatch h.1
          rw [markedItems_cons] at h
          rw [show other = _ from h.symm, List.head?_append, hmark, Option.some_or]
      | cons y ys =>
          have hfirst : x.toList.count '\x00' = y.toList.count '\x00' :=
            hnulls (x, y) List.mem_cons_self
          have hlater : NullsAgree xs ys := fun pair hpair =>
            hnulls pair (List.mem_cons_of_mem (x, y) hpair)
          rw [markedItems_cons, markedItems_cons, List.append_right_inj, ended_text_inj hfirst,
            ih hlater, List.cons_eq_cons, and_assoc]

/-! ## From the back to the front -/

/-- What is hashed behind the flags. -/
def afterFlags (c : Configuration) : List UInt8 := bytesOf c.mode.name ++ 0 :: bytesOf c.output.text

/-- What is hashed behind the references. -/
def afterReferences (c : Configuration) : List UInt8 := markedItems "f:" c.flags ++ c.afterFlags

/-- What is hashed behind the sources. -/
def afterSources (c : Configuration) : List UInt8 :=
  markedItems "r:" (c.references.map FilePath.text) ++ c.afterReferences

theorem fingerprintBytes_eq (c : Configuration) :
    c.fingerprintBytes = bytesOf c.sources.form.name ++
      0 :: (markedItems "s:" (c.sources.paths.map FilePath.text) ++ c.afterSources) := by
  unfold fingerprintBytes afterSources afterReferences afterFlags
  simp only [List.append_assoc, List.cons_append, List.nil_append]

variable {config c d : Configuration}

/-- Every mode's name begins with the same letter. -/
theorem head?_afterFlags_ne (hmode : 'e'.toUInt8 ≠ b) : config.afterFlags.head? ≠ some b := by
  have hhead : config.afterFlags.head? = some 'e'.toUInt8 := by
    unfold afterFlags
    cases config.mode <;> rfl
  rw [hhead]
  exact fun h => hmode (Option.some.inj h)

theorem head?_afterReferences_ne (hflags : 'f'.toUInt8 ≠ b) (hmode : 'e'.toUInt8 ≠ b) :
    config.afterReferences.head? ≠ some b :=
  head?_markedItems_ne rfl hflags (head?_afterFlags_ne hmode)

theorem head?_afterSources_ne (hreferences : 'r'.toUInt8 ≠ b) (hflags : 'f'.toUInt8 ≠ b)
    (hmode : 'e'.toUInt8 ≠ b) : config.afterSources.head? ≠ some b :=
  head?_markedItems_ne rfl hreferences (head?_afterReferences_ne hflags hmode)

theorem texts_inj {ps qs : List FilePath} :
    ps.map FilePath.text = qs.map FilePath.text ↔ ps = qs := by
  refine List.map_inj_right ?_
  rintro ⟨s⟩ ⟨t⟩ rfl
  rfl

theorem afterFlags_inj : c.afterFlags = d.afterFlags ↔ c.mode = d.mode ∧ c.output = d.output := by
  have hnulls (mode : OutputMode) : mode.name.toList.count '\x00' = 0 := by cases mode <;> rfl
  have hname : c.mode.name = d.mode.name ↔ c.mode = d.mode := by
    cases c.mode <;> cases d.mode <;> decide
  have houtput : c.output.text = d.output.text ↔ c.output = d.output :=
    ⟨congrArg FilePath.mk, congrArg FilePath.text⟩
  unfold afterFlags
  rw [ended_text_inj ((hnulls _).trans (hnulls _).symm), bytesOf_inj, hname, houtput]

theorem afterReferences_inj (hnulls : NullsAgree c.flags d.flags) :
    c.afterReferences = d.afterReferences ↔ c.flags = d.flags ∧ c.afterFlags = d.afterFlags :=
  markedItems_inj rfl hnulls (head?_afterFlags_ne (by decide)) (head?_afterFlags_ne (by decide))

theorem afterSources_inj
    (hnulls : NullsAgree (c.references.map FilePath.text) (d.references.map FilePath.text)) :
    c.afterSources = d.afterSources ↔
      c.references = d.references ∧ c.afterReferences = d.afterReferences := by
  unfold afterSources
  rw [markedItems_inj rfl hnulls (head?_afterReferences_ne (by decide) (by decide))
    (head?_afterReferences_ne (by decide) (by decide)), texts_inj]

/-! ## Whole configurations -/

/-- Two configurations that are written alike in all that the fingerprint is taken of. Paths are
equal here if their texts are. -/
structure SpelledAlike (c d : Configuration) : Prop where
  form : c.sources.form = d.sources.form
  sources : c.sources.paths = d.sources.paths
  references : c.references = d.references
  flags : c.flags = d.flags
  mode : c.mode = d.mode
  output : c.output = d.output

/-- **The bytes tell how a configuration is written**, from one whose items have as many null
characters. -/
theorem fingerprintBytes_eq_iff_of_nulls
    (hsources : NullsAgree (c.sources.paths.map FilePath.text) (d.sources.paths.map FilePath.text))
    (hreferences : NullsAgree (c.references.map FilePath.text) (d.references.map FilePath.text))
    (hflags : NullsAgree c.flags d.flags) :
    c.fingerprintBytes = d.fingerprintBytes ↔ c.SpelledAlike d := by
  have hnulls (form : Sources.Form) : form.name.toList.count '\x00' = 0 := by cases form <;> rfl
  have hname : c.sources.form.name = d.sources.form.name ↔ c.sources.form = d.sources.form := by
    cases c.sources.form <;> cases d.sources.form <;> decide
  rw [fingerprintBytes_eq, fingerprintBytes_eq, ended_text_inj ((hnulls _).trans (hnulls _).symm),
    hname, markedItems_inj rfl hsources (head?_afterSources_ne (by decide) (by decide) (by decide))
      (head?_afterSources_ne (by decide) (by decide) (by decide)), texts_inj,
    afterSources_inj hreferences, afterReferences_inj hflags, afterFlags_inj]
  constructor
  · rintro ⟨hform, hpaths, hrefs, hflags, hmode, houtput⟩
    exact ⟨hform, hpaths, hrefs, hflags, hmode, houtput⟩
  · rintro ⟨hform, hpaths, hrefs, hflags, hmode, houtput⟩
    exact ⟨hform, hpaths, hrefs, hflags, hmode, houtput⟩

/-! ## Items without null characters -/

/-- No item has a null character; the output path may. -/
structure NullFree (c : Configuration) : Prop where
  sources : ∀ p ∈ c.sources.paths, '\x00' ∉ p.text.toList
  references : ∀ p ∈ c.references, '\x00' ∉ p.text.toList
  flags : ∀ flag ∈ c.flags, '\x00' ∉ flag.toList

theorem nullsAgree_of_free (hxs : ∀ x ∈ xs, '\x00' ∉ x.toList) (hys : ∀ y ∈ ys, '\x00' ∉ y.toList) :
    NullsAgree xs ys := by
  rintro ⟨x, y⟩ hpair
  obtain ⟨hx, hy⟩ := List.of_mem_zip hpair
  exact (List.count_eq_zero.mpr (hxs x hx)).trans (List.count_eq_zero.mpr (hys y hy)).symm

/-- **No two configurations have the same bytes** unless they are written alike: in the form of
their sources, in their sources, references and flags, each in their order, in their mode and in
their output path. -/
theorem fingerprintBytes_eq_iff_spelledAlike (hc : c.NullFree) (hd : d.NullFree) :
    c.fingerprintBytes = d.fingerprintBytes ↔ c.SpelledAlike d := by
  refine fingerprintBytes_eq_iff_of_nulls (nullsAgree_of_free ?_ ?_) (nullsAgree_of_free ?_ ?_)
    (nullsAgree_of_free hc.flags hd.flags)
  · simpa using hc.sources
  · simpa using hd.sources
  · simpa using hc.references
  · simpa using hd.references

/-- A reference that poses as a flag, and a mode and output that pose as another flag and mode. -/
def posing : Configuration where
  sources := .ofPaths [⟨"a.src"⟩]
  references := [⟨"core.lib"⟩]
  flags := []
  mode := .embed
  output := ⟨"external-source\x00gen.src"⟩

/-- What it poses as. -/
def posed : Configuration where
  sources := .ofPaths [⟨"a.src"⟩]
  references := []
  flags := ["r:core.lib", "embed-in-host"]
  mode := .source
  output := ⟨"gen.src"⟩

/-- The bytes tell the two apart. -/
theorem fingerprintBytes_posing : posing.NullFree ∧ posed.NullFree ∧
    (posing.fingerprintBytes = posed.fingerprintBytes ↔ posing.SpelledAlike posed) ∧
      posing.fingerprintBytes ≠ posed.fingerprintBytes := by
  have hposing : posing.NullFree := ⟨by decide, by decide, by decide⟩
  have hposed : posed.NullFree := ⟨by decide, by decide, by decide⟩
  have htold := fingerprintBytes_eq_iff_spelledAlike hposing hposed
  exact ⟨hposing, hposed, htold, fun h => absurd (htold.mp h).mode (by decide)⟩

/-! ## Configurations that are taken for the same -/

theorem nullsAgree_of_samePaths {ps qs : List FilePath}
    (h : Sources.same.samePaths ps qs = true) :
    NullsAgree (ps.map FilePath.text) (qs.map FilePath.text) := by
  induction ps generalizing qs with
  | nil => exact fun pair hpair => nomatch hpair
  | cons p ps ih =>
      cases qs with
      | nil => exact fun pair hpair => nomatch hpair
      | cons q qs =>
          obtain ⟨hfirst, hlater⟩ := List.cons.inj (beq_iff_eq.mp h)
          intro pair hpair
          rcases List.mem_cons.mp hpair with rfl | hpair
          · exact Disk.count_null_text_of_same (beq_iff_eq.mpr hfirst)
          · exact ih (beq_iff_eq.mpr hlater) pair hpair

/-- **Configurations that are taken for the same have the same bytes** exactly if their paths are
spelled the same, and then they have the same fingerprint. -/
theorem fingerprintBytes_eq_iff_of_same (h : c.same d = true) :
    (c.fingerprintBytes = d.fingerprintBytes ↔
      c.sources.paths = d.sources.paths ∧ c.references = d.references ∧ c.output = d.output) ∧
    (c.sources.paths = d.sources.paths ∧ c.references = d.references ∧ c.output = d.output →
      c.fingerprint = d.fingerprint) := by
  unfold same Sources.same at h
  simp only [Bool.and_eq_true, beq_iff_eq] at h
  obtain ⟨⟨⟨⟨⟨⟨hform, hpaths⟩, -⟩, hreferences⟩, hflags⟩, hmode⟩, -⟩ := h
  have hbytes : c.fingerprintBytes = d.fingerprintBytes ↔
      c.sources.paths = d.sources.paths ∧ c.references = d.references ∧ c.output = d.output := by
    rw [fingerprintBytes_eq_iff_of_nulls (nullsAgree_of_samePaths hpaths)
      (nullsAgree_of_samePaths hreferences) (hflags ▸ nullsAgree_refl c.flags)]
    constructor
    · intro halike
      exact ⟨halike.sources, halike.references, halike.output⟩
    · rintro ⟨hsources, hrefs, houtput⟩
      exact ⟨hform, hsources, hrefs, hflags, hmode, houtput⟩
  refine ⟨hbytes, fun hspelled => ?_⟩
  unfold fingerprint
  rw [hbytes.mpr hspelled]

/-- A configuration with one source, which is compiled with a core library. -/
def withSource (source : String) : Configuration where
  sources := .ofPaths [⟨source⟩]
  references := [⟨"lib/core.lib"⟩]
  flags := ["-O"]
  mode := .embed
  output := ⟨""⟩

/-- Here a source is spelled in two ways, and the bytes are not the same. -/
theorem fingerprintBytes_of_dot :
    let c := withSource "model/a.src"
    let d := withSource "model/./a.src"
    c.same d = true ∧
      (c.fingerprintBytes = d.fingerprintBytes ↔
        c.sources.paths = d.sources.paths ∧ c.references = d.references ∧ c.output = d.output) ∧
      c.fingerprintBytes ≠ d.fingerprintBytes := by
  intro c d
  have hsame : c.same d = true := by decide
  obtain ⟨htold, -⟩ := fingerprintBytes_eq_iff_of_same hsame
  exact ⟨hsame, htold, fun h => absurd (htold.mp h).1 (by decide)⟩

/-- A slash at the end of a source is nothing to the comparison, but the bytes and the fingerprint
tell the two apart. -/
theorem not_fingerprint_eq_of_slash :
    (withSource "a.src").same (withSource "a.src/") = true ∧
      (withSource "a.src").fingerprintBytes ≠ (withSource "a.src/").fingerprintBytes ∧
      (withSource "a.src").fingerprint ≠ (withSource "a.src/").fingerprint := by
  decide +kernel

end Configuration

end Expansion
