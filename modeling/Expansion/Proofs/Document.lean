import Expansion.Proofs.Text.Blank
import Expansion.Proofs.Workbench.Steps

/-!
# Documents of fragments

A document is what its fragments say, one beside the other, and a fragment of blanks says nothing.

* **`ofFragments_append`**: the document of two lists is the one document beside the other
  (`beside`), so fragments may be joined in groups first (`ofFragments_flatten`). Fragments are not
  trimmed, so this holds for those too that begin or end with what separates them.
* **`isBlankText_ofFragments`**: the separator is blank, so a document of blanks is one of blank
  fragments alone, and there is only the empty one.
* **`fragments_regroup`** puts this together with the two tests that a build makes of a document,
  before it tells of an empty one (`announceEmpty`) and before it compiles one
  (`Compiler.compileWithGenerated`).
-/

namespace Expansion

namespace Text

/-- A text is blank that is joined from blanks with blanks between them, and no other is. -/
theorem isBlankText_join {separator : String} (h : isBlankText separator = true)
    (pieces : List String) : isBlankText (join separator pieces) = pieces.all isBlankText := by
  unfold join
  induction pieces with
  | nil => rfl
  | cons first rest ih =>
      cases rest with
      | nil => simp
      | cons second others =>
          rw [String.intercalate_cons_cons, isBlankText_append, isBlankText_append, h, ih,
            Bool.and_true, List.all_cons (l := second :: others)]

end Text

namespace Document

variable {x : String} {xs ys : List String}

/-- One document beside another: with a separator between them, if both say something. -/
def beside (s t : String) : String :=
  if s.isEmpty then t else if t.isEmpty then s else s ++ separator ++ t

/-- Lists of fragments that can be made from each other by adding blank fragments anywhere and
taking such away. -/
inductive SameButBlanks : List String → List String → Prop
  | nil : SameButBlanks [] []
  | both (x : String) {xs ys : List String} : SameButBlanks xs ys →
      SameButBlanks (x :: xs) (x :: ys)
  | left {blank : String} {xs ys : List String} : Text.isBlankText blank = true →
      SameButBlanks xs ys → SameButBlanks (blank :: xs) ys
  | right {blank : String} {xs ys : List String} : Text.isBlankText blank = true →
      SameButBlanks xs ys → SameButBlanks xs (blank :: ys)

/-! ## Blanks -/

theorem ofFragments_cons_of_blank (h : Text.isBlankText x = true) (xs : List String) :
    ofFragments (x :: xs) = ofFragments xs := by
  unfold ofFragments
  rw [List.filter_cons_of_neg (by simp [h])]

theorem isBlankText_ofFragments (xs : List String) :
    Text.isBlankText (ofFragments xs) = xs.all Text.isBlankText := by
  unfold ofFragments
  rw [Text.isBlankText_join rfl, List.all_filter]
  simp

/-- A document is empty if no fragment says anything. -/
theorem ofFragments_eq_empty_iff :
    ofFragments xs = "" ↔ ∀ x ∈ xs, Text.isBlankText x = true := by
  constructor
  · intro hempty
    have hblank := isBlankText_ofFragments xs
    rw [hempty] at hblank
    exact List.all_eq_true.mp hblank.symm
  · intro hblanks
    have hnone : (xs.filter fun x => !Text.isBlankText x) = [] := by
      simpa [List.filter_eq_nil_iff] using hblanks
    unfold ofFragments
    rw [hnone]
    rfl

/-- A document says something, or it is empty. -/
theorem isBlankText_ofFragments_iff :
    Text.isBlankText (ofFragments xs) = true ↔ ofFragments xs = "" := by
  rw [isBlankText_ofFragments, ofFragments_eq_empty_iff, List.all_eq_true]

theorem isEmpty_ofFragments (xs : List String) :
    (ofFragments xs).isEmpty = Text.isBlankText (ofFragments xs) := by
  rw [Bool.eq_iff_iff, String.isEmpty_iff, isBlankText_ofFragments_iff]

/-! ## Groups of fragments -/

/-- A fragment that says something is left as it is. -/
theorem ofFragments_singleton (x : String) :
    ofFragments [x] = if Text.isBlankText x then "" else x := by
  by_cases hx : Text.isBlankText x = true
  · rw [if_pos hx, ofFragments_cons_of_blank hx]
    rfl
  · unfold ofFragments Text.join
    rw [if_neg hx, List.filter_cons_of_pos (by simpa using hx)]
    exact String.intercalate_singleton

/-- A document is left as it is. -/
theorem ofFragments_document (xs : List String) : ofFragments [ofFragments xs] = ofFragments xs := by
  rw [ofFragments_singleton]
  split
  · rename_i hblank
    exact (isBlankText_ofFragments_iff.mp hblank).symm
  · rfl

/-- The document of two lists is the one document beside the other. -/
theorem ofFragments_append (xs ys : List String) :
    ofFragments (xs ++ ys) = beside (ofFragments xs) (ofFragments ys) := by
  have hempty : ∀ zs : List String, (zs.filter fun z => !Text.isBlankText z) = [] ↔
      (ofFragments zs).isEmpty = true := by
    intro zs
    rw [String.isEmpty_iff, ofFragments_eq_empty_iff, List.filter_eq_nil_iff]
    simp
  unfold beside
  by_cases hxs : (ofFragments xs).isEmpty = true
  · rw [if_pos hxs]
    unfold ofFragments
    rw [List.filter_append, (hempty xs).mpr hxs, List.nil_append]
  · rw [if_neg hxs]
    by_cases hys : (ofFragments ys).isEmpty = true
    · rw [if_pos hys]
      unfold ofFragments
      rw [List.filter_append, (hempty ys).mpr hys, List.append_nil]
    · -- Something is left of both lists, so what joins them is one more separator.
      rw [if_neg hys]
      unfold ofFragments Text.join
      rw [List.filter_append]
      exact String.intercalate_append_of_ne_nil (mt (hempty xs).mp hxs) (mt (hempty ys).mp hys)

theorem ofFragments_cons (x : String) (xs : List String) :
    ofFragments (x :: xs) = beside (ofFragments [x]) (ofFragments xs) :=
  ofFragments_append [x] xs

/-- Fragments may be joined in groups first. -/
theorem ofFragments_flatten (groups : List (List String)) :
    ofFragments (groups.map ofFragments) = ofFragments groups.flatten := by
  induction groups with
  | nil => rfl
  | cons group rest ih =>
      calc ofFragments (ofFragments group :: rest.map ofFragments)
          = beside (ofFragments [ofFragments group]) (ofFragments (rest.map ofFragments)) :=
            ofFragments_cons _ _
        _ = beside (ofFragments group) (ofFragments rest.flatten) := by
            rw [ofFragments_document, ih]
        _ = ofFragments (group ++ rest.flatten) := (ofFragments_append _ _).symm

/-- Blank fragments leave no trace. -/
theorem SameButBlanks.ofFragments_eq (h : SameButBlanks xs ys) :
    ofFragments xs = ofFragments ys := by
  induction h with
  | nil => rfl
  | both x _ ih => rw [ofFragments_cons, ih, ← ofFragments_cons]
  | left hblank _ ih => rw [ofFragments_cons_of_blank hblank, ih]
  | right hblank _ ih => rw [ofFragments_cons_of_blank hblank, ih]

/-- **A document forgets blank fragments and nothing else.** Two lists may be joined on their own or
together, for the document of both is the one document beside the other, with every fragment that
says something as it is. Blank fragments may be added and taken away anywhere. A document is blank
exactly if it is empty, and that is if all of its fragments are blank. So the test for an empty
document, before a build tells of it, and the test for a blank one, before it is compiled, are the
same test. -/
theorem fragments_regroup :
    (∀ xs ys, ofFragments [ofFragments xs, ofFragments ys] = ofFragments (xs ++ ys)) ∧
    (∀ xs ys, ofFragments (xs ++ ys) = beside (ofFragments xs) (ofFragments ys)) ∧
    (∀ x, ofFragments [x] = if Text.isBlankText x then "" else x) ∧
    (∀ xs ys, SameButBlanks xs ys → ofFragments xs = ofFragments ys) ∧
    (∀ xs, (Text.isBlankText (ofFragments xs) = true ↔ ofFragments xs = "") ∧
      (ofFragments xs = "" ↔ ∀ x ∈ xs, Text.isBlankText x = true)) ∧
    ∀ xs, (ofFragments xs).isEmpty = (Text.trim (ofFragments xs)).isEmpty ∧
      (∀ m, Workbench.announceEmpty (ofFragments xs) m =
        if Text.isBlankText (ofFragments xs) then
          m.log .info .build "no expander produced output" [] none
        else m) ∧
      ∀ (c : Compiler) (sources references : List FilePath) (flags : List String)
        (target : CompileTarget),
        c.compileWithGenerated sources (ofFragments xs) references flags target =
          if (ofFragments xs).isEmpty then c.compile sources references flags target
          else
            Act.withScratchDirectory "typexpand-" (fun directory => do
              let p := directory.child ("generated." ++ c.kinds.primarySource)
              Act.onDisk none fun d => d.writeFile p (ofFragments xs).toUTF8
              c.compile (sources ++ [p]) references flags target) := by
  refine ⟨?_, ofFragments_append, ofFragments_singleton, fun xs ys h => h.ofFragments_eq,
    fun xs => ⟨isBlankText_ofFragments_iff, ofFragments_eq_empty_iff⟩, fun xs => ⟨?_, ?_, ?_⟩⟩
  · intro xs ys
    have hgroups := ofFragments_flatten [xs, ys]
    simpa using hgroups
  · rw [Text.isEmpty_trim, isEmpty_ofFragments]
  · intro m
    unfold Workbench.announceEmpty
    rw [isEmpty_ofFragments]
  · intro c sources references flags target
    unfold Compiler.compileWithGenerated
    rw [isEmpty_ofFragments]

/-- Fragments that begin or end with a separator, with blanks of several kinds between them. -/
theorem fragments_regroup_borders :
    SameButBlanks ["a\n", "\u00a0", "\n\nb"] ["\t", "a\n", "\n\nb", ""] ∧
    ofFragments ["\t", "a\n", "\n\nb", ""] = "a\n\n\n\n\nb" ∧
    ofFragments [ofFragments ["a\n", "\u00a0"], ofFragments ["\n\nb"]] = "a\n\n\n\n\nb" := by
  have hsame : SameButBlanks ["a\n", "\u00a0", "\n\nb"] ["\t", "a\n", "\n\nb", ""] :=
    .right rfl (.both _ (.left rfl (.both _ (.right rfl .nil))))
  have hall : ofFragments ["\t", "a\n", "\n\nb", ""] = "a\n\n\n\n\nb" := by decide +kernel
  refine ⟨hsame, hall, ?_⟩
  rw [fragments_regroup.1, ← hall]
  exact fragments_regroup.2.2.2.1 _ _ hsame

end Document

end Expansion
