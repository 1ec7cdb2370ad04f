import Expansion.Proofs.Text.Split
import Mathlib.Data.List.Infix

/-!
# Replacing marks

A text in which every mark is replaced at once is a relation here (`Filled`): it is read from left to
right, a mark goes over into its text, every other character stays, and what has been put in is not
read again. Of marks that do not begin alike, one text comes of every text (`Filled.existsUnique`).

Replacing one mark is a function, with an equation for a mark and one for any other character
(`replaceChars_mark`, `replaceChars_char`).

* **`Inert`**: a text that takes part in no occurrence of a mark, wherever it is put
  (`inert_iff_untouched`). No mark begins in it (`Inert.clear`), so replacing passes over it
  (`replaceChars_clear`), and for a text that is not inert some surroundings make the mark
  (`exists_around`).
* Where inert texts have been put in for another mark, no mark stands that was not there before
  (`prefix_of_prefix_replaceChars`, `infix_of_infix_replaceChars`).
* If the mark is there, nothing changes only if it is replaced by itself (`eq_of_replaceChars_eq`).
-/

namespace Expansion.Text

/-- Marks, each with the text that is put in for it. -/
abbrev Marks := List (List Char × List Char)

variable {marks : Marks} {mark text before after rest s out : List Char} {c : Char}

/-- The second text is the first one with all marks in it replaced. -/
inductive Filled (marks : Marks) : List Char → List Char → Prop
  | done : Filled marks [] []
  | put {mark text rest out : List Char} : (mark, text) ∈ marks → Filled marks rest out →
      Filled marks (mark ++ rest) (text ++ out)
  | keep {c : Char} {rest out : List Char} : (∀ entry ∈ marks, ¬entry.1 <+: c :: rest) →
      Filled marks rest out → Filled marks (c :: rest) (c :: out)

/-- Marks of which none is empty and no two begin alike. -/
structure Distinct (marks : Marks) : Prop where
  notEmpty : ∀ entry ∈ marks, entry.1 ≠ []
  apart : ∀ entry ∈ marks, ∀ other ∈ marks, entry.1 <+: other.1 → entry = other

theorem Distinct.singleton (hmark : mark ≠ []) : Distinct [(mark, text)] where
  notEmpty := List.forall_mem_singleton.mpr hmark
  apart _ hentry _ hother _ :=
    (List.mem_singleton.mp hentry).trans (List.mem_singleton.mp hother).symm

/-- None of some marks begins in a text, with what stands behind it. -/
def Clear (marks : List (List Char)) (s after : List Char) : Prop :=
  ∀ rest ∈ s.tails, rest ≠ [] → ∀ mark ∈ marks, ¬mark <+: rest ++ after

instance (marks : List (List Char)) (s after : List Char) : Decidable (Clear marks s after) :=
  inferInstanceAs (Decidable (∀ rest ∈ s.tails, rest ≠ [] → ∀ mark ∈ marks, ¬mark <+: rest ++ after))

theorem clear_cons_iff {marks : List (List Char)} : Clear marks (c :: s) after ↔
    (∀ mark ∈ marks, ¬mark <+: c :: (s ++ after)) ∧ Clear marks s after := by
  unfold Clear
  rw [List.tails_cons, List.forall_mem_cons]
  simp

theorem Clear.mono {marks others : List (List Char)} (h : Clear marks s after) (hsub : others ⊆ marks) :
    Clear others s after :=
  fun rest hrest hne mark hmark => h rest hrest hne mark (hsub hmark)

/-- Where no mark begins in the front, a mark stands behind it. -/
theorem Clear.infix_behind {marks : List (List Char)} (h : Clear marks s after) (hmem : mark ∈ marks)
    (hthere : mark <:+: s ++ after) : mark <:+: after := by
  induction s with
  | nil => exact hthere
  | cons c rest ih =>
      obtain ⟨hno, hrest⟩ := clear_cons_iff.mp h
      exact ih hrest ((List.infix_cons_iff.mp hthere).resolve_left (hno mark hmem))

namespace Filled

theorem of_mark (hmarks : Distinct marks) (hmem : (mark, text) ∈ marks)
    (h : Filled marks (mark ++ rest) out) : ∃ behind, out = text ++ behind ∧ Filled marks rest behind := by
  generalize hs : mark ++ rest = s at h
  cases h with
  | done => exact absurd (List.append_eq_nil_iff.mp hs).1 (hmarks.notEmpty _ hmem)
  | @put mark' text' rest' behind hmem' hbehind =>
      have hsame : (mark, text) = (mark', text') := by
        have hleft : mark <+: mark' ++ rest' := hs ▸ List.prefix_append mark rest
        rcases List.prefix_or_prefix_of_prefix hleft (List.prefix_append mark' rest') with hm | hm
        · exact hmarks.apart _ hmem _ hmem' hm
        · exact (hmarks.apart _ hmem' _ hmem hm).symm
      cases hsame
      rw [List.append_cancel_left hs]
      exact ⟨behind, rfl, hbehind⟩
  | keep hno => exact absurd (hs ▸ List.prefix_append mark rest) (hno _ hmem)

theorem of_char (hno : ∀ entry ∈ marks, ¬entry.1 <+: c :: rest)
    (h : Filled marks (c :: rest) out) : ∃ behind, out = c :: behind ∧ Filled marks rest behind := by
  generalize hs : c :: rest = s at h
  cases h with
  | done => cases hs
  | @put mark text rest' behind hmem =>
      exact absurd (hs ▸ List.prefix_append mark rest') (hno _ hmem)
  | keep _ hbehind =>
      cases hs
      exact ⟨_, rfl, hbehind⟩

theorem unique (hmarks : Distinct marks) {other : List Char} (h : Filled marks s out)
    (hother : Filled marks s other) : out = other := by
  induction h generalizing other with
  | done =>
      generalize hs : ([] : List Char) = s at hother
      cases hother with
      | done => rfl
      | put hmem => exact absurd (List.append_eq_nil_iff.mp hs.symm).1 (hmarks.notEmpty _ hmem)
      | keep => cases hs
  | put hmem _ ih =>
      obtain ⟨behind, rfl, hbehind⟩ := of_mark hmarks hmem hother
      rw [ih hbehind]
  | keep hno _ ih =>
      obtain ⟨behind, rfl, hbehind⟩ := of_char hno hother
      rw [ih hbehind]

theorem of_clear (hclear : Clear (marks.map Prod.fst) s after) (h : Filled marks after out) :
    Filled marks (s ++ after) (s ++ out) := by
  induction s with
  | nil => exact h
  | cons c rest ih =>
      obtain ⟨hno, hrest⟩ := clear_cons_iff.mp hclear
      exact keep (fun entry hentry => hno entry.1 (List.mem_map_of_mem hentry)) (ih hrest)

/-- A text with a single mark is filled by putting in what the mark stands for. -/
theorem once (hmem : (mark, text) ∈ marks)
    (hbefore : Clear (marks.map Prod.fst) before (mark ++ after))
    (hafter : Clear (marks.map Prod.fst) after []) :
    Filled marks (before ++ (mark ++ after)) (before ++ (text ++ after)) := by
  have hrest := of_clear hafter done
  rw [List.append_nil] at hrest
  exact of_clear hbefore (put hmem hrest)

end Filled

/-- What holds of a text is shown along its marks. -/
theorem markInduction {marks : List (List Char)} (hmarks : ∀ mark ∈ marks, mark ≠ [])
    {motive : List Char → Prop} (done : motive [])
    (put : ∀ mark ∈ marks, ∀ rest, motive rest → motive (mark ++ rest))
    (keep : ∀ c rest, (∀ mark ∈ marks, ¬mark <+: c :: rest) → motive rest → motive (c :: rest))
    (s : List Char) : motive s := by
  induction hlength : s.length using Nat.strong_induction_on generalizing s with
  | _ length ih =>
      subst hlength
      by_cases hmark : ∃ mark ∈ marks, mark <+: s
      · obtain ⟨mark, hmem, rest, rfl⟩ := hmark
        have hpos := List.length_pos_of_ne_nil (hmarks mark hmem)
        exact put mark hmem rest (ih rest.length (by rw [List.length_append]; omega) rest rfl)
      · cases s with
        | nil => exact done
        | cons c rest =>
            have hno : ∀ mark ∈ marks, ¬mark <+: c :: rest := fun mark hmem hbegins =>
              hmark ⟨mark, hmem, hbegins⟩
            exact keep c rest hno (ih rest.length (by simp) rest rfl)

/-- The same along one mark. -/
theorem oneMarkInduction (hmark : mark ≠ []) {motive : List Char → Prop} (done : motive [])
    (put : ∀ rest, motive rest → motive (mark ++ rest))
    (keep : ∀ c rest, ¬mark <+: c :: rest → motive rest → motive (c :: rest)) (s : List Char) :
    motive s := by
  induction s using markInduction (List.forall_mem_singleton.mpr hmark) with
  | done => exact done
  | put other hother rest ih =>
      obtain rfl := List.mem_singleton.mp hother
      exact put rest ih
  | keep c rest hno ih => exact keep c rest (hno mark List.mem_cons_self) ih

/-- One text comes of every text. -/
theorem Filled.existsUnique (hmarks : Distinct marks) (s : List Char) :
    ∃! out, Filled marks s out := by
  have hfilled : ∃ out, Filled marks s out := by
    induction s using markInduction (List.forall_mem_map.mpr hmarks.notEmpty) with
    | done => exact ⟨[], .done⟩
    | put mark hmark rest ih =>
        obtain ⟨⟨_, text⟩, hmem, rfl⟩ := List.mem_map.mp hmark
        obtain ⟨out, hout⟩ := ih
        exact ⟨text ++ out, .put hmem hout⟩
    | keep c rest hno ih =>
        obtain ⟨out, hout⟩ := ih
        exact ⟨c :: out, .keep (fun entry hentry => hno entry.1 (List.mem_map_of_mem hentry)) hout⟩
  obtain ⟨out, hout⟩ := hfilled
  exact ⟨out, hout, fun _ hother => hother.unique hmarks hout⟩

/-! ## One mark -/

/-- A text with one mark replaced. -/
def replaceChars (mark text s : List Char) : List Char := replaceFrom mark text 0 s

@[simp] theorem replaceChars_nil (mark text : List Char) : replaceChars mark text [] = [] := rfl

theorem replaceFrom_skip (mark text : List Char) (skip : Nat) (s : List Char) :
    replaceFrom mark text skip s = replaceChars mark text (s.drop skip) := by
  induction s generalizing skip with
  | nil => cases skip <;> rfl
  | cons c rest ih =>
      cases skip with
      | zero => rfl
      | succ skip => rw [replaceFrom, ih, List.drop_succ_cons]

theorem replaceChars_mark (hmark : mark ≠ []) (text rest : List Char) :
    replaceChars mark text (mark ++ rest) = text ++ replaceChars mark text rest := by
  cases mark with
  | nil => exact absurd rfl hmark
  | cons m others =>
      have hthere : (afterPrefix? (m :: others) (m :: (others ++ rest))).isSome = true :=
        isSome_afterPrefix?_iff.mpr (List.prefix_append (m :: others) rest)
      rw [List.cons_append, replaceChars, replaceFrom, if_pos hthere, replaceFrom_skip,
        List.length_cons, Nat.add_sub_cancel, List.drop_left]

theorem replaceChars_char (h : ¬mark <+: c :: rest) (text : List Char) :
    replaceChars mark text (c :: rest) = c :: replaceChars mark text rest := by
  rw [replaceChars, replaceFrom, if_neg (mt isSome_afterPrefix?_iff.mp h), replaceChars]

/-- Replacing one mark fills the text. -/
theorem replaceChars_filled (hmark : mark ≠ []) (text s : List Char) :
    Filled [(mark, text)] s (replaceChars mark text s) := by
  induction s using oneMarkInduction hmark with
  | done => exact .done
  | put rest ih =>
      rw [replaceChars_mark hmark]
      exact .put List.mem_cons_self ih
  | keep c rest hno ih =>
      rw [replaceChars_char hno]
      exact .keep (List.forall_mem_singleton.mpr hno) ih

/-- What the mark does not begin in stays. -/
theorem replaceChars_clear (hmark : mark ≠ []) (h : Clear [mark] s after) (text : List Char) :
    replaceChars mark text (s ++ after) = s ++ replaceChars mark text after :=
  (replaceChars_filled hmark text (s ++ after)).unique (.singleton hmark)
    (.of_clear h (replaceChars_filled hmark text after))

theorem replaceChars_once (hmark : mark ≠ []) (hbefore : Clear [mark] before (mark ++ after))
    (hafter : Clear [mark] after []) (text : List Char) :
    replaceChars mark text (before ++ (mark ++ after)) = before ++ (text ++ after) :=
  (replaceChars_filled hmark text _).unique (.singleton hmark)
    (.once List.mem_cons_self hbefore hafter)

/-- Replacing a mark by itself changes nothing. -/
theorem replaceChars_self (hmark : mark ≠ []) (s : List Char) : replaceChars mark mark s = s := by
  induction s using oneMarkInduction hmark with
  | done => rfl
  | put rest ih => rw [replaceChars_mark hmark, ih]
  | keep c rest hno ih => rw [replaceChars_char hno, ih]

theorem replaceChars_absent (h : ¬mark <:+: s) (text : List Char) :
    replaceChars mark text s = s := by
  induction s with
  | nil => rfl
  | cons c rest ih =>
      rw [List.infix_cons_iff, not_or] at h
      rw [replaceChars_char h.1, ih h.2]

/-- Each occurrence that is replaced takes the characters of the mark away and brings those of its
text. -/
theorem exists_countP_replaceChars (hmark : mark ≠ []) (text s : List Char) :
    ∃ n, (mark <:+: s → 0 < n) ∧ ∀ p : Char → Bool,
      (replaceChars mark text s).countP p + n * mark.countP p = s.countP p + n * text.countP p := by
  induction s using oneMarkInduction hmark with
  | done => exact ⟨0, fun h => absurd (List.infix_nil.mp h) hmark, fun p => by simp⟩
  | put rest ih =>
      obtain ⟨n, -, hcount⟩ := ih
      refine ⟨n + 1, fun _ => Nat.succ_pos n, fun p => ?_⟩
      have := hcount p
      rw [replaceChars_mark hmark, List.countP_append, List.countP_append, Nat.succ_mul,
        Nat.succ_mul]
      omega
  | keep c rest hno ih =>
      obtain ⟨n, hpos, hcount⟩ := ih
      refine ⟨n, fun h => hpos ((List.infix_cons_iff.mp h).resolve_left hno), fun p => ?_⟩
      have := hcount p
      rw [replaceChars_char hno, List.countP_cons, List.countP_cons]
      omega

/-- A character that the mark does not have is there as often as before, and for a mark that stands
in the text, once more for each time that the mark's text has it. -/
theorem count_replaceChars (hmark : mark ≠ []) (hc : c ∉ mark) (text s : List Char) :
    s.count c ≤ (replaceChars mark text s).count c ∧
      (mark <:+: s → s.count c + text.count c ≤ (replaceChars mark text s).count c) := by
  obtain ⟨n, hpos, hcount⟩ := exists_countP_replaceChars hmark text s
  have hequal := hcount (· == c)
  have hzero : mark.countP (· == c) = 0 := List.count_eq_zero_of_not_mem hc
  rw [hzero, Nat.mul_zero, Nat.add_zero] at hequal
  unfold List.count
  refine ⟨by omega, fun h => ?_⟩
  have hmore := Nat.le_mul_of_pos_left (text.countP (· == c)) (hpos h)
  omega

/-- A text changes, if the mark is in it, unless the mark is replaced by itself. -/
theorem eq_of_replaceChars_eq (hmark : mark ≠ []) (hthere : mark <:+: s)
    (h : replaceChars mark text s = s) : text = mark := by
  have hlength : text.length = mark.length := by
    obtain ⟨n, hpos, hcount⟩ := exists_countP_replaceChars hmark text s
    have hall := hcount fun _ => true
    rw [h, List.countP_true] at hall
    exact (Nat.eq_of_mul_eq_mul_left (hpos hthere) (Nat.add_left_cancel hall)).symm
  induction s using oneMarkInduction hmark with
  | done => exact absurd (List.infix_nil.mp hthere) hmark
  | put rest _ =>
      rw [replaceChars_mark hmark] at h
      exact (List.append_inj h hlength).1
  | keep c rest hno ih =>
      rw [replaceChars_char hno] at h
      exact ih ((List.infix_cons_iff.mp hthere).resolve_left hno) (List.cons.inj h).2

/-! ## Inert texts -/

/-- Whether one of two texts begins with the other. -/
def Fits (s t : List Char) : Prop := s <+: t ∨ t <+: s

instance (s t : List Char) : Decidable (Fits s t) := inferInstanceAs (Decidable (_ ∨ _))

theorem Fits.of_prefix_append {t : List Char} (h : s <+: t ++ rest) : Fits s t :=
  List.prefix_or_prefix_of_prefix h (List.prefix_append t rest)

/-- A text that takes part in no occurrence of a mark: no end of the text fits the mark, which would
then begin in it, and no end of the mark but the whole fits the text, which the mark would then run
into. -/
def Inert (mark text : List Char) : Prop :=
  (∀ rest ∈ text.tails, rest ≠ [] → ¬Fits rest mark) ∧
    ∀ rest ∈ mark.tails, rest ≠ [] → rest ≠ mark → ¬Fits rest text

instance (mark text : List Char) : Decidable (Inert mark text) :=
  inferInstanceAs (Decidable (_ ∧ _))

/-- A front and an end of a mark, neither of which is the mark. -/
structure Around (mark before after : List Char) : Prop where
  front : before <+: mark
  front_ne : before ≠ mark
  back : after <:+ mark
  back_ne : after ≠ mark

/-- Of a text that is not inert, with some front of the mark before it and some end of the mark behind
it, the mark comes about. -/
theorem exists_around (hmark : mark ≠ []) (h : ¬Inert mark text) :
    ∃ before after, Around mark before after ∧ mark <:+: before ++ (text ++ after) := by
  unfold Inert at h
  rw [not_and_or] at h
  push Not at h
  rcases h with ⟨rest, hrest, hne, hfits⟩ | ⟨rest, hrest, hne, hproper, hfits⟩
  · -- the mark begins in the text
    have hnone : [] <+: mark := List.nil_prefix
    obtain ⟨front, rfl⟩ := (List.mem_tails _ _).mp hrest
    rcases hfits with ⟨after, rfl⟩ | hwhole
    · have hback : after ≠ rest ++ after := fun hsame => hne (List.self_eq_append_left.mp hsame)
      have haround : Around (rest ++ after) [] after :=
        ⟨hnone, hmark.symm, List.suffix_append rest after, hback⟩
      exact ⟨[], after, haround, front, [], by simp⟩
    · refine ⟨[], [], ⟨hnone, hmark.symm, List.nil_suffix, hmark.symm⟩, ?_⟩
      rw [List.nil_append, List.append_nil]
      exact hwhole.isInfix.trans (List.suffix_append front rest).isInfix
  · -- it runs into the text
    obtain ⟨before, rfl⟩ := (List.mem_tails _ _).mp hrest
    have hfront : before ≠ before ++ rest := fun hsame => hne (List.self_eq_append_right.mp hsame)
    rcases hfits with hwhole | ⟨after, rfl⟩
    · refine ⟨before, [], ⟨List.prefix_append before rest, hfront, List.nil_suffix, hmark.symm⟩, ?_⟩
      rw [List.append_nil]
      exact ((List.prefix_append_right_inj before).mpr hwhole).isInfix
    · have hback : after ≠ before ++ (text ++ after) := by
        intro hsame
        rw [← List.append_assoc] at hsame
        have hnone := List.append_eq_nil_iff.mp (List.self_eq_append_left.mp hsame)
        exact hproper (by rw [hnone.1, List.nil_append])
      refine ⟨before, after, ⟨List.prefix_append _ _, hfront, ?_, hback⟩, List.infix_rfl⟩
      rw [← List.append_assoc]
      exact List.suffix_append _ after

/-- Wherever an inert text is put, each occurrence of the mark ends before it or begins behind it. -/
theorem inert_iff_untouched (hmark : mark ≠ []) : Inert mark text ↔
    ∀ before after i, mark <+: (before ++ (text ++ after)).drop i →
      i + mark.length ≤ before.length ∨ before.length + text.length ≤ i := by
  constructor
  · rintro ⟨hends, hcovers⟩ before after i hoccurs
    by_contra hnot
    rw [not_or, Nat.not_le, Nat.not_le] at hnot
    rcases Nat.lt_or_ge i before.length with hi | hi
    · -- the mark begins before the text, and runs into it
      rw [List.drop_append_of_le_length (Nat.le_of_lt hi)] at hoccurs
      have hfront : before.drop i <+: mark := by
        refine List.prefix_of_prefix_length_le (List.prefix_append _ _) hoccurs ?_
        rw [List.length_drop]
        omega
      obtain ⟨rest, hrest⟩ := hfront
      have hlength := congrArg List.length hrest
      rw [List.length_append, List.length_drop] at hlength
      rw [← hrest, List.prefix_append_right_inj] at hoccurs
      refine hcovers rest ((List.mem_tails _ _).mpr ⟨_, hrest⟩) ?_ ?_ (Fits.of_prefix_append hoccurs)
      · rintro rfl
        rw [List.length_nil] at hlength
        omega
      · rintro rfl
        omega
    · -- it begins in the text
      obtain ⟨j, rfl⟩ := Nat.exists_eq_add_of_le hi
      rw [List.drop_length_add_append,
        List.drop_append_of_le_length (Nat.le_of_lt (by omega))] at hoccurs
      refine hends (text.drop j) ((List.mem_tails _ _).mpr (List.drop_suffix j text)) ?_
        (Or.symm (Fits.of_prefix_append hoccurs))
      rw [Ne, List.drop_eq_nil_iff]
      omega
  · intro huntouched
    by_contra hnot
    obtain ⟨before, after, haround, left, right, hoccurs⟩ := exists_around hmark hnot
    have hat : mark <+: (before ++ (text ++ after)).drop left.length := by
      rw [← hoccurs, List.append_assoc, List.drop_left]
      exact List.prefix_append mark right
    have hlength := congrArg List.length hoccurs
    simp only [List.length_append] at hlength
    have hfront := haround.front.length_le
    have hback := haround.back.length_le
    have hfront' : before.length ≠ mark.length :=
      fun h => haround.front_ne (haround.front.eq_of_length h)
    have hback' : after.length ≠ mark.length :=
      fun h => haround.back_ne (haround.back.eq_of_length h)
    rcases huntouched before after left.length hat with h | h <;> omega

theorem Inert.clear (h : Inert mark s) (after : List Char) : Clear [mark] s after := by
  intro rest hrest hne other hother hbegins
  rw [List.mem_singleton.mp hother] at hbegins
  exact h.1 rest hrest hne (Or.symm (Fits.of_prefix_append hbegins))

variable {other : List Char}

/-- Replacing the mark passes over a text: the mark is replaced by itself or the text is inert. -/
def Passes (mark text s : List Char) : Prop := text = mark ∨ Inert mark s

instance (mark text s : List Char) : Decidable (Passes mark text s) :=
  inferInstanceAs (Decidable (_ ∨ _))

theorem Passes.replaceChars_append (h : Passes mark text s) (hmark : mark ≠ []) (after : List Char) :
    replaceChars mark text (s ++ after) = s ++ replaceChars mark text after := by
  rcases h with rfl | h
  · rw [replaceChars_self hmark, replaceChars_self hmark]
  · exact replaceChars_clear hmark (h.clear after) text

/-- A mark that begins before what has been put in stood there before, if what has been put in for
the other mark is inert. -/
theorem prefix_of_prefix_replaceChars (hother : other ≠ []) (h : Inert mark text)
    (hbefore : before ≠ []) (hthere : mark <+: before ++ replaceChars other text s) :
    mark <+: before ++ s := by
  induction s using oneMarkInduction hother generalizing before with
  | done => exact hthere
  | put rest _ =>
      rw [replaceChars_mark hother] at hthere
      rcases List.prefix_or_prefix_of_prefix hthere (List.prefix_append before _) with hin | hout
      · exact hin.trans (List.prefix_append before _)
      · obtain ⟨behind, rfl⟩ := hout
        rw [List.prefix_append_right_inj] at hthere
        by_cases hend : behind = []
        · rw [hend, List.append_nil]
          exact List.prefix_append before _
        · refine absurd (Fits.of_prefix_append hthere)
            (h.2 behind ((List.mem_tails _ _).mpr (List.suffix_append before behind)) hend ?_)
          exact fun hsame => hbefore (List.self_eq_append_left.mp hsame)
  | keep c rest hno ih =>
      rw [replaceChars_char hno, List.append_cons] at hthere
      rw [List.append_cons]
      exact ih (by simp) hthere

/-- A character stays where no mark begins, or where the mark is replaced by itself. -/
theorem replaceChars_keep (hmark : mark ≠ []) (h : text = mark ∨ ¬mark <+: c :: rest) :
    replaceChars mark text (c :: rest) = c :: replaceChars mark text rest := by
  rcases h with rfl | h
  · rw [replaceChars_self hmark, replaceChars_self hmark]
  · exact replaceChars_char h text

/-- What has been put in for the other mark makes no mark begin before it. -/
theorem Passes.not_begins {put : List Char} (h : Passes mark text put) (hother : other ≠ [])
    (hno : text = mark ∨ ¬mark <+: c :: rest) :
    text = mark ∨ ¬mark <+: c :: replaceChars other put rest := by
  rcases h with h | h
  · exact .inl h
  · refine hno.imp_right (mt fun hthere => ?_)
    have hfront : mark <+: [c] ++ replaceChars other put rest := hthere
    exact prefix_of_prefix_replaceChars hother h (List.cons_ne_nil c []) hfront

/-- No mark stands in a text that was not there before inert texts were put in. -/
theorem infix_of_infix_replaceChars (hother : other ≠ []) (h : Inert mark text)
    (hthere : mark <:+: replaceChars other text s) : mark <:+: s := by
  induction s using oneMarkInduction hother with
  | done => exact hthere
  | put rest ih =>
      rw [replaceChars_mark hother] at hthere
      have hbehind := (h.clear _).infix_behind List.mem_cons_self hthere
      exact (ih hbehind).trans (List.suffix_append other rest).isInfix
  | keep c rest hno ih =>
      rw [replaceChars_char hno, List.infix_cons_iff] at hthere
      refine List.infix_cons_iff.mpr (hthere.imp (fun hmark => ?_) ih)
      exact prefix_of_prefix_replaceChars hother h (List.cons_ne_nil c []) hmark

end Expansion.Text
