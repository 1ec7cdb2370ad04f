import Expansion.Text.Split

/-!
# Pieces between separators

`splitChars` takes a text apart at every separator, as the library's function on lists does
(`splitChars_eq_splitOn`): the two sides of a separator are taken apart for themselves
(`splitChars_append`), a text without separators is one piece, and no piece holds one. What stands
behind a mark is found behind it (`stripPrefix?_append`), and the two sides of a mark are put together
again with the mark between them (`splitOnce_eq`). The cut behind the last occurrence of a mark leaves
the least that stands behind one (`afterLast?_eq_some`).
-/

namespace Expansion.Text

variable {separator : Char} {as bs cs piece : List Char}

/-- The pieces between separators are those of the library's function on lists. -/
theorem splitChars_eq_splitOn (separator : Char) (cs : List Char) :
    splitChars separator cs = cs.splitOn separator := by
  induction cs with
  | nil => rfl
  | cons c rest ih =>
      rw [splitChars, List.splitOn_cons_eq_if_modifyHead, ih]
      by_cases hc : c = separator
      · simp [hc]
      · cases hrest : rest.splitOn separator with
        | nil => exact absurd hrest (List.splitOn_ne_nil separator rest)
        | cons first others => simp [hc]

theorem splitChars_ne_nil (separator : Char) (cs : List Char) : splitChars separator cs ≠ [] := by
  rw [splitChars_eq_splitOn]
  exact List.splitOn_ne_nil separator cs

theorem splitChars_cons_of_ne {c : Char} (h : c ≠ separator) (rest : List Char) :
    ∃ first others, splitChars separator rest = first :: others ∧
      splitChars separator (c :: rest) = (c :: first) :: others := by
  cases hrest : splitChars separator rest with
  | nil => exact absurd hrest (splitChars_ne_nil separator rest)
  | cons first others =>
      refine ⟨first, others, rfl, ?_⟩
      simp only [splitChars, h, if_false, hrest]

/-- The two sides of a separator are taken apart for themselves. -/
theorem splitChars_append (separator : Char) (as bs : List Char) :
    splitChars separator (as ++ separator :: bs) =
      splitChars separator as ++ splitChars separator bs := by
  simp only [splitChars_eq_splitOn, List.splitOn_append_cons_self]

/-- What holds no separator goes to the first piece. -/
theorem splitChars_of_not_mem (h : separator ∉ as) (bs : List Char) :
    ∃ first others, splitChars separator bs = first :: others ∧
      splitChars separator (as ++ bs) = (as ++ first) :: others := by
  induction as with
  | nil =>
      cases hbs : splitChars separator bs with
      | nil => exact absurd hbs (splitChars_ne_nil separator bs)
      | cons first others => exact ⟨first, others, rfl, hbs⟩
  | cons a as ih =>
      rw [List.mem_cons, not_or] at h
      obtain ⟨first, others, hbs, has⟩ := ih h.2
      obtain ⟨first', others', has', hcons⟩ := splitChars_cons_of_ne (Ne.symm h.1) (as ++ bs)
      rw [has] at has'
      cases has'
      exact ⟨first, others, hbs, hcons⟩

/-- The first piece is empty if the text begins with a separator, or with nothing. -/
theorem first_eq_nil_iff {first : List Char} {others : List (List Char)}
    (h : splitChars separator cs = first :: others) :
    first = [] ↔ ∀ c, cs.head? = some c → c = separator := by
  cases cs with
  | nil =>
      obtain ⟨rfl, -⟩ := List.cons.inj h
      simp
  | cons c rest =>
      by_cases hc : c = separator
      · subst hc
        rw [splitChars, if_pos rfl] at h
        obtain ⟨rfl, -⟩ := List.cons.inj h
        simp
      · obtain ⟨more, pieces, -, hcons⟩ := splitChars_cons_of_ne hc rest
        rw [hcons] at h
        obtain ⟨rfl, -⟩ := List.cons.inj h
        simp [hc]

theorem not_mem_of_mem_splitChars (h : piece ∈ splitChars separator cs) : separator ∉ piece := by
  induction cs generalizing piece with
  | nil =>
      rw [splitChars, List.mem_singleton] at h
      simp [h]
  | cons c rest ih =>
      by_cases hc : c = separator
      · simp only [splitChars, hc, if_true, List.mem_cons] at h
        rcases h with rfl | h
        · simp
        · exact ih h
      · obtain ⟨first, others, hrest, hcons⟩ := splitChars_cons_of_ne hc rest
        rw [hcons, List.mem_cons] at h
        rw [hrest] at ih
        rcases h with rfl | h
        · rw [List.mem_cons, not_or]
          exact ⟨Ne.symm hc, ih List.mem_cons_self⟩
        · exact ih (List.mem_cons_of_mem first h)

/-- Only separators go when a text is taken apart. -/
theorem flatten_splitChars (separator : Char) (cs : List Char) :
    (splitChars separator cs).flatten = cs.filter (· != separator) := by
  induction cs with
  | nil => rfl
  | cons c rest ih =>
      by_cases hc : c = separator
      · simp [splitChars, hc, ih]
      · obtain ⟨first, others, hrest, hcons⟩ := splitChars_cons_of_ne hc rest
        rw [hrest] at ih
        rw [hcons, List.filter_cons_of_pos (by simpa using hc), ← ih]
        rfl

theorem afterPrefix?_append (mark cs : List Char) : afterPrefix? mark (mark ++ cs) = some cs := by
  induction mark with
  | nil => rfl
  | cons m mark ih => rw [List.cons_append, afterPrefix?, if_pos rfl, ih]

/-- What follows a mark is what the mark stands before. -/
theorem afterPrefix?_eq_some_iff {mark : List Char} :
    afterPrefix? mark cs = some bs ↔ cs = mark ++ bs := by
  refine ⟨fun h => ?_, fun h => h ▸ afterPrefix?_append mark bs⟩
  induction mark generalizing cs with
  | nil => exact Option.some.inj h
  | cons m mark ih =>
      cases cs with
      | nil => cases h
      | cons c rest =>
          rw [afterPrefix?] at h
          split at h
          · rename_i hc
            rw [hc, ih h, List.cons_append]
          · cases h

theorem isSome_afterPrefix?_iff {mark : List Char} :
    (afterPrefix? mark cs).isSome = true ↔ mark <+: cs := by
  rw [Option.isSome_iff_exists]
  exact exists_congr fun bs => afterPrefix?_eq_some_iff.trans eq_comm

theorem stripPrefix?_append (mark s : String) : stripPrefix? mark (mark ++ s) = some s := by
  unfold stripPrefix?
  rw [String.toList_append, afterPrefix?_append, Option.map_some, String.ofList_toList]

/-- A mark is not found where another stands, if neither begins with the other. -/
theorem stripPrefix?_other {mark other : String} (s : String)
    (h : ∀ cs, afterPrefix? mark.toList (other.toList ++ cs) = none) :
    stripPrefix? mark (other ++ s) = none := by
  unfold stripPrefix?
  rw [String.toList_append, h, Option.map_none]

/-! ## The two sides of a mark -/

theorem splitOnceChars_eq {mark : List Char} (h : splitOnceChars mark cs = some (as, bs)) :
    cs = as ++ mark ++ bs := by
  induction cs generalizing as with
  | nil =>
      rw [splitOnceChars] at h
      split at h
      · rename_i hempty
        cases h
        rw [List.isEmpty_iff.mp hempty]
        rfl
      · cases h
  | cons c rest ih =>
      rw [splitOnceChars] at h
      split at h
      · rename_i tail htail
        cases h
        exact afterPrefix?_eq_some_iff.mp htail
      · obtain ⟨⟨before, behind⟩, hrest, hpair⟩ := Option.map_eq_some_iff.mp h
        cases hpair
        rw [ih hrest, List.cons_append, List.cons_append]

/-- A text has no sides exactly if the mark is nowhere in it. -/
theorem splitOnceChars_eq_none_iff {mark : List Char} :
    splitOnceChars mark cs = none ↔ ¬mark <:+: cs := by
  induction cs with
  | nil =>
      rw [splitOnceChars, List.infix_nil]
      cases mark <;> simp
  | cons c rest ih =>
      rw [splitOnceChars, List.infix_cons_iff, not_or, ← ih, ← isSome_afterPrefix?_iff]
      cases afterPrefix? mark (c :: rest) <;> simp

theorem splitOnce_eq {mark s head tail : String} (h : splitOnce mark s = some (head, tail)) :
    s = head ++ mark ++ tail := by
  obtain ⟨⟨before, behind⟩, hsplit, hpair⟩ := Option.map_eq_some_iff.mp h
  cases hpair
  rw [← String.toList_inj, String.toList_append, String.toList_append, String.toList_ofList,
    String.toList_ofList]
  exact splitOnceChars_eq hsplit

theorem splitOnce_eq_none_iff {mark s : String} :
    splitOnce mark s = none ↔ ¬mark.toList <:+: s.toList := by
  rw [splitOnce, Option.map_eq_none_iff]
  exact splitOnceChars_eq_none_iff

/-- Nothing stands behind the last occurrence of a mark exactly if the mark is nowhere in the text. -/
theorem afterLast?_eq_none_iff {mark : List Char} (hmark : mark ≠ []) :
    afterLast? mark cs = none ↔ ¬mark <:+: cs := by
  induction cs with
  | nil => simpa [afterLast?] using hmark
  | cons c rest ih =>
      rw [afterLast?, List.infix_cons_iff, not_or, ← ih, ← isSome_afterPrefix?_iff]
      cases afterLast? mark rest <;> simp

/-- What stands behind the last occurrence of a mark stands behind one, and no occurrence has less
behind it. -/
theorem afterLast?_eq_some {mark : List Char} (hmark : mark ≠ [])
    (h : afterLast? mark cs = some bs) :
    (∃ as, cs = as ++ mark ++ bs) ∧
      ∀ front rest, cs = front ++ mark ++ rest → bs.length ≤ rest.length := by
  induction cs with
  | nil => cases h
  | cons c others ih =>
      rw [afterLast?] at h
      cases hothers : afterLast? mark others with
      | some tail =>
          rw [hothers] at h
          obtain rfl : tail = bs := Option.some.inj h
          obtain ⟨⟨as, has⟩, hleast⟩ := ih hothers
          refine ⟨⟨c :: as, by rw [has]; rfl⟩, ?_⟩
          intro front rest hfront
          cases front with
          | cons x front =>
              injection hfront with _ hfront
              exact hleast front rest hfront
          | nil =>
              -- an occurrence in front of all others has more behind it than the last one
              have hshort := congrArg List.length has
              have hlong := congrArg List.length hfront
              simp only [List.length_append, List.length_cons, List.nil_append] at hshort hlong
              omega
      | none =>
          rw [hothers] at h
          have hhere : c :: others = mark ++ bs := afterPrefix?_eq_some_iff.mp h
          refine ⟨⟨[], hhere⟩, ?_⟩
          intro front rest hfront
          cases front with
          | cons x front =>
              injection hfront with _ hfront
              exact absurd ⟨front, rest, hfront.symm⟩ ((afterLast?_eq_none_iff hmark).mp hothers)
          | nil =>
              have hsame : mark ++ bs = mark ++ rest := hhere.symm.trans hfront
              exact Nat.le_of_eq (congrArg List.length (List.append_cancel_left hsame))

theorem afterLast_of_absent {mark s : String} (h : ¬mark.toList <:+: s.toList) :
    afterLast mark s = s := by
  have hmark : mark.toList ≠ [] := fun hempty => h (hempty ▸ List.nil_infix)
  rw [afterLast, (afterLast?_eq_none_iff hmark).mpr h, Option.getD_none, String.ofList_toList]

end Expansion.Text
