import Expansion.Catalog.Basic
import Expansion.Proofs.Text.Split

/-!
# Short names

The short name of a declaration is found by two cuts, behind the last `::` and then behind the last
`.` of what is left. It is what follows the last separator of either kind.

* **`FollowsLast`** says what stands behind the last of some marks: it begins with the text or behind
  a mark, and no mark has less behind it. There is one such part at most (`FollowsLast.unique`), and
  it holds none of the marks (`FollowsLast.absent`).
* One cut gives such a part for its mark (`followsLast_afterLast`), and a second cut at a single
  character gives one for both marks (`FollowsLast.next`).
* **`shortName_followsLast`** puts this together; what has no separator is its own short name.
-/

namespace Expansion

variable {marks : List (List Char)} {cs rest tail : List Char} {c : Char}

/-- What stands behind the last of some marks in a text. -/
structure FollowsLast (marks : List (List Char)) (cs rest : List Char) : Prop where
  /-- It is the end of the text, and nothing or a mark is in front of it. -/
  behind : ∃ front, cs = front ++ rest ∧ (front = [] ∨ ∃ mark ∈ marks, mark <:+ front)
  /-- No mark has less behind it. -/
  least : ∀ front, ∀ mark ∈ marks, ∀ other, cs = front ++ mark ++ other →
    rest.length ≤ other.length

namespace FollowsLast

/-- A part that begins with the text or behind a mark is not shorter than the last one. -/
theorem length_le (h : FollowsLast marks cs rest)
    (hbehind : ∃ front, cs = front ++ tail ∧ (front = [] ∨ ∃ mark ∈ marks, mark <:+ front)) :
    rest.length ≤ tail.length := by
  obtain ⟨front, hcs, rfl | ⟨mark, hmark, above, rfl⟩⟩ := hbehind
  · obtain ⟨own, hown, -⟩ := h.behind
    have hlong := congrArg List.length (hcs.symm.trans hown)
    simp only [List.length_append, List.length_nil] at hlong
    omega
  · exact h.least above mark hmark tail hcs

/-- Nothing else stands behind the last mark. -/
theorem unique (h : FollowsLast marks cs rest) (hother : FollowsLast marks cs tail) :
    rest = tail := by
  have hlength : rest.length = tail.length :=
    Nat.le_antisymm (h.length_le hother.behind) (hother.length_le h.behind)
  obtain ⟨front, hfront, -⟩ := h.behind
  obtain ⟨other, hback, -⟩ := hother.behind
  exact (List.append_inj' (hfront.symm.trans hback) hlength).2

/-- It holds none of the marks, which would have less behind them. -/
theorem absent (h : FollowsLast marks cs rest) (hmarks : ∀ mark ∈ marks, mark ≠ []) :
    ∀ mark ∈ marks, ¬mark <:+: rest := by
  rintro mark hmark ⟨before, after, hinside⟩
  obtain ⟨front, hcs, -⟩ := h.behind
  have hall : cs = front ++ before ++ mark ++ after := by
    rw [hcs, ← hinside]
    simp only [List.append_assoc]
  have hleast := h.least (front ++ before) mark hmark after hall
  have hlength := congrArg List.length hinside
  have hpos : 0 < mark.length := List.length_pos_iff.mpr (hmarks mark hmark)
  simp only [List.length_append] at hlength
  omega

/-- What stands behind the last of some marks, cut once more behind the last of one character, stands
behind the last of them all. -/
theorem next (h : FollowsLast marks cs rest) (hc : FollowsLast [[c]] rest tail) :
    FollowsLast ([c] :: marks) cs tail := by
  obtain ⟨front, hcs, hfront⟩ := h.behind
  obtain ⟨middle, hrest, hmiddle⟩ := hc.behind
  have hshorter : tail.length ≤ rest.length := by
    rw [hrest, List.length_append]
    omega
  refine ⟨⟨front ++ middle, by rw [hcs, hrest, List.append_assoc], ?_⟩, ?_⟩
  · rcases hmiddle with rfl | ⟨mark, hmark, hends⟩
    · rw [List.append_nil]
      exact hfront.imp id fun ⟨mark, hmark, hends⟩ => ⟨mark, List.mem_cons_of_mem _ hmark, hends⟩
    · obtain rfl := List.mem_singleton.mp hmark
      exact .inr ⟨[c], List.mem_cons_self, hends.trans (List.suffix_append front middle)⟩
  · intro above mark hmark other hother
    rcases List.mem_cons.mp hmark with rfl | hmark
    · -- A character in front of the first cut has all of it behind it, and one behind the first cut
      -- is one that the second cut sees.
      by_cases hlong : rest.length ≤ other.length
      · exact Nat.le_trans hshorter hlong
      · have hend : c :: other <:+ cs :=
          ⟨above, by rw [hother, List.append_assoc, List.singleton_append]⟩
        have hlength : (c :: other).length ≤ rest.length := by
          rw [List.length_cons]
          omega
        obtain ⟨before, hbefore⟩ := List.suffix_of_suffix_length_le hend ⟨front, hcs.symm⟩ hlength
        refine hc.least before [c] (List.mem_singleton_self _) other ?_
        rw [← hbefore, List.append_assoc, List.singleton_append]
    · exact Nat.le_trans hshorter (h.least above mark hmark other hother)

end FollowsLast

/-- A cut behind the last occurrence of a mark. -/
theorem followsLast_afterLast (mark : String) (hmark : mark.toList ≠ []) (s : String) :
    FollowsLast [mark.toList] s.toList (Text.afterLast mark s).toList := by
  unfold Text.afterLast
  rw [String.toList_ofList]
  cases hafter : Text.afterLast? mark.toList s.toList with
  | none =>
      have habsent := (Text.afterLast?_eq_none_iff hmark).mp hafter
      refine ⟨⟨[], rfl, .inl rfl⟩, ?_⟩
      intro front other hother rest hs
      obtain rfl := List.mem_singleton.mp hother
      exact absurd ⟨front, rest, hs.symm⟩ habsent
  | some rest =>
      obtain ⟨⟨front, hfront⟩, hleast⟩ := Text.afterLast?_eq_some hmark hafter
      refine ⟨⟨front ++ mark.toList, hfront, .inr ⟨_, List.mem_singleton_self _, ?_⟩⟩, ?_⟩
      · exact List.suffix_append front mark.toList
      · intro front other hother rest hs
        obtain rfl := List.mem_singleton.mp hother
        exact hleast front rest hs

/-! ## Separators of names -/

/-- What separates the parts of a full name. -/
def nameSeparators : List (List Char) := [".".toList, "::".toList]

/-- A name without separators is short already. -/
theorem shortName_of_absent {name : String} (h : ∀ mark ∈ nameSeparators, ¬mark <:+: name.toList) :
    shortName name = name := by
  have hcolons : ¬"::".toList <:+: name.toList := h _ (.tail _ (.head _))
  have hdot : ¬".".toList <:+: name.toList := h _ (.head _)
  rw [shortName, Text.afterLast_of_absent hcolons, Text.afterLast_of_absent hdot]

/-- **The short name is what follows the last separator.** It is the end of the full name, and
nothing or a separator is in front of it; it holds no separator, and its own short name is itself.
Of all ends of the full name in front of which there is nothing or a separator it is the shortest,
and no other text is all this. -/
theorem shortName_followsLast (full : String) :
    FollowsLast nameSeparators full.toList (shortName full).toList ∧
      (∀ mark ∈ nameSeparators, ¬mark <:+: (shortName full).toList) ∧
      shortName (shortName full) = shortName full ∧
      ∀ rest, FollowsLast nameSeparators full.toList rest → rest = (shortName full).toList := by
  have hpath := followsLast_afterLast "::" (by decide) full
  have hdot := followsLast_afterLast "." (by decide) (Text.afterLast "::" full)
  have hlast : FollowsLast nameSeparators full.toList (shortName full).toList := hpath.next hdot
  have habsent := hlast.absent (by decide)
  exact ⟨hlast, habsent, shortName_of_absent habsent, fun rest hrest => hrest.unique hlast⟩

/-- Of three colons the last two separate. -/
example : (shortName "a.b::c.d", shortName ":::", shortName "a::b.") = ("d", "", "") := by decide

end Expansion
