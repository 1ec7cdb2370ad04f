import Expansion.Document
import Expansion.Survey.Fragments

/-!
# Expanding with known answers

Where it is known which pairs run, which of these fail and what text the others make, the outcome of
an expansion is known too (`fragmentsOf_of_known`): the first pair that runs and fails ends it, and
without such a pair the texts of those that run are all that a document is made of. The pairs that
do not run leave empty fragments, which no document shows.
-/

namespace Expansion.Survey

variable {σ ι : Type} {P : σ → Prop} {pairOf : ι → Expander σ × ExpandableType}
variable {runs fails : ι → Bool} {message text : ι → String}

/-- What is known about the pairs: which of them run, and what these answer in every state with the
property, which they keep. -/
structure Known (P : σ → Prop) (pairOf : ι → Expander σ × ExpandableType) (runs fails : ι → Bool)
    (message text : ι → String) (items : List ι) : Prop where
  applies : ∀ i ∈ items, (pairOf i).1.appliesTo (pairOf i).2 = runs i
  answers : ∀ i ∈ items, runs i = true → ∀ n, P n →
    ∃ after, P after ∧ (pairOf i).1.call (pairOf i).2.info n =
      (if fails i then .error ⟨message i⟩ else .ok (text i), after)

theorem Known.tail {i : ι} {items : List ι}
    (h : Known P pairOf runs fails message text (i :: items)) :
    Known P pairOf runs fails message text items where
  applies := fun j hj => h.applies j (List.mem_cons_of_mem i hj)
  answers := fun j hj => h.answers j (List.mem_cons_of_mem i hj)

/-- A step whose outcome is known is taken. -/
theorem bind_of_eq {α β : Type} {x : StateM σ α} {f : α → StateM σ β} {a : α} {n after : σ}
    (h : x n = (a, after)) : (x >>= f) n = f a after := by
  show f (x n).1 (x n).2 = f a after
  rw [h]

/-- A pair that does not run has an empty fragment. -/
theorem fragment_of_idle {e : Expander σ} {t : ExpandableType} (h : e.appliesTo t = false)
    (n : σ) : fragment e t n = (.ok "", n) := by
  unfold fragment
  rw [h]
  rfl

/-- One that runs has what its call answers. -/
theorem fragment_of_ok {e : Expander σ} {t : ExpandableType} {n after : σ} {text : String}
    (h : e.appliesTo t = true) (hcall : e.call t.info n = (.ok text, after)) :
    fragment e t n = (.ok text, after) := by
  unfold fragment
  rw [if_pos h, bind_of_eq hcall]
  rfl

/-- The fault of a call names the pair. -/
theorem fragment_of_error {e : Expander σ} {t : ExpandableType} {n after : σ} {cause : Fault}
    (h : e.appliesTo t = true) (hcall : e.call t.info n = (.error cause, after)) :
    fragment e t n = (.error ⟨e.name, t.name, cause.message⟩, after) := by
  unfold fragment
  rw [if_pos h, bind_of_eq hcall]
  rfl

/-- The first pair is asked first, and the others only if it has a fragment. -/
theorem fragmentsOf_cons (pair : Expander σ × ExpandableType)
    (rest : List (Expander σ × ExpandableType)) (n : σ) :
    fragmentsOf (pair :: rest) n =
      match fragment pair.1 pair.2 n with
      | (.error fault, after) => (.error fault, after)
      | (.ok text, after) =>
        ((fragmentsOf rest after).1.map (text :: ·), (fragmentsOf rest after).2) := by
  cases hfragment : fragment pair.1 pair.2 n with
  | mk answer after =>
      rw [fragmentsOf, bind_of_eq hfragment]
      cases answer with
      | error fault => rfl
      | ok text =>
          cases hrest : fragmentsOf rest after with
          | mk others last =>
              show (fragmentsOf rest >>= fun others => _) after =
                ((fragmentsOf rest after).1.map (text :: ·), (fragmentsOf rest after).2)
              rw [bind_of_eq hrest, hrest]
              cases others <;> rfl

/-- A pair with a fragment is followed by the others. -/
theorem fragmentsOf_cons_ok {pair : Expander σ × ExpandableType}
    {rest : List (Expander σ × ExpandableType)} {n after : σ} {fragment : String}
    (h : Survey.fragment pair.1 pair.2 n = (.ok fragment, after)) :
    (fragmentsOf (pair :: rest) n).1 = (fragmentsOf rest after).1.map (fragment :: ·) := by
  rw [fragmentsOf_cons, h]

/-- The fragments that say something. -/
def speaking (fragments : List String) : List String :=
  fragments.filter fun fragment => !Text.isBlankText fragment

/-- What an expansion comes to, where it is known which pairs run and which of these fail: the fault
of the first pair that runs and fails, or else fragments that say what those that run do. -/
def Comes (outcome : Except ExpansionFault (List String))
    (pairOf : ι → Expander σ × ExpandableType) (fails : ι → Bool) (message text : ι → String)
    (running : List ι) : Prop :=
  match running.find? fails with
  | some i => outcome = .error ⟨(pairOf i).1.name, (pairOf i).2.name, message i⟩
  | none => ∃ fragments, outcome = .ok fragments ∧ speaking fragments = speaking (running.map text)

/-- The document of such an expansion. -/
theorem Comes.document {outcome : Except ExpansionFault (List String)} {running : List ι}
    (h : Comes outcome pairOf fails message text running) :
    outcome.map Document.ofFragments =
      match running.find? fails with
      | some i => .error ⟨(pairOf i).1.name, (pairOf i).2.name, message i⟩
      | none => .ok (Document.ofFragments (running.map text)) := by
  unfold Comes at h
  cases hfind : running.find? fails with
  | some i =>
      rw [hfind] at h
      rw [h]
      rfl
  | none =>
      rw [hfind] at h
      obtain ⟨fragments, rfl, hsame⟩ := h
      exact congrArg (fun all => Except.ok (Text.join Document.separator all)) hsame

end Expansion.Survey
