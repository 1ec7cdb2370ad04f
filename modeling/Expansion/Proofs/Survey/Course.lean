import Expansion.Proofs.Survey.Answers
import Expansion.Proofs.Workbench.Scan
import Mathlib.Data.List.FinRange
import Mathlib.Data.List.OfFn
import Mathlib.Data.List.ProdSigma

/-!
# The course of an expansion

An expansion is a run of calls, each of which may change the state that the next one sees. This says
which calls they are, and what becomes of their answers.

* **`Survey.Calls`** is a run of calls from a state to a state, by the places of the expander and
  the type in the survey and with what each call answered.
* **`fragmentsOf_calls`** takes the pairs one by one: a pair that does not run changes nothing, a
  pair that answers adds a call and a fragment, and a fault is the last call.
* **`expand_calls`**: an expansion is the run of all pairs that apply, in order and each once, up to
  the first that faults. A fragment's place tells whose answer it is.
-/

namespace Expansion

namespace Survey

variable {σ : Type} {s : Survey σ}

/-- A pair, by the places of its expander and its type. -/
abbrev Place (s : Survey σ) := Fin s.expanders.length × Fin s.types.length

/-- All pairs, expander by expander and for each type by type. -/
def places (s : Survey σ) : List s.Place :=
  List.finRange s.expanders.length ×ˢ List.finRange s.types.length

/-- The pair at a place. -/
def pairAt (s : Survey σ) (place : s.Place) : Expander σ × ExpandableType :=
  (s.expanders[place.1], s.types[place.2])

/-- Whether the pair at a place is called. -/
def runs (s : Survey σ) (place : s.Place) : Bool :=
  s.expanders[place.1].appliesTo s.types[place.2]

/-- Calls of a survey's pairs, each with what it answered: the first from the first state, each
other from the state that the one before it left, and the last leaves the last state. A call passes
the description of the type. -/
inductive Calls (s : Survey σ) : σ → List (s.Place × Except Fault String) → σ → Prop
  | none {n : σ} : Calls s n [] n
  | call {place : s.Place} {answer : Except Fault String} {n between after : σ}
      {rest : List (s.Place × Except Fault String)} :
      s.expanders[place.1].call s.types[place.2].info n = (answer, between) →
      Calls s between rest after → Calls s n ((place, answer) :: rest) after

/-! ## Pairs and places -/

/-- The pairs of a survey are those at its places. -/
theorem pairs_eq (s : Survey σ) : pairs s.types s.expanders = s.places.map s.pairAt := by
  have hlist : ∀ {α : Type} (l : List α), (List.finRange l.length).map (fun i => l[i]) = l := by
    intro α l
    rw [← List.ofFn_eq_map]
    exact List.ofFn_getElem
  calc pairs s.types s.expanders
      = ((List.finRange s.expanders.length).map fun i => s.expanders[i]).flatMap fun e =>
          ((List.finRange s.types.length).map fun j => s.types[j]).map fun t => (e, t) := by
        rw [hlist, hlist]
        rfl
    _ = s.places.map s.pairAt := by
        simp only [places, SProd.sprod, List.product, List.flatMap_map, List.map_flatMap,
          List.map_map]
        rfl

theorem length_places (s : Survey σ) :
    s.places.length = s.expanders.length * s.types.length := by
  rw [places, List.length_product, List.length_finRange, List.length_finRange]

theorem nodup_places (s : Survey σ) : s.places.Nodup :=
  (List.nodup_finRange _).product (List.nodup_finRange _)

/-- Behind the pairs of the items before it, an item has a pair with each item of the other list. -/
theorem getElem?_product {α β : Type} {xs : List α} {ys : List β} {i j : Nat} {x : α} {y : β}
    (hx : xs[i]? = some x) (hy : ys[j]? = some y) :
    (xs ×ˢ ys)[i * ys.length + j]? = some (x, y) := by
  induction xs generalizing i with
  | nil => cases hx
  | cons first rest ih =>
      rw [List.product_cons]
      cases i with
      | zero =>
          obtain rfl : first = x := Option.some.inj hx
          have hj : j < ys.length := (List.getElem?_eq_some_iff.mp hy).1
          rw [Nat.zero_mul, Nat.zero_add, List.getElem?_append_left (by simpa using hj),
            List.getElem?_map, hy]
          rfl
      | succ i =>
          have hlength : (ys.map fun b => (first, b)).length = ys.length := List.length_map _
          have hplace : (i + 1) * ys.length + j - ys.length = i * ys.length + j := by
            rw [Nat.succ_mul]
            omega
          rw [List.getElem?_append_right (by rw [hlength, Nat.succ_mul]; omega), hlength, hplace]
          exact ih hx

theorem getElem?_places (i : Fin s.expanders.length) (j : Fin s.types.length) :
    s.places[i * s.types.length + j]? = some (i, j) := by
  have hi : (List.finRange s.expanders.length)[(i : Nat)]? = some i := by simp
  have hj : (List.finRange s.types.length)[(j : Nat)]? = some j := by simp
  have hplace := getElem?_product hi hj
  rwa [List.length_finRange] at hplace

/-! ## One pair after the other -/

variable {places : List s.Place} {calls : List (s.Place × Except Fault String)} {place : s.Place}
variable {text fragment : String} {cause : Fault} {outcome : Except ExpansionFault (List String)}

/-- What stands in the place of a pair: the text that its call answered, or nothing if the pair does
not run. -/
def FragmentAt (calls : List (s.Place × Except Fault String)) (place : s.Place)
    (fragment : String) : Prop :=
  if s.runs place then (place, .ok fragment) ∈ calls else fragment = ""

/-- Whether a call answered a text. -/
def Answered (call : s.Place × Except Fault String) : Prop := ∃ text, call.2 = .ok text

theorem FragmentAt.cons (h : FragmentAt calls place fragment)
    (call : s.Place × Except Fault String) :
    FragmentAt (call :: calls) place fragment := by
  unfold FragmentAt at h ⊢
  split
  · rename_i hruns
    rw [if_pos hruns] at h
    exact List.mem_cons_of_mem _ h
  · rename_i hidle
    rwa [if_neg hidle] at h

/-- An expansion of the pairs at some places that came to its end: all that run were called and
answered, and each has its fragment. -/
structure Finished (places : List s.Place) (calls : List (s.Place × Except Fault String))
    (fragments : List String) : Prop where
  called : calls.map Prod.fst = places.filter s.runs
  answered : ∀ call ∈ calls, Answered call
  fragments : List.Forall₂ (FragmentAt calls) places fragments

/-- An expansion of the pairs at some places that a fault ended: the pair that faulted was called
last, and those before it were called and answered. -/
structure Stopped (places : List s.Place) (calls : List (s.Place × Except Fault String))
    (place : s.Place) (cause : Fault) : Prop where
  called : calls.map Prod.fst <+: places.filter s.runs
  last : ∃ earlier, calls = earlier ++ [(place, .error cause)] ∧ ∀ call ∈ earlier, Answered call

/-- What an expansion of the pairs at some places comes to after some calls. -/
def Ends (places : List s.Place) (calls : List (s.Place × Except Fault String)) :
    Except ExpansionFault (List String) → Prop
  | .ok fragments => Finished places calls fragments
  | .error fault => ∃ place cause, Stopped places calls place cause ∧
      fault = ⟨s.expanders[place.1].name, s.types[place.2].name, cause.message⟩

/-- A pair that does not run is passed over. -/
theorem Ends.pass (h : Ends places calls outcome) (hidle : s.runs place = false) :
    Ends (place :: places) calls (outcome.map ("" :: ·)) := by
  have hfilter : (place :: places).filter s.runs = places.filter s.runs :=
    List.filter_cons_of_neg (by simp [hidle])
  cases outcome with
  | ok fragments =>
      refine ⟨hfilter ▸ h.called, h.answered, .cons ?_ h.fragments⟩
      unfold FragmentAt
      rw [hidle]
      rfl
  | error fault =>
      obtain ⟨stopped, cause, hstopped, rfl⟩ := h
      exact ⟨stopped, cause, ⟨hfilter ▸ hstopped.called, hstopped.last⟩, rfl⟩

/-- A pair that answers comes before the others. -/
theorem Ends.answer (h : Ends places calls outcome) (hruns : s.runs place = true) (text : String) :
    Ends (place :: places) ((place, .ok text) :: calls) (outcome.map (text :: ·)) := by
  have hfilter : (place :: places).filter s.runs = place :: places.filter s.runs :=
    List.filter_cons_of_pos hruns
  have hanswered : Answered (s := s) (place, .ok text) := ⟨text, rfl⟩
  cases outcome with
  | ok fragments =>
      refine ⟨?_, List.forall_mem_cons.mpr ⟨hanswered, h.answered⟩, .cons ?_ ?_⟩
      · rw [hfilter, List.map_cons, h.called]
      · unfold FragmentAt
        rw [if_pos hruns]
        exact List.mem_cons_self
      · exact h.fragments.imp fun _ _ hfragment => hfragment.cons _
  | error fault =>
      obtain ⟨stopped, cause, hstopped, rfl⟩ := h
      obtain ⟨earlier, rfl, hearlier⟩ := hstopped.last
      refine ⟨stopped, cause, ⟨?_, (place, .ok text) :: earlier, rfl, ?_⟩, rfl⟩
      · rw [hfilter, List.map_cons]
        exact List.cons_prefix_cons.mpr ⟨rfl, hstopped.called⟩
      · exact List.forall_mem_cons.mpr ⟨hanswered, hearlier⟩

/-- A pair that faults is the last. -/
theorem Ends.fault (hruns : s.runs place = true) (cause : Fault) :
    Ends (place :: places) [(place, .error cause)]
      (.error ⟨s.expanders[place.1].name, s.types[place.2].name, cause.message⟩) := by
  refine ⟨place, cause, ⟨?_, [], rfl, by simp⟩, rfl⟩
  rw [List.filter_cons_of_pos hruns]
  exact List.cons_prefix_cons.mpr ⟨rfl, List.nil_prefix⟩

/-- The pairs at some places are called one after the other. -/
theorem fragmentsOf_calls (s : Survey σ) (places : List s.Place) (n : σ) :
    ∃ calls, s.Calls n calls (fragmentsOf (places.map s.pairAt) n).2 ∧
      Ends places calls (fragmentsOf (places.map s.pairAt) n).1 := by
  induction places generalizing n with
  | nil => exact ⟨[], .none, ⟨rfl, by simp, .nil⟩⟩
  | cons place rest ih =>
      rw [List.map_cons, fragmentsOf_cons]
      cases hruns : s.runs place with
      | false =>
          obtain ⟨calls, hcalls, hends⟩ := ih n
          have hfragment : fragment (s.pairAt place).1 (s.pairAt place).2 n = (.ok "", n) :=
            fragment_of_idle hruns n
          rw [hfragment]
          exact ⟨calls, hcalls, hends.pass hruns⟩
      | true =>
          cases hcall : s.expanders[place.1].call s.types[place.2].info n with
          | mk answer after =>
              cases answer with
              | error cause =>
                  have hfragment : fragment (s.pairAt place).1 (s.pairAt place).2 n =
                      (.error ⟨s.expanders[place.1].name, s.types[place.2].name, cause.message⟩,
                        after) := fragment_of_error hruns hcall
                  rw [hfragment]
                  exact ⟨[(place, .error cause)], .call hcall .none, Ends.fault hruns cause⟩
              | ok text =>
                  obtain ⟨calls, hcalls, hends⟩ := ih after
                  have hfragment : fragment (s.pairAt place).1 (s.pairAt place).2 n =
                      (.ok text, after) := fragment_of_ok hruns hcall
                  rw [hfragment]
                  exact ⟨_, .call hcall hcalls, hends.answer hruns text⟩

/-- The fragments of an expansion of all pairs, by the places of the expander and the type. -/
theorem Finished.fragment_at {fragments : List String} (h : Finished s.places calls fragments)
    (i : Fin s.expanders.length) (j : Fin s.types.length) :
    ∃ fragment, fragments[i * s.types.length + j]? = some fragment ∧
      FragmentAt calls (i, j) fragment := by
  obtain ⟨hplace, heq⟩ := List.getElem?_eq_some_iff.mp (getElem?_places i j)
  obtain ⟨hlength, hat⟩ := List.forall₂_iff_get.mp h.fragments
  have hfragment := hlength ▸ hplace
  refine ⟨fragments[i * s.types.length + j], List.getElem?_eq_getElem hfragment, ?_⟩
  rw [← heq]
  exact hat _ hplace hfragment

end Survey

namespace Workbench

/-- **An expansion calls the pairs that apply**, in order and each once, up to the first that
faults. If all answer, the fragment of expander `i` for type `j` stands behind those of the
expanders before it and of the types before `j`. A fault is the answer to the last call, and it
becomes the failure and its event. -/
theorem expand_calls (s : Survey Machine) (m : Machine) :
    ∃ calls after, s.Calls m calls after ∧
      calls.map Prod.fst <+: s.places.filter s.runs ∧ (calls.map Prod.fst).Nodup ∧
      ((∃ fragments, expand s m = (.ok fragments, after) ∧
          calls.map Prod.fst = s.places.filter s.runs ∧ (∀ call ∈ calls, Survey.Answered call) ∧
          fragments.length = s.expanders.length * s.types.length ∧
          ∀ (i : Fin s.expanders.length) (j : Fin s.types.length), ∃ fragment,
            fragments[i * s.types.length + j]? = some fragment ∧
              Survey.FragmentAt calls (i, j) fragment) ∨
        ∃ i j cause earlier, calls = earlier ++ [((i, j), .error cause)] ∧
          (∀ call ∈ earlier, Survey.Answered call) ∧
          expand s m =
            (.error (.expansion s.expanders[i].name s.types[j].name cause.message),
              after.log .error .expansion "expander faulted"
                [("expander", .text s.expanders[i].name), ("type_name", .text s.types[j].name),
                  ("error", .text cause.message)]
                (some .expanderFailed))) := by
  obtain ⟨calls, hcalls, hends⟩ := Survey.fragmentsOf_calls s s.places m
  rw [← Survey.pairs_eq] at hcalls hends
  have hdistinct : (s.places.filter s.runs).Nodup := s.nodup_places.filter _
  have hexpand : expand s m = judge (s.expand m).1 (s.expand m).2 := by
    rw [expand_eq]
    rfl
  refine ⟨calls, (s.expand m).2, hcalls, ?_⟩
  cases houtcome : (s.expand m).1 with
  | ok fragments =>
      have hfinished : Survey.Finished s.places calls fragments := by
        rwa [show (Survey.fragmentsOf _ m).1 = _ from houtcome] at hends
      rw [houtcome] at hexpand
      refine ⟨hfinished.called ▸ List.prefix_rfl, hfinished.called ▸ hdistinct, .inl ⟨fragments,
        hexpand, hfinished.called, hfinished.answered, ?_, hfinished.fragment_at⟩⟩
      rw [← hfinished.fragments.length_eq, s.length_places]
  | error fault =>
      rw [show (Survey.fragmentsOf _ m).1 = _ from houtcome] at hends
      obtain ⟨⟨i, j⟩, cause, hstopped, rfl⟩ := hends
      obtain ⟨earlier, hlast, hearlier⟩ := hstopped.last
      rw [houtcome] at hexpand
      exact ⟨hstopped.called, hdistinct.sublist hstopped.called.sublist,
        .inr ⟨i, j, cause, earlier, hlast, hearlier, hexpand⟩⟩

end Workbench

end Expansion
