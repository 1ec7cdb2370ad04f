import Expansion.Proofs.ResultCache.Lookup
import Mathlib.Data.Finset.Card

/-!
# What uses make of a cache

Any sequence of uses of a new cache, by calls whose builders end as they like and by the lookups in
between.

* **Builder runs are counted by the builder** (`noting`), not by the cache: a call that is answered
  from the cache leaves the builder's own list as it is.
* **One step** (`Step.call_cases`): a call is a hit, a success or a failure, and a lookup leaves the
  cache alone (`Step.eq_of_lookup`).
* **The tally** (`Tally`): the entries are the runs that have succeeded, with their numbers and in
  their order, no two of one class; the counters and the latest request say the same of the calls.
* Everything a cache answers then follows from its history (`answers_of_uses`).
-/

namespace Expansion

namespace Configuration

/-- Configurations of one class ask for the same. -/
def sameSetoid : Setoid Configuration where
  r c d := c.same d = true
  iseqv := ⟨same_refl, same_symm, same_trans⟩

/-- What a configuration asks for, however it is written. -/
def Class : Type := Quotient sameSetoid

/-- The class of a configuration. -/
def toClass (c : Configuration) : Class := Quotient.mk sameSetoid c

instance : DecidableEq Class :=
  @Quotient.decidableEq _ sameSetoid fun c d => inferInstanceAs (Decidable (c.same d = true))

theorem toClass_eq_iff {c d : Configuration} : c.toClass = d.toClass ↔ c.same d = true := by
  apply Iff.intro
  · intro h
    exact Quotient.exact h
  · intro h
    exact Quotient.sound h

end Configuration

namespace ResultCache

variable {α ε : Type}

/-- A builder that ends in a given way and notes each of its runs. -/
def noting (outcome : Except ε α) : StateM (List (Except ε α)) (Except ε α) :=
  fun runs => (outcome, runs ++ [outcome])

/-- A use of a cache, with what it is answered. A call also has the runs of its builder. -/
inductive Use (α ε : Type) where
  | getOrBuild (c : Configuration) (runs : List (Except ε α)) (answer : Except ε (Kept α))
  | get (c : Configuration) (answer : Option (Kept α))
  | contains (c : Configuration) (answer : Bool)
  | latest (answer : Option (Configuration × Kept α))
  | size (answer : Nat)
  | isEmpty (answer : Bool)
  | stats (answer : Stats)

namespace Use

/-- Whether the use may run a builder. -/
def isCall : Use α ε → Bool
  | getOrBuild .. => true
  | _ => false

/-- The builder runs of the use, each with what was asked for. -/
def runs : Use α ε → List (Configuration × Except ε α)
  | getOrBuild c runs _ => runs.map fun outcome => (c, outcome)
  | _ => []

/-- The result that a call gave, with the configuration that it was passed. -/
def served? : Use α ε → Option (Configuration × Kept α)
  | getOrBuild c _ (.ok kept) => some (c, kept)
  | _ => none

end Use

/-- One use of a cache. -/
inductive Step : ResultCache α → Use α ε → ResultCache α → Prop
  | getOrBuild {cache next c runs answer} (outcome : Except ε α) :
      cache.getOrBuild c (noting outcome) [] = ((answer, next), runs) →
      Step cache (.getOrBuild c runs answer) next
  | get {cache} (c : Configuration) : Step cache (.get c (cache.get? c)) cache
  | contains {cache} (c : Configuration) : Step cache (.contains c (cache.contains c)) cache
  | latest {cache} : Step cache (.latest cache.latest?) cache
  | size {cache} : Step cache (.size cache.size) cache
  | isEmpty {cache} : Step cache (.isEmpty cache.isEmpty) cache
  | stats {cache} : Step cache (.stats cache.stats) cache

/-- Uses of a cache, one after another. -/
inductive Used : ResultCache α → List (Use α ε) → ResultCache α → Prop
  | refl (cache) : Used cache [] cache
  | snoc {first events cache use next} : Used first events cache → Step cache use next →
      Used first (events ++ [use]) next

/-! ## What the uses say -/

/-- All builder runs, in their order. -/
def builderRuns (events : List (Use α ε)) : List (Configuration × Except ε α) :=
  events.flatMap Use.runs

/-- The uses that are calls. -/
def calls (events : List (Use α ε)) : List (Use α ε) := events.filter Use.isCall

/-- What the calls have served, in order. -/
def served (events : List (Use α ε)) : List (Configuration × Kept α) :=
  events.filterMap Use.served?

/-- The result of a run that succeeded, with the number of the run. -/
def success? : (Configuration × Except ε α) × Nat → Option (Configuration × Kept α)
  | ((c, .ok result), number) => some (c, ⟨number, result⟩)
  | ((_, .error _), _) => none

/-- The results of the runs that succeeded, each with the number of its run, from 1 on. -/
def successes (runs : List (Configuration × Except ε α)) : List (Configuration × Kept α) :=
  (runs.zipIdx 1).filterMap success?

/-- Those of the results that a configuration asks for. -/
def successesFor (c : Configuration) (runs : List (Configuration × Except ε α)) : List (Kept α) :=
  ((successes runs).filter fun (key, _) => key.same c).map Prod.snd

/-- The classes that have had a successful run. -/
def builtClasses (runs : List (Configuration × Except ε α)) : Finset Configuration.Class :=
  ((successes runs).map fun (key, _) => key.toClass).toFinset

variable {cache next : ResultCache α} {use : Use α ε} {events : List (Use α ε)}
variable {c : Configuration} {kept : Kept α} {runs : List (Configuration × Except ε α)}

@[simp] theorem builderRuns_concat :
    builderRuns (events ++ [use]) = builderRuns events ++ use.runs := by
  simp [builderRuns]

@[simp] theorem calls_concat :
    calls (events ++ [use]) = calls events ++ if use.isCall then [use] else [] := by
  cases h : use.isCall <;> simp [calls, h]

theorem length_calls_concat (huse : use.isCall = true) :
    (calls (events ++ [use])).length = (calls events).length + 1 := by
  simp [huse]

@[simp] theorem served_concat :
    served (events ++ [use]) = served events ++ use.served?.toList := by
  simp only [served, List.filterMap_append]
  cases h : use.served? <;> simp [h]

@[simp] theorem successes_concat (run : Configuration × Except ε α) :
    successes (runs ++ [run]) = successes runs ++ (success? (run, runs.length + 1)).toList := by
  unfold successes
  rw [List.zipIdx_append, List.filterMap_append, Nat.add_comm 1]
  cases h : success? (run, runs.length + 1) <;> simp [h]

/-! ## One use -/

/-- A call is answered from the cache and runs nothing, or its builder runs once and decides. -/
theorem Step.call_cases {outcomes : List (Except ε α)} {answer : Except ε (Kept α)}
    (hstep : Step cache (.getOrBuild c outcomes answer) next) :
    (∃ kept, cache.get? c = some kept ∧ outcomes = [] ∧ answer = .ok kept ∧ next = cache.hit c) ∨
    (∃ result, cache.get? c = none ∧ outcomes = [.ok result] ∧
      answer = .ok ⟨cache.miss.misses, result⟩ ∧ next = cache.miss.keep c result) ∨
    (∃ e, cache.get? c = none ∧ outcomes = [.error e] ∧ answer = .error e ∧
      next = cache.miss) := by
  cases hstep with
  | getOrBuild outcome hcall =>
      cases hget : cache.get? c with
      | some kept =>
          rw [getOrBuild_of_some hget] at hcall
          cases hcall
          exact .inl ⟨kept, rfl, rfl, rfl, rfl⟩
      | none =>
          rw [getOrBuild_of_none hget] at hcall
          cases outcome with
          | ok result =>
              cases hcall
              exact .inr (.inl ⟨result, rfl, rfl, rfl, rfl⟩)
          | error e =>
              cases hcall
              exact .inr (.inr ⟨e, rfl, rfl, rfl, rfl⟩)

/-- A lookup changes nothing. -/
theorem Step.eq_of_lookup (hstep : Step cache use next) (huse : use.isCall = false) :
    next = cache := by
  cases hstep with
  | getOrBuild _ _ => simp [Use.isCall] at huse
  | _ => rfl

/-- No use takes an entry away, or changes one. -/
theorem Step.entries_prefix (hstep : Step cache use next) : cache.entries <+: next.entries := by
  cases use with
  | getOrBuild c outcomes answer =>
      obtain ⟨_, -, -, -, rfl⟩ | ⟨_, -, -, -, rfl⟩ | ⟨_, -, -, -, rfl⟩ := hstep.call_cases
      · exact List.prefix_refl _
      · exact List.prefix_append _ _
      · exact List.prefix_refl _
  | _ => rw [hstep.eq_of_lookup rfl]

/-! ## The tally -/

/-- What a history of uses has come to. -/
structure Tally (events : List (Use α ε)) (cache : ResultCache α) : Prop where
  /-- Every builder run is a miss. -/
  misses : cache.misses = (builderRuns events).length
  /-- Every call is a hit or a miss. -/
  calls : cache.hits + cache.misses = (calls events).length
  /-- The entries are the runs that succeeded. -/
  entries : cache.entries = successes (builderRuns events)
  /-- A class has at most one entry. -/
  distinct : cache.entries.Pairwise fun a b => a.1.same b.1 = false
  latest : cache.latest? = (served events).getLast?

theorem tally_empty : Tally ([] : List (Use α ε)) (empty : ResultCache α) where
  misses := rfl
  calls := rfl
  entries := rfl
  distinct := .nil
  latest := rfl

theorem Tally.lookup (h : Tally events cache) (huse : use.isCall = false) :
    Tally (events ++ [use]) cache := by
  have hruns : use.runs = [] := by cases use <;> simp_all [Use.runs, Use.isCall]
  have hserved : use.served? = none := by cases use <;> simp_all [Use.served?, Use.isCall]
  constructor
  · simpa [hruns] using h.misses
  · simpa [huse] using h.calls
  · simpa [hruns] using h.entries
  · exact h.distinct
  · simpa [hserved] using h.latest

/-- A call that is answered from the cache. -/
theorem Tally.hit (h : Tally events cache) (hget : cache.get? c = some kept) :
    Tally (events ++ [.getOrBuild c [] (.ok kept)]) (cache.hit c) where
  misses := by
    show cache.misses = _
    simpa [Use.runs] using h.misses
  calls := by
    show cache.hits + 1 + cache.misses = _
    rw [length_calls_concat rfl, ← h.calls]
    omega
  entries := by
    show cache.entries = _
    simpa [Use.runs] using h.entries
  distinct := h.distinct
  latest := by
    rw [latest?_hit hget]
    simp [Use.served?]

/-- A call whose builder fails. -/
theorem Tally.miss (h : Tally events cache) (c : Configuration) (e : ε) :
    Tally (events ++ [.getOrBuild c [.error e] (.error e)]) cache.miss where
  misses := by
    show cache.misses + 1 = _
    simpa [Use.runs] using h.misses
  calls := by
    show cache.hits + (cache.misses + 1) = _
    rw [length_calls_concat rfl, ← h.calls]
    omega
  entries := by
    show cache.entries = _
    simpa [Use.runs, success?] using h.entries
  distinct := h.distinct
  latest := by
    show cache.latest? = _
    simpa [Use.served?] using h.latest

/-- A call whose builder succeeds. -/
theorem Tally.keep (h : Tally events cache) (hget : cache.get? c = none) (result : α) :
    Tally (events ++ [.getOrBuild c [.ok result] (.ok ⟨cache.miss.misses, result⟩)])
      (cache.miss.keep c result) where
  misses := by
    show cache.misses + 1 = _
    simpa [Use.runs] using h.misses
  calls := by
    show cache.hits + (cache.misses + 1) = _
    rw [length_calls_concat rfl, ← h.calls]
    omega
  entries := by
    show cache.entries ++ [(c, ⟨cache.misses + 1, result⟩)] = _
    -- Every run before was a miss, so the misses are the number of this one.
    rw [h.misses, h.entries]
    simp [Use.runs, success?]
  distinct := by
    show (cache.entries ++ [(c, _)]).Pairwise _
    apply List.pairwise_append.mpr
    refine ⟨h.distinct, List.pairwise_singleton _ _, ?_⟩
    intro entry hentry new hnew
    rw [List.mem_singleton.mp hnew]
    exact get?_eq_none_iff.mp hget entry hentry
  latest := by
    rw [latest?_keep result (by simpa using hget)]
    simp [Use.served?]

theorem Tally.step (h : Tally events cache) (hstep : Step cache use next) :
    Tally (events ++ [use]) next := by
  cases use with
  | getOrBuild c outcomes answer =>
      obtain ⟨kept, hget, rfl, rfl, rfl⟩ | ⟨result, hget, rfl, rfl, rfl⟩ |
        ⟨e, -, rfl, rfl, rfl⟩ := hstep.call_cases
      · exact h.hit hget
      · exact h.keep hget result
      · exact h.miss c e
  | _ =>
      rw [hstep.eq_of_lookup rfl]
      exact h.lookup rfl

theorem Used.tally (hrun : Used .empty events cache) : Tally events cache := by
  induction hrun with
  | refl => exact tally_empty
  | snoc _ hstep ih => exact ih.step hstep

/-- Entries stay, whatever comes after. -/
theorem Used.entries_prefix (hrun : Used cache events next) : cache.entries <+: next.entries := by
  induction hrun with
  | refl => exact List.prefix_refl _
  | snoc _ hstep ih => exact ih.trans hstep.entries_prefix

/-- The calls alone lead to the same cache. -/
theorem Used.calls (hrun : Used cache events next) : Used cache (calls events) next := by
  induction hrun with
  | refl => exact .refl _
  | @snoc events middle use next _ hstep ih =>
      cases huse : use.isCall with
      | false =>
          rw [hstep.eq_of_lookup huse]
          simpa [huse] using ih
      | true =>
          simpa [huse] using Used.snoc ih hstep

/-! ## Lookups -/

/-- Where at most one item passes, the items that pass are the first that does. -/
theorem filter_eq_toList_find? {β : Type} {p : β → Bool} {items : List β}
    (h : items.Pairwise fun a b => p a = true → p b = false) :
    items.filter p = (items.find? p).toList := by
  induction h with
  | nil => rfl
  | @cons item rest hitem _ ih =>
      by_cases hp : p item = true
      · have hrest : rest.filter p = [] :=
          List.filter_eq_nil_iff.mpr fun b hb => by simp [hitem b hb hp]
        rw [List.filter_cons_of_pos hp, List.find?_cons_of_pos hp, hrest]
        rfl
      · rw [List.filter_cons_of_neg hp, List.find?_cons_of_neg hp]
        exact ih

/-- The successful runs for a class are what a lookup finds, so there is at most one. -/
theorem Tally.successesFor_eq (h : Tally events cache) (c : Configuration) :
    successesFor c (builderRuns events) = (cache.get? c).toList := by
  have hone : cache.entries.Pairwise fun a b => a.1.same c = true → b.1.same c = false := by
    refine h.distinct.imp ?_
    intro a b hab ha
    by_contra hb
    -- Two entries that answer for `c` would be of one class.
    have hb : b.1.same c = true := by simpa using hb
    have hsame : a.1.same b.1 = true := Configuration.same_trans ha (Configuration.same_symm hb)
    simp [hsame] at hab
  unfold successesFor
  rw [← h.entries, filter_eq_toList_find? hone]
  unfold get?
  cases cache.entries.find? fun (other, _) => other.same c <;> rfl

theorem Tally.get?_of_mem (h : Tally events cache) {key : Configuration}
    (hentry : (key, kept) ∈ cache.entries) (hsame : key.same c = true) :
    cache.get? c = some kept := by
  have hmem : kept ∈ successesFor c (builderRuns events) := by
    unfold successesFor
    rw [← h.entries]
    exact List.mem_map.mpr ⟨(key, kept), List.mem_filter.mpr ⟨hentry, hsame⟩, rfl⟩
  rw [h.successesFor_eq c] at hmem
  simpa using hmem

/-- There is one entry for each class that has had a successful run. -/
theorem Tally.size_eq (h : Tally events cache) :
    cache.size = (builtClasses (builderRuns events)).card := by
  have hnodup : (cache.entries.map fun (key, _) => key.toClass).Nodup := by
    refine List.pairwise_map.mpr (h.distinct.imp ?_)
    intro a b hab hclass
    simp [Configuration.toClass_eq_iff.mp hclass] at hab
  unfold builtClasses
  rw [← h.entries, List.toFinset_card_of_nodup hnodup, List.length_map]
  rfl

/-- **What a cache answers is what its uses say.** After any uses of a new cache:

* the misses count the builder runs, and hits and misses together count the calls;
* there is one entry for each class that has had a successful run, and whatever comes after there
  are never fewer;
* a lookup finds the one successful run for the class of its configuration, and nothing if there is
  none; in particular it finds every entry of that class;
* the latest request is that of the last call that gave a result, with the very result it gave;
* a lookup changes nothing, so the calls alone would have led to the same cache. -/
theorem answers_of_uses (hrun : Used .empty events cache) :
    cache.stats.misses = (builderRuns events).length ∧
    cache.stats.hits + cache.stats.misses = (calls events).length ∧
    (cache.stats.entries = (builtClasses (builderRuns events)).card ∧
      ∀ (more : List (Use α ε)) later, Used cache more later →
        cache.stats.entries ≤ later.stats.entries) ∧
    ((∀ c, successesFor c (builderRuns events) = (cache.get? c).toList) ∧
      ∀ key kept, (key, kept) ∈ cache.entries → ∀ c, key.same c = true →
        cache.get? c = some kept) ∧
    cache.latest? = (served events).getLast? ∧
    (∀ (use : Use α ε) next, use.isCall = false → Step cache use next → next = cache) ∧
    Used .empty (calls events) cache := by
  have htally := hrun.tally
  refine ⟨htally.misses, htally.calls, ⟨htally.size_eq, ?_⟩, ⟨htally.successesFor_eq, ?_⟩,
    htally.latest, ?_, hrun.calls⟩
  · intro more later hmore
    exact hmore.entries_prefix.length_le
  · intro key kept hentry c hsame
    exact htally.get?_of_mem hentry hsame
  · intro use next huse hstep
    exact hstep.eq_of_lookup huse

/-- A configuration of one source path. -/
def askFor (path : String) : Configuration where
  sources := .ofPaths [⟨path⟩]
  references := []
  flags := []
  mode := .embed
  output := ⟨""⟩

/-- The first build of a class fails and the second succeeds; another class fails; and a call that
writes the path with a slash behind it is answered from the cache. -/
def fourCalls : List (Use String String) :=
  [.getOrBuild (askFor "a.src") [.error "no"] (.error "no"), .contains (askFor "a.src") false,
    .getOrBuild (askFor "a.src") [.ok "text"] (.ok ⟨2, "text"⟩),
    .getOrBuild (askFor "b.src") [.error "no"] (.error "no"), .stats ⟨1, 0, 3⟩,
    .getOrBuild (askFor "a.src/") [] (.ok ⟨2, "text"⟩)]

theorem answers_of_fourCalls :
    ∃ cache : ResultCache String, Used .empty fourCalls cache ∧
      cache.stats.misses = 3 ∧ cache.stats.hits + cache.stats.misses = 4 ∧
      (cache.get? (askFor "a.src//")).toList = [⟨2, "text"⟩] ∧
      cache.latest? = some (askFor "a.src/", ⟨2, "text"⟩) := by
  have hrun : ∃ cache : ResultCache String, Used .empty fourCalls cache := by
    refine ⟨_, .snoc (.snoc (.snoc (.snoc (.snoc (.snoc (.refl _)
      (.getOrBuild (.error "no") rfl)) (.contains _)) (.getOrBuild (.ok "text") rfl))
      (.getOrBuild (.error "no") rfl)) .stats) (.getOrBuild (.error "unused") rfl)⟩
  obtain ⟨cache, hrun⟩ := hrun
  obtain ⟨hmisses, hcalls, -, ⟨hone, -⟩, hlatest, -⟩ := answers_of_uses hrun
  refine ⟨cache, hrun, hmisses, hcalls, ?_, hlatest⟩
  rw [← hone]
  rfl

end ResultCache

end Expansion
