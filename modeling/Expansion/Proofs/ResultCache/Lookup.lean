import Expansion.ResultCache

/-!
# Looking up results

What the operations of a cache do to its lookups.

* **`Configuration.same` is an equivalence**, so a lookup depends on the class of a configuration
  only (`get?_congr`).
* **`keep` and `hit` are two writes each**: one of the entries or counters, and one of the latest
  request (`keep_eq`, `hit_eq`). Between the two nobody else sees the cache, but a proof may.
* An entry that is put in answers for its class, unless the class had an answer before
  (`get?_insert`).
* **`getOrBuild` runs its builder exactly where nothing is found** (`getOrBuild_of_some`,
  `getOrBuild_of_none`), whatever kind of program the builder is.
-/

namespace Expansion

namespace Configuration

theorem same_iff {c d : Configuration} :
    c.same d = true ↔
      c.sources.form = d.sources.form ∧
      c.sources.paths.map FilePath.components = d.sources.paths.map FilePath.components ∧
      c.sources.references.map FilePath.components =
        d.sources.references.map FilePath.components ∧
      c.references.map FilePath.components = d.references.map FilePath.components ∧
      c.flags = d.flags ∧ c.mode = d.mode ∧
      c.output.components = d.output.components := by
  simp only [same, Sources.same, Sources.same.samePaths, FilePath.same, Bool.and_eq_true,
    beq_iff_eq, and_assoc]

theorem same_refl (c : Configuration) : c.same c = true := by
  rw [same_iff]
  exact ⟨rfl, rfl, rfl, rfl, rfl, rfl, rfl⟩

theorem same_symm {c d : Configuration} (h : c.same d = true) : d.same c = true := by
  rw [same_iff] at *
  obtain ⟨form, paths, brought, references, flags, mode, output⟩ := h
  exact ⟨form.symm, paths.symm, brought.symm, references.symm, flags.symm, mode.symm, output.symm⟩

theorem same_trans {c d e : Configuration} (first : c.same d = true) (second : d.same e = true) :
    c.same e = true := by
  rw [same_iff] at *
  obtain ⟨f₁, p₁, b₁, r₁, l₁, m₁, o₁⟩ := first
  obtain ⟨f₂, p₂, b₂, r₂, l₂, m₂, o₂⟩ := second
  exact ⟨f₁.trans f₂, p₁.trans p₂, b₁.trans b₂, r₁.trans r₂, l₁.trans l₂, m₁.trans m₂,
    o₁.trans o₂⟩

/-- Configurations of one class are the same as the same configurations. -/
theorem same_congr {c d : Configuration} (h : c.same d = true) (e : Configuration) :
    e.same c = e.same d := by
  rw [Bool.eq_iff_iff]
  exact ⟨fun hc => same_trans hc h, fun hd => same_trans hd (same_symm h)⟩

/-- A class has one output mode. -/
theorem same_mode {c d : Configuration} (h : c.same d = true) : c.mode = d.mode :=
  (same_iff.mp h).2.2.2.2.2.1

/-- A class has one output path, up to the way in which it is written. -/
theorem same_output {c d : Configuration} (h : c.same d = true) : c.output.same d.output = true :=
  beq_iff_eq.mpr (same_iff.mp h).2.2.2.2.2.2

end Configuration

namespace ResultCache

variable {α ε : Type} {m : Type → Type} [Monad m]

/-- The cache with one more entry. -/
def insert (cache : ResultCache α) (c : Configuration) (kept : Kept α) : ResultCache α :=
  { cache with entries := cache.entries ++ [(c, kept)] }

/-- The cache with one more answered call on its counter. -/
def countHit (cache : ResultCache α) : ResultCache α := { cache with hits := cache.hits + 1 }

/-- The cache with another latest request. -/
def note (cache : ResultCache α) (c : Configuration) : ResultCache α :=
  { cache with latestRequest := some c }

theorem hit_eq (cache : ResultCache α) (c : Configuration) :
    cache.hit c = cache.countHit.note c := rfl

theorem keep_eq (cache : ResultCache α) (c : Configuration) (result : α) :
    cache.keep c result = (cache.insert c ⟨cache.misses, result⟩).note c := rfl

/-! ## Lookups -/

theorem get?_congr (cache : ResultCache α) {c d : Configuration} (h : c.same d = true) :
    cache.get? c = cache.get? d := by
  simp only [get?, Configuration.same_congr h]

/-- A result that is found belongs to an entry of the class. -/
theorem get?_some {cache : ResultCache α} {c : Configuration} {kept : Kept α}
    (h : cache.get? c = some kept) :
    ∃ key, (key, kept) ∈ cache.entries ∧ key.same c = true := by
  obtain ⟨⟨key, found⟩, hfind, hkept⟩ := Option.map_eq_some_iff.mp h
  subst hkept
  have hsame := List.find?_some hfind
  exact ⟨key, List.mem_of_find?_eq_some hfind, hsame⟩

/-- Nothing is found where no entry is of the class. -/
theorem get?_eq_none_iff {cache : ResultCache α} {c : Configuration} :
    cache.get? c = none ↔ ∀ entry ∈ cache.entries, entry.1.same c = false := by
  simp only [get?, Option.map_eq_none_iff, List.find?_eq_none, Bool.not_eq_true]

@[simp] theorem get?_note (cache : ResultCache α) (c d : Configuration) :
    (cache.note c).get? d = cache.get? d := rfl

@[simp] theorem get?_miss (cache : ResultCache α) (d : Configuration) :
    cache.miss.get? d = cache.get? d := rfl

@[simp] theorem get?_hit (cache : ResultCache α) (c d : Configuration) :
    (cache.hit c).get? d = cache.get? d := rfl

theorem get?_insert (cache : ResultCache α) (c d : Configuration) (kept : Kept α) :
    (cache.insert c kept).get? d =
      (cache.get? d).or (if c.same d then some kept else none) := by
  simp only [get?, insert, List.find?_append, Option.map_or, List.find?_singleton]
  by_cases h : c.same d = true <;> simp [h]

/-- A new result answers for its class, unless the class had an answer. -/
theorem get?_keep (cache : ResultCache α) (c d : Configuration) (result : α) :
    (cache.keep c result).get? d =
      (cache.get? d).or (if c.same d then some ⟨cache.misses, result⟩ else none) := by
  rw [keep_eq, get?_note, get?_insert]

/-- An entry answers for its class at once, if the class had no answer. -/
theorem get?_insert_self (cache : ResultCache α) (c : Configuration) (kept : Kept α)
    (h : cache.get? c = none) : (cache.insert c kept).get? c = some kept := by
  rw [get?_insert, h, if_pos (Configuration.same_refl c), Option.none_or]

/-- What a class has been answered stays. -/
theorem get?_insert_of_some {cache : ResultCache α} {d : Configuration} {kept : Kept α}
    (h : cache.get? d = some kept) (c : Configuration) (other : Kept α) :
    (cache.insert c other).get? d = some kept := by
  rw [get?_insert, h, Option.some_or]

/-! ## The latest request -/

theorem latest?_hit {cache : ResultCache α} {c : Configuration} {kept : Kept α}
    (h : cache.get? c = some kept) : (cache.hit c).latest? = some (c, kept) := by
  show ((cache.hit c).get? c).map _ = _
  rw [get?_hit, h]
  rfl

theorem latest?_keep {cache : ResultCache α} {c : Configuration} (result : α)
    (h : cache.get? c = none) :
    (cache.keep c result).latest? = some (c, ⟨cache.misses, result⟩) := by
  show ((cache.keep c result).get? c).map _ = _
  rw [keep_eq, get?_note, get?_insert_self cache c _ h]
  rfl

/-! ## Calls -/

theorem getOrBuild_of_some {cache : ResultCache α} {c : Configuration} {kept : Kept α}
    (h : cache.get? c = some kept) (build : m (Except ε α)) :
    cache.getOrBuild c build = pure (.ok kept, cache.hit c) := by
  simp only [getOrBuild, h]

theorem getOrBuild_of_none {cache : ResultCache α} {c : Configuration}
    (h : cache.get? c = none) (build : m (Except ε α)) :
    cache.getOrBuild c build = build >>= fun
      | .ok result => pure (.ok ⟨cache.miss.misses, result⟩, cache.miss.keep c result)
      | .error e => pure (.error e, cache.miss) := by
  unfold getOrBuild
  generalize cache.get? c = found at h ⊢
  subst h
  rfl

end ResultCache

end Expansion
