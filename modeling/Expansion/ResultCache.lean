import Expansion.Configuration

/-!
# Remembered results

A cache holds the result of one successful build for each class of configurations that ask for the
same (`Configuration.same`).

* **`getOrBuild`** answers from the cache if it can, and else runs the builder and keeps what it
  makes. A failed build leaves nothing behind but one more miss.
* Every builder run has a number, and a kept result carries the number of its run, so that two
  answers are the same result exactly when their numbers agree.
* `latest` is the configuration of the last call that gave a result. It is one of the class that the
  result was built for, and need not be spelled as the one that was built.
-/

namespace Expansion

/-- A result and the number of the builder run that made it. -/
structure Kept (α : Type) where
  run : Nat
  result : α

/-- The results of builds, by configuration. The tally of hits and misses has no bound: it is meant for
fewer than `2 ^ 64` calls, for which counters of sixty-four bits count the same. -/
structure ResultCache (α : Type) where
  entries : List (Configuration × Kept α)
  latestRequest : Option Configuration
  hits : Nat
  misses : Nat

/-- The sizes of a cache. Its tally has no bound either, and is meant for fewer than `2 ^ 64` calls. -/
structure ResultCache.Stats where
  entries : Nat
  hits : Nat
  misses : Nat
  deriving DecidableEq, Repr

namespace ResultCache

variable {α ε : Type} {m : Type → Type}

/-- The cache that remembers nothing. -/
def empty : ResultCache α := ⟨[], none, 0, 0⟩

instance : Inhabited (ResultCache α) := ⟨empty⟩

/-- The result that is kept for a configuration. -/
def get? (cache : ResultCache α) (c : Configuration) : Option (Kept α) :=
  (cache.entries.find? fun (other, _) => other.same c).map Prod.snd

/-- Whether a result is kept for a configuration. -/
def contains (cache : ResultCache α) (c : Configuration) : Bool := (cache.get? c).isSome

/-- The number of kept results. -/
def size (cache : ResultCache α) : Nat := cache.entries.length

/-- Whether no result is kept. -/
def isEmpty (cache : ResultCache α) : Bool := cache.entries.isEmpty

/-- The sizes of the cache. -/
def stats (cache : ResultCache α) : Stats := ⟨cache.size, cache.hits, cache.misses⟩

/-- The configuration that was served last, with its result. -/
def latest? (cache : ResultCache α) : Option (Configuration × Kept α) :=
  cache.latestRequest.bind fun c => (cache.get? c).map fun kept => (c, kept)

/-- The cache after it answered a call. -/
def hit (cache : ResultCache α) (c : Configuration) : ResultCache α :=
  { cache with hits := cache.hits + 1, latestRequest := some c }

/-- The cache after it had no answer. -/
def miss (cache : ResultCache α) : ResultCache α := { cache with misses := cache.misses + 1 }

/-- The cache with a result of the builder run that the last miss was for. -/
def keep (cache : ResultCache α) (c : Configuration) (result : α) : ResultCache α :=
  { cache with entries := cache.entries ++ [(c, ⟨cache.misses, result⟩)], latestRequest := some c }

/-- The kept result, or the one that the builder makes. -/
def getOrBuild [Monad m] (cache : ResultCache α) (c : Configuration)
    (build : m (Except ε α)) : m (Except ε (Kept α) × ResultCache α) :=
  match cache.get? c with
  | some kept => pure (.ok kept, cache.hit c)
  | none => do
    -- Every run of a builder is a miss, so the misses number the runs.
    match ← build with
    | .ok result => pure (.ok ⟨cache.miss.misses, result⟩, cache.miss.keep c result)
    | .error e => pure (.error e, cache.miss)

end ResultCache

end Expansion
