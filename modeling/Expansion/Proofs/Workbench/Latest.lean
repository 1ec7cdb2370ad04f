import Expansion.Proofs.Compiler.Compile
import Expansion.Proofs.Compiler.Delivery
import Expansion.Proofs.Workbench.Steps

/-!
# The module of the latest build

What calls in any order, with a compiler and files that change between them, make of a workbench.

* **A kept result fits the mode that it was built for**, so under `embed` there is always a final
  module to load.
* **The latest result is the one that was handed out last** (`Reached.latest?_eq`), whether it was
  built or kept. Calls that fail, and calls that build nothing, do not touch it.
-/

namespace Expansion.Workbench

/-- What a call of `build` hands out: nothing when it fails. -/
def handedOut (config : Configuration) :
    Except Failure (Kept BuildResult) → List (Configuration × Kept BuildResult)
  | .ok kept => [(config, kept)]
  | .error _ => []

/-- The workbenches and machines that calls can lead to, with what the calls of `build` have handed
out. Between two calls the files may change, and the compiler may answer differently from then
on. -/
inductive Reached :
    List (Configuration × Kept BuildResult) → Workbench → Machine → Prop
  | fresh (c : Compiler) (m : Machine) : Reached [] (ofCompiler c) m
  | build {served w m} (config : Configuration) : Reached served w m →
      Reached (served ++ handedOut config (w.build config m).1.1) (w.build config m).1.2
        (w.build config m).2
  | generate {served w m} (config : Configuration) : Reached served w m →
      Reached served w (w.generate config m).2
  | survey {served w m} (config : Configuration) : Reached served w m →
      Reached served w (w.survey config m).2
  | outside {served w m} (c : Compiler) (m' : Machine) : Reached served w m →
      Reached served { w with compiler := c } m'

variable {w : Workbench} {m : Machine} {config : Configuration}
variable {served : List (Configuration × Kept BuildResult)}

/-! ## One build -/

/-- A build that is not answered from the cache makes what its mode asks for. -/
theorem run_fits {c : Compiler} {m' : Machine} {r : BuildResult}
    (h : run c config m = (.ok r, m')) : r.Fits config.mode := by
  rw [run_apply] at h
  obtain ⟨hr, -⟩ := Prod.mk.inj h
  obtain ⟨_, _, _, _, _, _, -, -, hdeliver, -⟩ := work_ok (Prod.ext hr rfl)
  exact (Compiler.deliver_ok hdeliver).2.2

/-- What a cache holds when all of its results come from builds. -/
structure Sound (cache : ResultCache BuildResult) : Prop where
  fits : ∀ key kept, (key, kept) ∈ cache.entries → kept.result.Fits key.mode
  latest : ∀ c, cache.latestRequest = some c → (cache.get? c).isSome = true

theorem Sound.empty : Sound .empty where
  fits := by simp [ResultCache.empty]
  latest := by simp [ResultCache.empty]

theorem Sound.hit {cache : ResultCache BuildResult} {kept : Kept BuildResult} (h : Sound cache)
    (hget : cache.get? config = some kept) : Sound (cache.hit config) where
  fits := h.fits
  latest := by
    intro c hc
    obtain rfl : config = c := Option.some.inj hc
    rw [ResultCache.get?_hit, hget]
    rfl

theorem Sound.miss {cache : ResultCache BuildResult} (h : Sound cache) : Sound cache.miss where
  fits := h.fits
  latest := h.latest

theorem Sound.keep {cache : ResultCache BuildResult} {r : BuildResult} (h : Sound cache)
    (hget : cache.get? config = none) (hr : r.Fits config.mode) :
    Sound (cache.keep config r) where
  fits := by
    intro key kept hentry
    rcases List.mem_append.mp hentry with hold | hnew
    · exact h.fits key kept hold
    · rw [List.mem_singleton] at hnew
      cases hnew
      exact hr
  latest := by
    intro c hc
    obtain rfl : config = c := Option.some.inj hc
    rw [ResultCache.keep_eq, ResultCache.get?_note, ResultCache.get?_insert_self _ _ _ hget]
    rfl

/-- A result that is found fits the mode that was asked for. -/
theorem Sound.get?_fits {cache : ResultCache BuildResult} {kept : Kept BuildResult}
    (h : Sound cache) (hget : cache.get? config = some kept) : kept.result.Fits config.mode := by
  obtain ⟨key, hentry, hsame⟩ := ResultCache.get?_some hget
  rw [← Configuration.same_mode hsame]
  exact h.fits key kept hentry

/-- The latest result fits the mode that was asked for. -/
theorem Sound.latest?_fits {cache : ResultCache BuildResult} {kept : Kept BuildResult}
    (h : Sound cache) (hlatest : cache.latest? = some (config, kept)) :
    kept.result.Fits config.mode := by
  obtain ⟨c, -, hc⟩ := Option.bind_eq_some_iff.mp hlatest
  obtain ⟨found, hget, hpair⟩ := Option.map_eq_some_iff.mp hc
  cases hpair
  exact h.get?_fits hget

/-! ## Every run -/

theorem Sound.build (h : Sound w.cache) : Sound (w.build config m).1.2.cache := by
  cases hget : w.cache.get? config with
  | some kept =>
      rw [build_of_some hget]
      exact h.hit hget
  | none =>
      rw [build_of_none hget]
      split
      · rename_i r after hrun
        exact h.miss.keep hget (run_fits hrun)
      · exact h.miss

theorem Reached.sound (h : Reached served w m) : Sound w.cache := by
  induction h with
  | fresh c m => exact Sound.empty
  | build config _ ih => exact ih.build
  | generate config _ ih => exact ih
  | survey config _ ih => exact ih
  | outside c m' _ ih => exact ih

/-- The latest result is the one that was handed out last. -/
theorem Reached.latest?_eq (h : Reached served w m) : w.cache.latest? = served.getLast? := by
  induction h with
  | fresh c m => rfl
  | @build served w m config _ ih =>
      cases hget : w.cache.get? config with
      | some kept =>
          rw [build_of_some hget]
          simp only [handedOut, List.getLast?_concat]
          exact ResultCache.latest?_hit hget
      | none =>
          rw [build_of_none hget]
          split
          · rename_i r after hrun
            simp only [handedOut, List.getLast?_concat]
            exact ResultCache.latest?_keep r hget
          · rename_i e after hrun
            simp only [handedOut, List.append_nil]
            exact ih
  | generate config _ ih => exact ih
  | survey config _ ih => exact ih
  | outside c m' _ ih => exact ih

/-- **The latest module.** Whatever calls led here: a kept result has a final module exactly if it
was built under `embed`; the latest request has a result; and the image to load is that of the
result which a call of `build` handed out last, the final module under `embed` and the scratch
module otherwise, with none before the first. -/
theorem latest_image_of_reached (h : Reached served w m) :
    (∀ key kept, (key, kept) ∈ w.cache.entries →
      (kept.result.final?.isSome = true ↔ key.mode = .embed)) ∧
    (∀ c, w.cache.latestRequest = some c →
      ∃ key kept, (key, kept) ∈ w.cache.entries ∧ key.same c = true) ∧
    (w.latestImage? = none ↔ served = []) ∧
    ∀ config kept, served.getLast? = some (config, kept) →
      (config.mode = .embed →
        ∃ final, kept.result.final? = some final ∧ w.latestImage? = some final.image) ∧
      (config.mode ≠ .embed → w.latestImage? = some kept.result.scratch.image) := by
  have hsound := h.sound
  have hlatest := h.latest?_eq
  refine ⟨hsound.fits, ?_, ?_, ?_⟩
  · intro c hc
    obtain ⟨kept, hget⟩ := Option.isSome_iff_exists.mp (hsound.latest c hc)
    obtain ⟨key, hentry, hsame⟩ := ResultCache.get?_some hget
    exact ⟨key, kept, hentry, hsame⟩
  · unfold latestImage?
    rw [hlatest, Option.map_eq_none_iff, List.getLast?_eq_none_iff]
  · intro config kept hlast
    rw [hlast] at hlatest
    have himage : w.latestImage? = some (kept.result.hostModule config.mode).image := by
      unfold latestImage?
      rw [hlatest]
      rfl
    have hfits := hsound.latest?_fits hlatest
    refine ⟨?_, ?_⟩
    · intro hembed
      rw [hembed] at hfits himage
      obtain ⟨final, hfinal, hhost⟩ := hfits.hostModule_embed
      exact ⟨final, hfinal, by rw [himage, hhost]⟩
    · intro hother
      rw [himage, BuildResult.hostModule_of_ne_embed _ hother]

/-- A build that succeeds and then one that fails: the image is still that of the first. -/
theorem latest_image_after_failure :
    ∃ kept w m, Reached [(echoing [" "] .embed ⟨""⟩, kept)] w m ∧ w.cache.misses = 2 ∧
      ∃ final, kept.result.final? = some final ∧ w.latestImage? = some final.image := by
  let bench : Workbench := ofCompiler ⟨echoBackend, [], .standard⟩
  let first := bench.build (echoing [" "] .embed ⟨""⟩) (.ofDisk ⟨[], [], ⟨"/tmp"⟩⟩)
  let second := first.1.2.build (echoing [] .embed ⟨""⟩) first.2
  have hfirst : first.1.1.isOk = true := by decide +kernel
  have hsecond : second.1.1.isOk = false := by decide +kernel
  have hreached := ((Reached.fresh ⟨echoBackend, [], .standard⟩ (.ofDisk ⟨[], [], ⟨"/tmp"⟩⟩)).build
    (echoing [" "] .embed ⟨""⟩)).build (echoing [] .embed ⟨""⟩)
  cases hresult : first.1.1 with
  | error e => rw [hresult] at hfirst; exact absurd hfirst (by simp [Except.isOk, Except.toBool])
  | ok kept =>
    cases hfailed : second.1.1 with
    | ok other =>
      rw [hfailed] at hsecond
      exact absurd hsecond (by simp [Except.isOk, Except.toBool])
    | error e =>
      have hserved : [] ++ handedOut (echoing [" "] .embed ⟨""⟩) first.1.1 ++
          handedOut (echoing [] .embed ⟨""⟩) second.1.1 = [(echoing [" "] .embed ⟨""⟩, kept)] := by
        rw [hresult, hfailed]
        rfl
      have hlast : Reached [(echoing [" "] .embed ⟨""⟩, kept)] second.1.2 second.2 :=
        hserved ▸ hreached
      exact ⟨kept, _, _, hlast, by decide +kernel,
        ((latest_image_of_reached hlast).2.2.2 _ _ rfl).1 rfl⟩

end Expansion.Workbench
