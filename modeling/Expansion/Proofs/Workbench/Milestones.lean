import Expansion.Proofs.Compiler.Milestones
import Expansion.Proofs.Workbench.Requests

/-!
# The standard events of a build

A log can be searched for the standard events, so it matters that a build logs the same ones whenever
it comes to the same end.

* **`milestones_of_build`**: an answer from the cache is one event. A build that is not answered
  begins with one, and with one it ends if it succeeds; between them stands the written output, if
  there is one. A fault of an expander is an event, and no other failure is.
* So a log tells by its last event how a build ended, and an output that it speaks of has been
  written.

The events are the workbench's own: the backend is `Unmarked`.
-/

namespace Expansion

namespace Workbench

variable {c : Compiler} {w : Workbench} {config : Configuration} {m m' : Machine}

/-! ## Up to the document -/

theorem surveySources_unmarked (hb : c.backend.Unmarked) (config : Configuration) :
    Act.Unmarked (surveySources c config) :=
  Act.unmarked_stepwise.surveySources Act.disk_unmarked (Compiler.compile_unmarked hb _ _ _ _)

/-- In a build that begins on this machine the sources are surveyed, and then an expander faults. -/
def ExpanderFaults (c : Compiler) (config : Configuration) (m : Machine) (fault : ExpansionFault) :
    Prop :=
  ∃ scratch s between, surveySources c config m = (.ok (scratch, s), between) ∧
    (s.expand between).1 = .error fault

/-- Calls of expanders are no standard events. -/
theorem fragments_unmarked (hb : c.backend.Unmarked) {scratch : Module} {s : Survey Machine}
    (h : surveySources c config m = (.ok (scratch, s), m')) :
    (s.expand m').2.milestones = m'.milestones := by
  obtain ⟨rfl, -⟩ := surveySources_ok h
  exact Act.unmarked_stepwise.fragments (surveySources_calls hb.behaves h) m'

/-- A document is made without standard events, unless an expander faults. -/
theorem expand_milestones (hb : c.backend.Unmarked) {scratch : Module} {s : Survey Machine}
    (h : surveySources c config m = (.ok (scratch, s), m')) :
    match expand s m' with
    | (.ok _, after) => (∀ fault, ¬ExpanderFaults c config m fault) ∧
        after.milestones = m'.milestones
    | (.error e, after) => ∃ fault, ExpanderFaults c config m fault ∧
        e = .expansion fault.expander fault.typeName fault.message ∧
        after.milestones = m'.milestones ++ [.expanderFailed] := by
  have hlogged := fragments_unmarked hb h
  unfold expand
  cases houtcome : s.expand m' with
  | mk outcome after =>
      rw [houtcome] at hlogged
      cases outcome with
      | ok fragments =>
          refine ⟨?_, hlogged⟩
          rintro fault ⟨scratch', s', between, hsurvey, hfault⟩
          cases h.symm.trans hsurvey
          rw [houtcome] at hfault
          cases hfault
      | error fault =>
          refine ⟨fault, ⟨scratch, s, m', h, by rw [houtcome]⟩, rfl, ?_⟩
          rw [← hlogged]
          exact Machine.milestones_log _ _ _ _ _ _

/-! ## The work of a build -/

theorem announceEmpty_milestones (document : String) (m : Machine) :
    (announceEmpty document m).milestones = m.milestones := by
  unfold announceEmpty
  split
  · exact (Machine.milestones_log _ _ _ _ _ _).trans (List.append_nil _)
  · rfl

/-- What follows the expansion in a build logs the delivery and the end, if there is one. -/
theorem conclude_milestones (hb : c.backend.Unmarked) (config : Configuration) (scratch : Module)
    (s : Survey Machine) (document : String) (m : Machine) :
    match conclude c config scratch s document m with
    | (.ok _, after) => after.milestones =
        m.milestones ++ Compiler.deliveryEvents config.mode ++ [.buildFinished]
    | (.error _, after) => after.milestones = m.milestones := by
  have hannounces := Compiler.deliver_announces hb config document scratch
  unfold conclude
  cases hdeliver : c.deliver config document scratch (announceEmpty document m) with
  | mk result after =>
      cases result with
      | ok r =>
          have hlogged := hannounces.ok hdeliver
          rw [announceEmpty_milestones] at hlogged
          rw [← hlogged]
          exact Machine.milestones_log _ _ _ _ _ _
      | error e => exact (hannounces.error hdeliver).trans (announceEmpty_milestones document m)

/-- The standard events of a build's work, behind the one that it begins with. -/
theorem work_milestones (hb : c.backend.Unmarked) (config : Configuration) (m : Machine) :
    match work c config m with
    | (.ok _, after) => (∀ fault, ¬ExpanderFaults c config (announceStart config m) fault) ∧
        after.milestones = m.milestones ++ [.buildStarted] ++
          Compiler.deliveryEvents config.mode ++ [.buildFinished]
    | (.error e, after) =>
        (∃ fault, ExpanderFaults c config (announceStart config m) fault ∧
          e = .expansion fault.expander fault.typeName fault.message ∧
          after.milestones = m.milestones ++ [.buildStarted] ++ [.expanderFailed]) ∨
        (∀ fault, ¬ExpanderFaults c config (announceStart config m) fault) ∧
          after.milestones = m.milestones ++ [.buildStarted] := by
  have hstart : (announceStart config m).milestones = m.milestones ++ [.buildStarted] :=
    Machine.milestones_log _ _ _ _ _ _
  have hunmarked := surveySources_unmarked hb config (announceStart config m)
  rw [work_apply]
  cases hsurvey : surveySources c config (announceStart config m) with
  | mk found m₁ =>
      rw [hsurvey, hstart] at hunmarked
      cases found with
      | error e =>
          refine .inr ⟨?_, hunmarked⟩
          rintro fault ⟨scratch, s, between, hfound, -⟩
          cases hsurvey.symm.trans hfound
      | ok found =>
          obtain ⟨scratch, s⟩ := found
          have hfragments := expand_milestones hb hsurvey
          dsimp only
          cases hexpand : expand s m₁ with
          | mk result m₂ =>
              rw [hexpand] at hfragments
              cases result with
              | error e =>
                  obtain ⟨fault, hfaults, he, hlogged⟩ := hfragments
                  exact .inl ⟨fault, hfaults, he, by rw [hlogged, hunmarked]⟩
              | ok fragments =>
                  obtain ⟨hnone, hlogged⟩ := hfragments
                  have hend := conclude_milestones hb config scratch s
                    (Document.ofFragments fragments) m₂
                  rw [hlogged, hunmarked] at hend
                  dsimp only
                  cases hconclude : conclude c config scratch s (Document.ofFragments fragments)
                      m₂ with
                  | mk result m₃ =>
                      rw [hconclude] at hend
                      cases result with
                      | ok r => exact ⟨hnone, hend⟩
                      | error e => exact .inr ⟨hnone, hend⟩

/-! ## A build -/

theorem build_of_hit (h : w.cache.contains config = true) (m : Machine) :
    (w.build config m).1.1.isOk = true ∧
      (w.build config m).2.milestones = m.milestones ++ [.cacheHit] := by
  obtain ⟨kept, hget⟩ := Option.isSome_iff_exists.mp h
  rw [build_of_some hget]
  exact ⟨rfl, Machine.milestones_log _ _ _ _ _ _⟩

/-- A build that is not answered from the cache logs what its work logs. -/
theorem build_of_miss (hb : w.compiler.backend.Unmarked) (h : w.cache.contains config = false)
    (m : Machine) :
    match (w.build config m).1.1 with
    | .ok _ => (∀ fault, ¬ExpanderFaults w.compiler config (begun config m) fault) ∧
        (w.build config m).2.milestones = m.milestones ++ [.buildStarted] ++
          Compiler.deliveryEvents config.mode ++ [.buildFinished]
    | .error e =>
        (∃ fault, ExpanderFaults w.compiler config (begun config m) fault ∧
          e = .expansion fault.expander fault.typeName fault.message ∧
          (w.build config m).2.milestones = m.milestones ++ [.buildStarted] ++ [.expanderFailed]) ∨
        (∀ fault, ¬ExpanderFaults w.compiler config (begun config m) fault) ∧
          (w.build config m).2.milestones = m.milestones ++ [.buildStarted] := by
  have hget : w.cache.get? config = none := by simpa [ResultCache.contains] using h
  have hwork := work_milestones hb config (inSpan config m)
  rw [build_of_none hget, run_apply]
  cases hresult : work w.compiler config (inSpan config m) with
  | mk result after =>
      rw [hresult] at hwork
      cases result with
      | ok r => exact hwork
      | error e => exact hwork

theorem ExpanderFaults.unique {fault other : ExpansionFault} (h : ExpanderFaults c config m fault)
    (h' : ExpanderFaults c config m other) : fault = other := by
  obtain ⟨scratch, s, between, hsurvey, hfault⟩ := h
  obtain ⟨scratch', s', between', hsurvey', hother⟩ := h'
  cases hsurvey.symm.trans hsurvey'
  cases hfault.symm.trans hother
  rfl

/-- **The standard events of a build**, in order, for every configuration, cache, disk and log, and
every backend that does not log standard events itself. An answer from the cache is one event. A
build that is not answered from the cache and succeeds logs its beginning and its end, and between
them the output that it has written, which is in all modes but `embed`. If it fails there is no end:
what follows the beginning is the fault of an expander, if that is why, and otherwise nothing. -/
theorem milestones_of_build (hb : w.compiler.backend.Unmarked) (config : Configuration)
    (m : Machine) :
    ∃ logged, (w.build config m).2.milestones = m.milestones ++ logged ∧
      (w.cache.contains config = true → logged = [.cacheHit]) ∧
      (w.cache.contains config = false →
        (∀ kept, (w.build config m).1.1 = .ok kept →
          (config.mode = .embed → logged = [.buildStarted, .buildFinished]) ∧
          (config.mode ≠ .embed → logged = [.buildStarted, .outputWritten, .buildFinished])) ∧
        (∀ fault, ExpanderFaults w.compiler config (begun config m) fault →
          (w.build config m).1.1 =
              .error (.expansion fault.expander fault.typeName fault.message) ∧
            logged = [.buildStarted, .expanderFailed]) ∧
        (∀ e, (w.build config m).1.1 = .error e →
          (∀ fault, ¬ExpanderFaults w.compiler config (begun config m) fault) →
          logged = [.buildStarted])) ∧
      (.buildFinished ∈ logged ↔
        w.cache.contains config = false ∧ (w.build config m).1.1.isOk = true) ∧
      ((w.build config m).1.1.isOk = false → .outputWritten ∉ logged) := by
  cases hcontains : w.cache.contains config with
  | true =>
      obtain ⟨hok, hlogged⟩ := build_of_hit hcontains m
      exact ⟨[.cacheHit], hlogged, by simp, by simp, by simp, by simp [hok]⟩
  | false =>
      have hmiss := build_of_miss hb hcontains m
      cases hresult : (w.build config m).1.1 with
      | ok kept =>
          rw [hresult] at hmiss
          obtain ⟨hnone, hlogged⟩ := hmiss
          rw [List.append_assoc, List.append_assoc] at hlogged
          refine ⟨_, hlogged, by simp, fun _ => ⟨?_, ?_, by simp⟩,
            by simp [Except.isOk, Except.toBool], by simp [Except.isOk, Except.toBool]⟩
          · intro _ _
            cases config.mode <;> simp [Compiler.deliveryEvents]
          · intro fault hfaults
            exact absurd hfaults (hnone fault)
      | error e =>
          rw [hresult] at hmiss
          rcases hmiss with ⟨fault, hfaults, rfl, hlogged⟩ | ⟨hnone, hlogged⟩
          · rw [List.append_assoc] at hlogged
            refine ⟨_, hlogged, by simp, fun _ => ⟨by simp, ?_, ?_⟩,
              by simp [Except.isOk, Except.toBool], by simp⟩
            · intro other hother
              obtain rfl := hfaults.unique hother
              exact ⟨rfl, rfl⟩
            · intro _ _ hnone
              exact absurd hfaults (hnone fault)
          · refine ⟨_, hlogged, by simp, fun _ => ⟨by simp, ?_, by simp⟩,
              by simp [Except.isOk, Except.toBool], by simp⟩
            intro fault hfaults
            exact absurd hfaults (hnone fault)

/-! ## The echo with a flag and without -/

/-- Without flags the echo's function gives up. -/
theorem echo_faults :
    let config := echoing [] .embed ⟨""⟩
    ∃ fault, ExpanderFaults askedBench.compiler config (begun config (.ofDisk scratchDisk))
      fault := by
  intro config
  have hsurvey : ∃ scratch s between, surveySources askedBench.compiler config
        (begun config (.ofDisk scratchDisk)) = (.ok (scratch, s), between) ∧
      (s.expand between).1.isOk = false := ⟨_, _, _, rfl, by decide +kernel⟩
  obtain ⟨scratch, s, between, hsurvey, hfails⟩ := hsurvey
  cases houtcome : (s.expand between).1 with
  | ok fragments =>
      rw [houtcome] at hfails
      cases hfails
  | error fault => exact ⟨fault, scratch, s, between, hsurvey, houtcome⟩

/-- With a flag the echo makes a module in memory, so nothing is written; without flags its function
gives up. -/
theorem milestones_of_echo :
    (askedBench.build (echoing ["a"] .embed ⟨""⟩) (.ofDisk scratchDisk)).2.milestones =
        [.buildStarted, .buildFinished] ∧
      (askedBench.build (echoing [] .embed ⟨""⟩) (.ofDisk scratchDisk)).2.milestones =
        [.buildStarted, .expanderFailed] := by
  refine ⟨?_, ?_⟩
  · obtain ⟨logged, hlogged, -, hmiss, -⟩ := milestones_of_build (w := askedBench) echo_unmarked
      (echoing ["a"] .embed ⟨""⟩) (.ofDisk scratchDisk)
    have hok : (askedBench.build (echoing ["a"] .embed ⟨""⟩) (.ofDisk scratchDisk)).1.1.isOk =
      true := by decide +kernel
    cases hresult : (askedBench.build (echoing ["a"] .embed ⟨""⟩) (.ofDisk scratchDisk)).1.1 with
    | ok kept =>
        rw [hlogged, ((hmiss rfl).1 kept hresult).1 rfl]
        rfl
    | error e =>
        rw [hresult] at hok
        cases hok
  · obtain ⟨logged, hlogged, -, hmiss, -⟩ := milestones_of_build (w := askedBench) echo_unmarked
      (echoing [] .embed ⟨""⟩) (.ofDisk scratchDisk)
    obtain ⟨fault, hfaults⟩ := echo_faults
    rw [hlogged, ((hmiss rfl).2.1 fault hfaults).2]
    rfl

end Workbench

end Expansion
