import Expansion.Proofs.Compiler.Delivery
import Expansion.Proofs.Workbench.Scan

/-!
# Generating and building

With a backend whose answers and functions depend on the disk alone, `generate` and a build that is
not answered from the cache take the same way up to the document (`work_of_generate_ok`), and fail
in the same way before it (`work_of_generate_error`). Behind the document only the delivery can
fail.

The build's log, requests and span are ahead of those of `generate` all the way, so the two never
run on one machine; what they share is the disk, and the backend sees no more.
-/

namespace Expansion.Workbench

variable {w : Workbench} {config : Configuration} {m n after : Machine}

/-! ## The common way -/

/-- What stops `generate` stops the work of a build, with the same disk. -/
theorem work_of_generate_error {e : Failure} (hblind : w.compiler.backend.Behaves Act.Blind)
    (hmn : m.disk = n.disk) (h : w.generate config m = (.error e, after)) :
    ∃ after', work w.compiler config n = (.error e, after') ∧ after'.disk = after.disk := by
  have hsources := Act.blind_compositional.surveySources hblind config
  rcases Act.bind_error h with hsurvey | ⟨⟨scratch, s⟩, scanned, hsurvey, hrest⟩
  · obtain ⟨after', hsurvey', hdisk⟩ := hsources.transfer (n := announceStart config n) hmn hsurvey
    exact ⟨after', by rw [work_apply, hsurvey'], hdisk⟩
  · obtain ⟨scanned', hsurvey', hdisk⟩ :=
      hsources.transfer (n := announceStart config n) hmn hsurvey
    obtain ⟨rfl, -⟩ := surveySources_ok hsurvey
    have hexpander := Act.blind_compositional.routine.expand (surveySources_calls hblind hsurvey)
    rcases Act.bind_error hrest with hexpand | ⟨_, _, -, hpure⟩
    · obtain ⟨after', hexpand', hdisk'⟩ := hexpander.transfer hdisk.symm hexpand
      refine ⟨after', ?_, hdisk'⟩
      rw [work_apply, hsurvey']
      dsimp only
      rw [hexpand']
    · cases hpure

/-- Where `generate` has made a text, the work of a build goes on to deliver it. -/
theorem work_of_generate_ok {text : String} (hblind : w.compiler.backend.Behaves Act.Blind)
    (hmn : m.disk = n.disk) (h : w.generate config m = (.ok text, after)) :
    ∃ scratch scanned expanded,
      surveySources w.compiler config m = (.ok (scratch, Survey.ofModule scratch), scanned) ∧
      expanded.disk = after.disk ∧
      work w.compiler config n =
        conclude w.compiler config scratch (Survey.ofModule scratch) text expanded := by
  have hsources := Act.blind_compositional.surveySources hblind config
  obtain ⟨⟨scratch, s⟩, scanned, hsurvey, hrest⟩ := Act.bind_ok h
  obtain ⟨scanned', hsurvey', hdisk⟩ := hsources.transfer (n := announceStart config n) hmn hsurvey
  obtain ⟨rfl, -⟩ := surveySources_ok hsurvey
  have hexpander := Act.blind_compositional.routine.expand (surveySources_calls hblind hsurvey)
  obtain ⟨fragments, expanded, hexpand, hpure⟩ := Act.bind_ok hrest
  obtain ⟨expanded', hexpand', hdisk'⟩ := hexpander.transfer hdisk.symm hexpand
  cases hpure
  refine ⟨scratch, scanned, expanded', hsurvey, hdisk', ?_⟩
  rw [work_apply, hsurvey']
  dsimp only
  rw [hexpand']

/-! ## Behind the document -/

/-- How a build ends that has made a document: with its result, or with a fault of the delivery. -/
theorem conclude_cases (c : Compiler) (config : Configuration) (scratch : Module)
    (s : Survey Machine) (text : String) (m : Machine) :
    (∃ r after, conclude c config scratch s text m = (.ok r, after) ∧
      r.generated = text ∧ r.scratch = scratch) ∨
    (∃ e after, conclude c config scratch s text m = (.error e, after) ∧
      c.deliver config text scratch (announceEmpty text m) = (.error e, after)) := by
  unfold conclude
  cases hdeliver : c.deliver config text scratch (announceEmpty text m) with
  | mk r after =>
    cases r with
    | ok r =>
        obtain ⟨hscratch, hgenerated, -⟩ := Compiler.deliver_ok hdeliver
        exact .inl ⟨r, announceFinish s r after, rfl, hgenerated, hscratch⟩
    | error e => exact .inr ⟨e, after, rfl, rfl⟩

/-- A build that is not answered from the cache and whose work fails. -/
theorem build_of_work_error {e : Failure} (hget : w.cache.get? config = none)
    (hwork : work w.compiler config (inSpan config m) = (.error e, after)) :
    w.build config m =
      ((.error e, { w with cache := w.cache.miss }), { after with spans := m.spans }) := by
  rw [build_of_none hget, run_apply, hwork]

/-- A build that is not answered from the cache and whose work succeeds. -/
theorem build_of_work_ok {r : BuildResult} (hget : w.cache.get? config = none)
    (hwork : work w.compiler config (inSpan config m) = (.ok r, after)) :
    w.build config m =
      ((.ok ⟨w.cache.miss.misses, r⟩, { w with cache := w.cache.miss.keep config r }),
        { after with spans := m.spans }) := by
  rw [build_of_none hget, run_apply, hwork]

/-- Where `generate` makes a text and the output path can be written, a build in `source` mode
writes the text there. -/
theorem build_source {text : String} {d d' : Disk} (hget : w.cache.get? config = none)
    (hblind : w.compiler.backend.Behaves Act.Blind) (hmode : config.mode = .source)
    (hgenerate : w.generate config m = (.ok text, after))
    (hparent : after.disk.makeParent config.output = .ok d)
    (hwrite : d.writeFile config.output text.toUTF8 = .ok d') :
    ∃ r, r.generated = text ∧ (w.build config m).1 =
        (.ok ⟨w.cache.miss.misses, r⟩, { w with cache := w.cache.miss.keep config r }) ∧
      (w.build config m).2.disk = d' := by
  obtain ⟨scratch, scanned, expanded, -, hdisk, hwork⟩ :=
    work_of_generate_ok (m := m) (n := inSpan config m) hblind rfl hgenerate
  have hstart : (announceEmpty text expanded).disk.makeParent config.output = .ok d := by
    rw [announceEmpty_disk, hdisk, hparent]
  obtain ⟨n, hdeliver, hn⟩ := Compiler.deliver_of_source w.compiler scratch hmode hstart hwrite
  have hend : conclude w.compiler config scratch (Survey.ofModule scratch) text expanded =
      (.ok ⟨none, scratch, text⟩,
        announceFinish (Survey.ofModule scratch) ⟨none, scratch, text⟩ n) := by
    unfold conclude
    rw [hdeliver]
  refine ⟨⟨none, scratch, text⟩, rfl, ?_, ?_⟩
  · rw [build_of_work_ok hget (hwork.trans hend)]
  · rw [build_of_work_ok hget (hwork.trans hend)]
    exact hn

/-- **Generating and building agree.** Take a backend whose answers in memory, and the functions of
the modules it answers, depend on the disk alone, and a configuration that has no result yet. Where
`generate` fails, the build fails in the same way, keeps nothing, and leaves the same disk; what the
backend keeps true of the disk, such as what is at the output path, is still true. Where `generate`
makes a text, the build hands out this text with the module that was surveyed, or it keeps nothing
and fails with a fault of the delivery, which starts from the disk that `generate` leaves. -/
theorem build_agrees_with_generate (hget : w.cache.get? config = none)
    (hblind : w.compiler.backend.Behaves Act.Blind) (m : Machine) :
    (∀ e after, w.generate config m = (.error e, after) →
      (w.build config m).1 = (.error e, { w with cache := w.cache.miss }) ∧
      (w.build config m).2.disk = after.disk ∧
      ∀ P : Disk → Prop, w.compiler.backend.Behaves (Act.Preserves P) → P m.disk →
        P (w.build config m).2.disk) ∧
    (∀ text after, w.generate config m = (.ok text, after) →
      ∃ scratch scanned,
        surveySources w.compiler config m = (.ok (scratch, Survey.ofModule scratch), scanned) ∧
        ((∃ kept, (w.build config m).1 =
            (.ok kept, { w with cache := w.cache.miss.keep config kept.result }) ∧
          kept.result.generated = text ∧ kept.result.scratch = scratch) ∨
        (∃ e start stop, (w.build config m).1 = (.error e, { w with cache := w.cache.miss }) ∧
          start.disk = after.disk ∧
          w.compiler.deliver config text scratch start = (.error e, stop) ∧
          Compiler.DeliveryFault w.compiler config text e))) := by
  refine ⟨?_, ?_⟩
  · intro e after hgenerate
    obtain ⟨after', hwork, hdisk⟩ :=
      work_of_generate_error (m := m) (n := inSpan config m) hblind rfl hgenerate
    rw [build_of_work_error hget hwork]
    refine ⟨rfl, hdisk, ?_⟩
    intro P hP hm
    have hkept := (Act.preserves_compositional P).generate hP config m hm
    rw [hgenerate] at hkept
    show P after'.disk
    rw [hdisk]
    exact hkept
  · intro text after hgenerate
    obtain ⟨scratch, scanned, expanded, hsurvey, hdisk, hwork⟩ :=
      work_of_generate_ok (m := m) (n := inSpan config m) hblind rfl hgenerate
    refine ⟨scratch, scanned, hsurvey, ?_⟩
    rcases conclude_cases w.compiler config scratch (Survey.ofModule scratch) text expanded with
      ⟨r, after', hend, hgenerated, hscratch⟩ | ⟨e, after', hend, hdeliver⟩
    · rw [build_of_work_ok hget (hwork.trans hend)]
      exact .inl ⟨_, rfl, hgenerated, hscratch⟩
    · rw [build_of_work_error hget (hwork.trans hend)]
      refine .inr ⟨e, announceEmpty text expanded, after', rfl, ?_, hdeliver,
        Compiler.deliver_error hdeliver⟩
      rw [announceEmpty_disk, hdisk]

/-- Without flags the echo's function gives up, in a build as in `generate`, and the disk stays as
it was; with a blank flag there is an empty text to deliver. -/
theorem build_agrees_for_echo :
    let w := ofCompiler ⟨echoBackend, [], .standard⟩
    let m := Machine.ofDisk ⟨[], [], ⟨"/tmp"⟩⟩
    (∃ e after, w.generate (echoing [] .embed ⟨""⟩) m = (.error e, after) ∧
      (w.build (echoing [] .embed ⟨""⟩) m).1.1 = .error e ∧
      (w.build (echoing [] .embed ⟨""⟩) m).2.disk = m.disk) ∧
    ∃ kept, (w.build (echoing [" "] .embed ⟨""⟩) m).1.1 = .ok kept ∧
      kept.result.generated = "" := by
  intro w m
  have hblind : w.compiler.backend.Behaves Act.Blind := echo_behaves Act.blind_compositional
  have hnone : ∀ config, w.cache.get? config = none := fun _ => rfl
  refine ⟨?_, ?_⟩
  · have hfails : (w.generate (echoing [] .embed ⟨""⟩) m).1.isOk = false := by decide +kernel
    cases hgenerate : w.generate (echoing [] .embed ⟨""⟩) m with
    | mk text after =>
      cases text with
      | ok text => exact absurd (hgenerate ▸ hfails) (by simp [Except.isOk, Except.toBool])
      | error e =>
          obtain ⟨hbuild, -, hkeeps⟩ :=
            (build_agrees_with_generate (hnone (echoing [] .embed ⟨""⟩)) hblind m).1 e after
              hgenerate
          exact ⟨e, after, rfl, congrArg Prod.fst hbuild,
            hkeeps (· = m.disk) (echo_behaves (Act.preserves_compositional _)) rfl⟩
  · have htext : (w.generate (echoing [" "] .embed ⟨""⟩) m).1.toOption = some "" := by
      decide +kernel
    have hbuilds : (w.build (echoing [" "] .embed ⟨""⟩) m).1.1.isOk = true := by decide +kernel
    cases hgenerate : w.generate (echoing [" "] .embed ⟨""⟩) m with
    | mk text after =>
      rw [hgenerate] at htext
      cases text with
      | error e => simp [Except.toOption] at htext
      | ok text =>
          obtain rfl : text = "" := Option.some.inj htext
          obtain ⟨scratch, scanned, -, hend⟩ :=
            (build_agrees_with_generate (hnone (echoing [" "] .embed ⟨""⟩)) hblind m).2 "" after
              hgenerate
          rcases hend with ⟨kept, hbuild, hgenerated, -⟩ | ⟨e, _, _, hbuild, -⟩
          · exact ⟨kept, congrArg Prod.fst hbuild, hgenerated⟩
          · rw [hbuild] at hbuilds
            simp [Except.isOk, Except.toBool] at hbuilds

end Expansion.Workbench
