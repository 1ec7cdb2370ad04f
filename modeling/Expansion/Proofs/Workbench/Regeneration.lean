import Expansion.Proofs.Disk.Descent
import Expansion.Proofs.Sources.Resolve
import Expansion.Proofs.Workbench.Outputs
import Expansion.Proofs.Workbench.Traces

/-!
# Regeneration

A project may list the file that it generates, if the file is excluded. Its first run changes the
disk that its second run resolves against, so it has to be shown that the second run sees the same
sources (`Sources.resolve_again`), that a backend which looks at nothing but its files
(`Backend.Determined`) answers the same, and that the output can be written again
(`Disk.makeParent_again`, `Disk.writeFile_again`).

**A second run repeats the first exactly if the first did not write over one of its own sources**
(`regenerates_iff`). It may have done so: the excluded file is told by where its path leads, and a
path that goes up again from a missing directory leads nowhere until the run makes that directory
(`not_regenerates_of_overwritten`).
-/

namespace Expansion

open Disk

/-- A backend that looks at the request and at what the files hold that the request names, and at
nothing else; the functions of its modules do not even look at these. -/
structure Backend.Determined (b : Backend) : Prop where
  memory : ∀ request m n, request.target = .memory →
    (∀ p ∈ request.sources ++ request.references, m.disk.content? p = n.disk.content? p) →
    (b request m).1 = (b request n).1
  calls : ∀ request m output after module, b request m = (.ok output, after) →
    output.module? = some module → ∀ f ∈ module.functions, ∀ values, Act.Constant (f.2 values)

theorem Sources.missing_eq_nil_iff {s : Sources} {d : Disk} :
    s.missing d = [] ↔ ∀ p ∈ s.paths, d.isFile p = true := by
  simp [missing, List.filter_eq_nil_iff]

namespace Workbench

variable {c : Compiler} {config : Configuration} {m m' n m₁ m₂ : Machine}
variable {scratch : Module} {s : Survey Machine} {fragments : List String}

/-! ## The same document -/

/-- Where the files of a request hold the same, its sources are surveyed with the same outcome. -/
theorem surveySources_congr (hb : c.backend.Determined) (hm : config.sources.missing m.disk = [])
    (hn : config.sources.missing n.disk = [])
    (hfiles : ∀ p ∈ config.sources.paths ++ Compiler.mergeReferences c.baseline config.references,
      m.disk.content? p = n.disk.content? p) :
    (surveySources c config m).1 = (surveySources c config n).1 := by
  have hcompile : (c.compile config.sources.paths config.references config.flags .memory m).1 =
      (c.compile config.sources.paths config.references config.flags .memory n).1 := by
    rw [Compiler.compile_apply, Compiler.compile_apply]
    refine Act.fst_bind_eq (hb.memory _ _ _ rfl hfiles) ?_
    intro output
    exact Act.constant_sequential.settle (by simp) output
  unfold surveySources
  rw [Act.bind_of_ok (Act.disk_apply m), Act.bind_of_ok (Act.disk_apply n), hm, hn]
  refine Act.fst_bind_eq hcompile ?_
  intro module
  refine Act.constant_sequential.bind (Act.constant_sequential.surveyModule module) ?_
  intro _ _ _ _
  exact Act.constant_sequential.ok _

/-- What was surveyed is expanded to the same fragments everywhere. -/
theorem expand_constant (hb : c.backend.Determined)
    (h : surveySources c config m = (.ok (scratch, s), m')) : Act.Constant (expand s) := by
  obtain ⟨rfl, between, after, hcompile⟩ := surveySources_ok h
  obtain ⟨request, n, output, answer, answered, hanswer, hmodule, hfunctions⟩ :=
    Compiler.compile_ok hcompile
  refine Act.constant_sequential.expand ?_
  rw [hfunctions]
  exact hb.calls request n output answer answered hanswer hmodule

/-- Where the files of a request hold the same, a survey that succeeded finds the same again, and it
is expanded to the same fragments. -/
theorem scan_again (hb : c.backend.Determined)
    (hsurvey : surveySources c config m = (.ok (scratch, s), m₁))
    (hexpand : expand s m₁ = (.ok fragments, m₂)) (hn : config.sources.missing n.disk = [])
    (hfiles : ∀ p ∈ config.sources.paths ++ Compiler.mergeReferences c.baseline config.references,
      m.disk.content? p = n.disk.content? p) :
    ∃ n₁ n₂, surveySources c config n = (.ok (scratch, s), n₁) ∧
      expand s n₁ = (.ok fragments, n₂) := by
  have hsame := surveySources_congr hb (missing_of_surveySources hsurvey) hn hfiles
  have hsame' := expand_constant hb hsurvey m₁ (surveySources c config n).2
  rw [hsurvey] at hsame
  rw [hexpand] at hsame'
  exact ⟨(surveySources c config n).2, (expand s (surveySources c config n).2).2,
    Prod.ext hsame.symm rfl, Prod.ext hsame'.symm rfl⟩

/-! ## Builds on a fresh workbench -/

theorem get?_ofCompiler (c : Compiler) (config : Configuration) :
    (ofCompiler c).cache.get? config = none := rfl

/-- The steps of a build in `source` mode that succeeded. -/
theorem build_source_ok {kept : Kept BuildResult} (hmode : config.mode = .source)
    (h : ((ofCompiler c).build config m).1.1 = .ok kept) :
    ∃ scratch s fragments m₁ m₂ d,
      surveySources c config (announceStart config (inSpan config m)) = (.ok (scratch, s), m₁) ∧
      expand s m₁ = (.ok fragments, m₂) ∧
      m₂.disk.makeParent config.output = .ok d ∧
      d.writeFile config.output (Document.ofFragments fragments).toUTF8 =
        .ok ((ofCompiler c).build config m).2.disk := by
  rw [build_of_none (get?_ofCompiler c config), run_apply] at h ⊢
  cases hwork : work c config (inSpan config m) with
  | mk outcome after =>
      rw [show (ofCompiler c).compiler = c from rfl, hwork] at h
      rw [show (ofCompiler c).compiler = c from rfl, hwork]
      cases outcome with
      | error e => cases h
      | ok r =>
          obtain ⟨scratch, s, fragments, m₁, m₂, m₃, hsurvey, hexpand, hdeliver, rfl⟩ :=
            work_ok hwork
          obtain ⟨d, hparent, hwrite⟩ := Compiler.deliver_source_ok hmode hdeliver
          rw [announceEmpty_disk] at hparent
          exact ⟨scratch, s, fragments, m₁, m₂, d, hsurvey, hexpand, hparent, hwrite⟩

/-- Such a build succeeds if its steps do. -/
theorem build_of_source {d d' : Disk} (hmode : config.mode = .source)
    (hsurvey : surveySources c config (announceStart config (inSpan config m)) =
      (.ok (scratch, s), m₁))
    (hexpand : expand s m₁ = (.ok fragments, m₂))
    (hparent : m₂.disk.makeParent config.output = .ok d)
    (hwrite : d.writeFile config.output (Document.ofFragments fragments).toUTF8 = .ok d') :
    ∃ kept, ((ofCompiler c).build config m).1.1 = .ok kept ∧
      ((ofCompiler c).build config m).2.disk = d' := by
  rw [← announceEmpty_disk (Document.ofFragments fragments)] at hparent
  obtain ⟨after, hdeliver, hafter⟩ := Compiler.deliver_of_source c scratch hmode hparent hwrite
  have hwork : work c config (inSpan config m) =
      (.ok ⟨none, scratch, Document.ofFragments fragments⟩, announceFinish s
        ⟨none, scratch, Document.ofFragments fragments⟩ after) := by
    rw [work_apply, hsurvey]
    dsimp only
    rw [hexpand]
    dsimp only
    unfold conclude
    rw [hdeliver]
  rw [build_of_work_ok (get?_ofCompiler c config) hwork]
  exact ⟨_, rfl, hafter⟩

/-! ## The second run -/

/-- On this disk a request resolves to the configuration, and building it on a fresh workbench
succeeds and leaves the bytes at the output path that are there. -/
structure Regenerates (c : Compiler) (r : BuildRequest) (kinds : FileKinds)
    (config : Configuration) (d : Disk) : Prop where
  resolves : r.configuration d kinds = .ok config
  builds : ∀ m : Machine, m.disk = d → ∃ kept content,
    ((ofCompiler c).build config m).1.1 = .ok kept ∧ d.readBytes config.output = .ok content ∧
      ((ofCompiler c).build config m).2.disk.readBytes config.output = .ok content

/-- What a first run leaves: where it has written, and that it needed all its sources. -/
theorem build_source_wrote {kept : Kept BuildResult} (hb : c.backend.Quiet)
    (hmode : config.mode = .source) (hbuild : ((ofCompiler c).build config m).1.1 = .ok kept) :
    (∀ p ∈ config.sources.paths, m.disk.isFile p = true) ∧
      ∃ place, ((ofCompiler c).build config m).2.disk.canonical? config.output = some place ∧
        Keeps (· = place) m.disk ((ofCompiler c).build config m).2.disk := by
  obtain ⟨scratch, s, fragments, m₁, m₂, d, hsurvey, hexpand, hparent, hwrite⟩ :=
    build_source_ok hmode hbuild
  have hmissing := missing_of_surveySources hsurvey
  obtain ⟨place, runnable, -, hfind, hkeeps⟩ := writeFile_ok hwrite
  have hscan : Keeps nowhere m.disk d :=
    (scan_keeps hb hsurvey hexpand).trans (makeParent_keeps hparent)
  exact ⟨Sources.missing_eq_nil_iff.mp hmissing, place, canonical?_of_find hfind,
    hscan.anywhere.trans hkeeps⟩

/-- A build on the disk that a build has left does the same, if the files of the request hold the
same. -/
theorem build_again {kept : Kept BuildResult} (hb : c.backend.Quiet) (hdet : c.backend.Determined)
    (hmode : config.mode = .source) (hbuild : ((ofCompiler c).build config m).1.1 = .ok kept)
    (hn : n.disk = ((ofCompiler c).build config m).2.disk)
    (hfiles : ∀ p ∈ config.sources.paths ++ Compiler.mergeReferences c.baseline config.references,
      m.disk.content? p = n.disk.content? p) :
    ∃ kept' content, ((ofCompiler c).build config n).1.1 = .ok kept' ∧
      n.disk.readBytes config.output = .ok content ∧
      ((ofCompiler c).build config n).2.disk.readBytes config.output = .ok content := by
  obtain ⟨hthere, place, -, hkeeps⟩ := build_source_wrote hb hmode hbuild
  obtain ⟨scratch, s, fragments, m₁, m₂, d, hsurvey, hexpand, hparent, hwrite⟩ :=
    build_source_ok hmode hbuild
  rw [← hn] at hkeeps hwrite
  obtain ⟨n₁, n₂, hsurvey', hexpand'⟩ := scan_again (m := announceStart config (inSpan config m))
    (n := announceStart config (inSpan config n)) hdet hsurvey hexpand
    (Sources.missing_eq_nil_iff.mpr fun p hp => hkeeps.isFile (hthere p hp)) hfiles
  -- The output is still there when it is to be written.
  have hscan := scan_keeps hb hsurvey' hexpand'
  obtain ⟨place', runnable, -, hfind, hwritten⟩ := writeFile_ok hwrite
  have hparent' := makeParent_again hparent (hwritten.trans hscan.anywhere)
  obtain ⟨d', hwrite', hread⟩ :=
    writeFile_again hfind hscan (Document.ofFragments fragments).toUTF8
  obtain ⟨kept', hdone, hdisk⟩ := build_of_source hmode hsurvey' hexpand' hparent' hwrite'
  exact ⟨kept', _, hdone, readBytes_of_find hfind, hdisk ▸ hread⟩

/-- A path that named a file, and does not name the written one now, did not lead there before. -/
theorem canonical?_ne_of_sameFile {d d' : Disk} {p output : FilePath} {place : Location}
    {written : Location → Prop} (hkeeps : Keeps written d d')
    (hplace : d'.canonical? output = some place) (hother : d'.sameFile p output = false) :
    d.canonical? p ≠ some place := by
  intro hp
  obtain ⟨-, hplaces⟩ := sameFile_eq_false_iff.mp hother
  exact hplaces place (hkeeps.canonical? hp) hplace

/-- A first run of a request in `source` mode that excludes its own output, for a list or a manifest:
it resolves to a configuration, and a build of it on a fresh workbench succeeds and leaves a disk on
which the output is neither the manifest nor a reference. Nor has the run brought a reference about.
-/
structure FirstRun (c : Compiler) (r : BuildRequest) (kinds : FileKinds) (config : Configuration)
    (m : Machine) (d : Disk) : Prop where
  mode : r.mode = .source
  exclude : r.exclude = some r.output
  resolves : r.configuration m.disk kinds = .ok config
  form : config.sources.form ≠ .file
  builds : ∃ kept, ((ofCompiler c).build config m).1.1 = .ok kept
  leaves : ((ofCompiler c).build config m).2.disk = d
  manifest : config.sources.form = .manifest → d.sameFile ⟨Text.trim r.sources⟩ r.output = false
  references : ∀ p ∈ Compiler.mergeReferences c.baseline config.references, d.isFile p = true →
    m.disk.isFile p = true ∧ d.sameFile p r.output = false

namespace FirstRun

variable {r : BuildRequest} {kinds : FileKinds} {d : Disk}

theorem config_mode (h : FirstRun c r kinds config m d) : config.mode = .source := by
  obtain ⟨-, hmode, -, -⟩ := BuildRequest.configuration_ok h.resolves
  exact hmode.trans h.mode

theorem config_output (h : FirstRun c r kinds config m d) : config.output = r.output := by
  obtain ⟨-, -, houtput, -⟩ := BuildRequest.configuration_ok h.resolves
  exact houtput

/-- The sources do not name the output when they are resolved. -/
theorem sources_other (h : FirstRun c r kinds config m d) :
    ∀ p ∈ config.sources.paths, m.disk.sameFile p r.output = false := by
  obtain ⟨hresolve, -, -, -⟩ := BuildRequest.configuration_ok h.resolves
  rw [h.exclude] at hresolve
  exact Sources.spares_of_resolve hresolve h.form

/-- The sources are there, and one place is written, where the output path leads afterwards. -/
theorem wrote (h : FirstRun c r kinds config m d) (hb : c.backend.Quiet) :
    (∀ p ∈ config.sources.paths, m.disk.isFile p = true) ∧
      ∃ place, d.canonical? r.output = some place ∧ Keeps (· = place) m.disk d := by
  obtain ⟨kept, hbuild⟩ := h.builds
  have hwrote := build_source_wrote hb h.config_mode hbuild
  rwa [h.leaves, h.config_output] at hwrote

/-- A run that spared its sources can be repeated. -/
theorem regenerates (h : FirstRun c r kinds config m d) (hb : c.backend.Quiet)
    (hdet : c.backend.Determined)
    (hspared : ∀ p ∈ config.sources.paths, m.disk.canonical? p ≠ d.canonical? r.output) :
    Regenerates c r kinds config d := by
  obtain ⟨hthere, place, hplace, hkeeps⟩ := h.wrote hb
  obtain ⟨hresolve, -, -, hagain⟩ := BuildRequest.configuration_ok h.resolves
  rw [hplace] at hspared
  have hsources : ∀ p ∈ config.sources.paths, d.sameFile p r.output = false := by
    intro p hp
    obtain ⟨htext, -⟩ := sameFile_eq_false_iff.mp (h.sources_other p hp)
    obtain ⟨q, hq⟩ := canonical?_of_isFile (hthere p hp)
    refine sameFile_eq_false_iff.mpr ⟨htext, ?_⟩
    rintro q' hq' hover
    cases (hkeeps.canonical? hq).symm.trans hq'
    cases hover.symm.trans hplace
    exact hspared p hp hq
  have hread : config.sources.form = .manifest → d.readText ⟨Text.trim r.sources⟩ =
      m.disk.readText ⟨Text.trim r.sources⟩ := by
    intro hmanifest
    rcases Sources.resolve_ok hresolve with ⟨hfile, -⟩ | ⟨-, htext, -⟩
    · exact absurd hfile h.form
    · obtain ⟨text, htext⟩ := htext hmanifest
      exact hkeeps.readText_eq (isFile_of_readText htext)
        (canonical?_ne_of_sameFile hkeeps hplace (h.manifest hmanifest))
  have hfiles : ∀ p ∈ config.sources.paths ++
      Compiler.mergeReferences c.baseline config.references, m.disk.content? p = d.content? p := by
    intro p hp
    symm
    rcases List.mem_append.mp hp with hsource | hreference
    · exact hkeeps.content?_eq (fun _ => hthere p hsource) fun _ => hspared p hsource
    · refine hkeeps.content?_eq (fun hfile => (h.references p hreference hfile).1) ?_
      intro hfile
      exact canonical?_ne_of_sameFile hkeeps hplace
        (h.references p hreference (hkeeps.isFile hfile)).2
  refine ⟨hagain d ?_, ?_⟩
  · rw [h.exclude] at hresolve ⊢
    exact Sources.resolve_again hkeeps hresolve hread hsources
  · intro n hn
    obtain ⟨kept, hbuild⟩ := h.builds
    rw [← hn] at hfiles ⊢
    exact build_again hb hdet h.config_mode hbuild (hn.trans h.leaves.symm) hfiles

/-- With a backend that leaves no trace, a run whose output path has no step up spares its sources:
none of them is where the output goes, or it would have been left out. -/
theorem spares_of_no_up (h : FirstRun c r kinds config m d) (hb : c.backend.Quiet)
    (htidy : c.backend.Tidy) (htree : m.disk.IsTree) (hup : .up ∉ r.output.components) :
    ∀ p ∈ config.sources.paths, m.disk.canonical? p ≠ d.canonical? r.output := by
  intro p hp hover
  obtain ⟨hthere, place, hplace, -⟩ := h.wrote hb
  obtain ⟨kept, hbuild⟩ := h.builds
  obtain ⟨scratch, s, fragments, m₁, m₂, d₁, hsurvey, hexpand, hparent, hwrite⟩ :=
    build_source_ok h.config_mode hbuild
  rw [h.leaves] at hwrite
  rw [h.config_output] at hparent hwrite
  have hscan := scan_traceless (m := announceStart config (inSpan config m)) htidy htree hsurvey
  rw [hexpand] at hscan
  rw [hplace] at hover
  obtain ⟨e, hfind⟩ := find_of_canonical? hover
  have hold : m₂.disk.get? place = some e := (hscan.get?_eq place).trans (get?_of_find hfind)
  have hready : d₁.canonical? r.output = some place :=
    canonical?_of_writeFile hwrite hplace ((makeParent_keeps hparent).kept place e hold id)
  have hbefore : m₂.disk.canonical? r.output = some place :=
    canonical?_of_makeParent (hscan.tree htree) (FilePath.up_not_mem_names hup) hparent hready hold
  obtain ⟨-, hapart⟩ := sameFile_eq_false_iff.mp (h.sources_other p hp)
  exact hapart place hover (hscan.symm.keeps_nowhere.canonical? hbefore)

end FirstRun

/-- **Regeneration repeats itself exactly if it spares its sources.** Take a backend that goes by the
request and its files alone and changes nothing that is there. On the disk that a first run leaves,
the request resolves to the same configuration, builds again, and leaves the same bytes, if and only
if none of its sources was where the output has been written. -/
theorem regenerates_iff {r : BuildRequest} {kinds : FileKinds} {d : Disk}
    (hb : c.backend.Quiet) (hdet : c.backend.Determined) (h : FirstRun c r kinds config m d) :
    Regenerates c r kinds config d ↔
      ∀ p ∈ config.sources.paths, m.disk.canonical? p ≠ d.canonical? r.output := by
  constructor
  · intro hregenerates p hp hover
    obtain ⟨-, place, hplace, hkeeps⟩ := h.wrote hb
    obtain ⟨hresolve, -, -, -⟩ := BuildRequest.configuration_ok hregenerates.resolves
    rw [h.exclude] at hresolve
    have hother := Sources.spares_of_resolve hresolve h.form p hp
    exact canonical?_ne_of_sameFile hkeeps hplace hother (hover.trans hplace)
  · exact h.regenerates hb hdet

/-- So it does if the output path has no step up, with a backend that leaves no trace. -/
theorem regenerates_of_no_up {r : BuildRequest} {kinds : FileKinds} {d : Disk}
    (hb : c.backend.Quiet) (htidy : c.backend.Tidy) (hdet : c.backend.Determined)
    (htree : m.disk.IsTree) (h : FirstRun c r kinds config m d) (hup : .up ∉ r.output.components) :
    Regenerates c r kinds config d :=
  h.regenerates hb hdet (h.spares_of_no_up hb htidy htree hup)

/-! ## Two runs of the echo -/

/-- The echo does not even look at its files. -/
theorem echo_determined : echoBackend.Determined where
  memory := fun _ _ _ _ _ => rfl
  calls := fun _ _ _ _ _ hanswer hmodule =>
    echo_calls Act.constant_sequential.toStepwise hanswer hmodule

/-- A request to write the flag `x` to an output path that is excluded. -/
def excluding (sources : String) (output : FilePath) : BuildRequest where
  sources := sources
  exclude := some output
  references := []
  flags := ["x"]
  mode := .source
  output := output

/-- A disk with two sources. -/
def sourceDisk : Disk where
  entries := [(["a.src"], .file ByteArray.empty false), (["b.src"], .file ByteArray.empty false)]
  home := []
  scratch := ⟨"/tmp"⟩

/-- The configuration of sources and an output path under such a request. -/
def excluded (sources : List FilePath) (output : FilePath) : Configuration where
  sources := .ofPaths sources
  references := []
  flags := ["x"]
  mode := .source
  output := output

theorem exists_of_isOk {ε α : Type} {x : Except ε α} (h : x.isOk = true) : ∃ a, x = .ok a := by
  cases x with
  | ok a => exact ⟨a, rfl⟩
  | error e => cases h

/-- The echo. -/
def echoCompiler : Compiler := ⟨echoBackend, [], .standard⟩

/-- A first run of the echo. -/
theorem firstRun_echo {sources : String} {paths : List FilePath} {output : FilePath}
    (hresolves : ((excluding sources output).configuration sourceDisk .standard).toOption =
      some (excluded paths output))
    (hbuilds : ((ofCompiler echoCompiler).build (excluded paths output)
      (.ofDisk sourceDisk)).1.1.isOk = true) :
    FirstRun echoCompiler (excluding sources output) .standard (excluded paths output)
      (.ofDisk sourceDisk)
      ((ofCompiler echoCompiler).build (excluded paths output) (.ofDisk sourceDisk)).2.disk where
  mode := rfl
  exclude := rfl
  resolves := ok_of_toOption hresolves
  form := by simp [excluded, Sources.ofPaths]
  builds := exists_of_isOk hbuilds
  leaves := rfl
  manifest := fun hmanifest => by cases hmanifest
  references := fun p hp => by cases hp

/-- The second run finds its output listed, and leaves it out again. -/
theorem regenerates_for_echo :
    Regenerates echoCompiler (excluding "a.src,out/b.src" ⟨"out/b.src"⟩) .standard
      (excluded [⟨"a.src"⟩] ⟨"out/b.src"⟩)
      ((ofCompiler echoCompiler).build (excluded [⟨"a.src"⟩] ⟨"out/b.src"⟩)
        (.ofDisk sourceDisk)).2.disk := by
  refine (regenerates_iff (m := .ofDisk sourceDisk) echo_quiet echo_determined ?_).mpr ?_
  · exact firstRun_echo (by decide +kernel) (by decide +kernel)
  · decide +kernel

/-- Above the output there is no directory `c` yet, so the output does not name `b.src` in the first
run, which takes it for a source and writes over it; in the second run it does, and there is one
source less. -/
theorem not_regenerates_of_overwritten :
    let r := excluding "a.src,b.src" ⟨"c/../b.src"⟩
    let config := excluded [⟨"a.src"⟩, ⟨"b.src"⟩] ⟨"c/../b.src"⟩
    let d := ((ofCompiler echoCompiler).build config (.ofDisk sourceDisk)).2.disk
    echoCompiler.backend.Quiet ∧ echoCompiler.backend.Determined ∧
      FirstRun echoCompiler r .standard config (.ofDisk sourceDisk) d ∧
      ¬Regenerates echoCompiler r .standard config d := by
  intro r config d
  refine ⟨echo_quiet, echo_determined, firstRun_echo (by decide +kernel) (by decide +kernel), ?_⟩
  intro hregenerates
  have hless : (r.configuration d .standard).toOption =
      some (excluded [⟨"a.src"⟩] ⟨"c/../b.src"⟩) := by
    decide +kernel
  rw [hregenerates.resolves] at hless
  exact absurd hless (by decide)

end Workbench

end Expansion
