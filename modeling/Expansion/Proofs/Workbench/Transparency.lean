import Expansion.Proofs.Workbench.Repetition

/-!
# What an answer from the cache is worth

A result that is handed out again was made by an earlier build, and a fresh workbench would make it
again now, if the files that the build reads are as they were. So **the cache is transparent, but for
the spelling of paths** (`build_transparent`): a build gives what a fresh workbench gives for a
configuration of the same class, which is the one asked for or one that was asked for before.

It is not always what a fresh workbench gives for the configuration itself
(`cached_though_missing`): configurations compare paths by their components, and builds follow their
texts.
-/

namespace Expansion.Workbench

open Disk Compiler

variable {c : Compiler} {config key : Configuration} {w : Workbench} {m m' start : Machine}
variable {turns : List Turn} {kept : Kept BuildResult} {before after : Machine}

/-! ## The runs behind the kept results -/

/-- A disk that some calls have left: the first one, or one on which a call ended. -/
def Seen (start : Machine) (turns : List Turn) (d : Disk) : Prop :=
  d = start.disk ∨ ∃ t ∈ turns, t.disk = d

theorem Seen.later {d : Disk} (h : Seen start turns d) (t : Turn) : Seen start (turns ++ [t]) d := by
  rcases h with hstart | ⟨u, hu, hdisk⟩
  · exact .inl hstart
  · exact .inr ⟨u, List.mem_append_left _ hu, hdisk⟩

/-- The run that made a kept result in the course of some calls, and what is left of the disks on
which it began and ended. -/
structure Ran (c : Compiler) (start : Machine) (turns : List Turn) (m : Machine)
    (key : Configuration) (kept : Kept BuildResult) (before after : Machine) : Prop where
  turn : ∃ t ∈ turns, t.config = key ∧ t.answered = false ∧ t.outcome = .ok kept ∧
    t.disk = after.disk
  run : run c key before = (.ok kept.result, after)
  tree : before.disk.IsTree
  begun : Seen start turns before.disk
  older : Keeps (fun _ => True) start.disk before.disk
  newer : Keeps (fun _ => True) after.disk m.disk
  spared : ∀ place, (∀ u ∈ turns, u.Spares place) → Keeps (· ≠ place) before.disk m.disk

/-- What one more call leaves of a run. -/
theorem Ran.later (h : Ran c start turns m key kept before after) {t : Turn}
    (hkeeps : Keeps (fun _ => True) m.disk m'.disk)
    (hstep : ∀ place, t.Spares place → Keeps (· ≠ place) m.disk m'.disk) :
    Ran c start (turns ++ [t]) m' key kept before after where
  turn := by
    obtain ⟨u, hu, hmade⟩ := h.turn
    exact ⟨u, List.mem_append_left _ hu, hmade⟩
  run := h.run
  tree := h.tree
  begun := h.begun.later t
  older := h.older
  newer := h.newer.trans hkeeps
  spared := by
    intro place hspares
    exact (h.spared place fun u hu => hspares u (List.mem_append_left _ hu)).trans
      (hstep place (hspares t (by simp)))

/-- What is known after some calls: the disk is that of the start or of the last call, and every kept
result was made by a run. -/
structure Traced (c : Compiler) (start : Machine) (turns : List Turn) (w : Workbench) (m : Machine) :
    Prop where
  tree : m.disk.IsTree
  ended : Seen start turns m.disk
  older : Keeps (fun _ => True) start.disk m.disk
  ran : ∀ key kept, (key, kept) ∈ w.cache.entries →
    ∃ before after, Ran c start turns m key kept before after

/-- A call takes nothing away. -/
theorem build_keeps (hb : w.compiler.backend.Quiet)
    (hkind : config.mode = .artifact → w.compiler.kinds.isArtifact config.output = true)
    (htree : m.disk.IsTree) : Keeps (fun _ => True) m.disk (w.build config m).2.disk := by
  cases hget : w.cache.get? config with
  | some kept =>
      rw [build_of_some hget]
      exact .refl _ _
  | none =>
      rcases build_of_none_wrote hb hkind htree hget with ⟨e, -, hkeeps⟩ | ⟨r, -, hwrote⟩
      · exact hkeeps.anywhere
      · exact hwrote.keeps

/-- A call that is not answered from the cache runs on the disk that the calls before have left. -/
theorem Traced.ran_build {r : BuildResult} (h : Traced c start turns w m)
    (hget : w.cache.get? config = none) (hrun : run w.compiler config m = (.ok r, after))
    (hcompiler : w.compiler = c)
    (hstep : ∀ place, (w.turn config m).Spares place →
      Keeps (· ≠ place) m.disk (w.build config m).2.disk) :
    Ran c start (turns ++ [w.turn config m]) (w.build config m).2 config ⟨w.cache.miss.misses, r⟩ m
      after := by
  have hbuild := build_of_none (m := m) hget
  rw [hrun] at hbuild
  refine ⟨⟨w.turn config m, by simp, rfl, ?_, ?_, ?_⟩, hcompiler ▸ hrun, h.tree, ?_, h.older, ?_, ?_⟩
  · simp [turn, ResultCache.contains, hget]
  · rw [turn, hbuild]
  · rw [turn, hbuild]
  · exact h.ended.later (w.turn config m)
  · rw [hbuild]
    exact .refl _ _
  · intro place hspares
    exact hstep place (hspares (w.turn config m) (by simp))

theorem Traced.build (h : Traced c start turns w m) (hcompiler : w.compiler = c)
    (hb : c.backend.Quiet)
    (hkind : config.mode = .artifact → c.kinds.isArtifact config.output = true) :
    Traced c start (turns ++ [w.turn config m]) (w.build config m).1.2 (w.build config m).2 := by
  have hkeeps : Keeps (fun _ => True) m.disk (w.build config m).2.disk :=
    build_keeps (hcompiler ▸ hb) (hcompiler ▸ hkind) h.tree
  have hstep : ∀ place, (w.turn config m).Spares place →
      Keeps (· ≠ place) m.disk (w.build config m).2.disk :=
    fun _ hspares => build_keeps_place (hcompiler ▸ hb) (hcompiler ▸ hkind) h.tree hspares
  refine ⟨hkeeps.tree h.tree, .inr ⟨w.turn config m, by simp, rfl⟩, h.older.trans hkeeps, ?_⟩
  intro key kept hentry
  have hold : (key, kept) ∈ w.cache.entries → ∃ before after, Ran c start
      (turns ++ [w.turn config m]) (w.build config m).2 key kept before after := by
    intro hentry
    obtain ⟨before, after, hran⟩ := h.ran key kept hentry
    exact ⟨before, after, hran.later hkeeps hstep⟩
  cases hget : w.cache.get? config with
  | some found =>
      rw [build_of_some hget] at hentry
      exact hold hentry
  | none =>
      have hbuild := build_of_none (m := m) hget
      cases hrun : run w.compiler config m with
      | mk outcome after =>
          rw [hrun] at hbuild
          cases outcome with
          | error e =>
              rw [hbuild] at hentry
              exact hold hentry
          | ok r =>
              rw [hbuild] at hentry
              rcases List.mem_append.mp hentry with hbefore | hnew
              · exact hold hbefore
              · cases List.mem_singleton.mp hnew
                exact ⟨m, after, h.ran_build hget hrun hcompiler hstep⟩

theorem Built.traced (hb : c.backend.Quiet) (htree : start.disk.IsTree)
    (hkinds : ∀ u ∈ turns, u.config.mode = .artifact → c.kinds.isArtifact u.config.output = true)
    (h : Built c start turns w m) : Traced c start turns w m := by
  induction h with
  | fresh => exact ⟨htree, .inl rfl, .refl _ _, by simp [ofCompiler, ResultCache.empty]⟩
  | @build turns w m config hbuilt ih =>
      have htraced := ih fun u hu => hkinds u (List.mem_append_left _ hu)
      exact htraced.build hbuilt.compiler hb (hkinds (w.turn config m) (by simp))

/-! ## Undisturbed files -/

/-- Calls whose outputs are no sources, references or scratch directories of any of them: what the
path of a source or reference leads to is written by none, a reference is there from the start or
never, no scratch name is taken or given back, and an artifact that is delivered is there when the
call returns. -/
structure Undisturbed (c : Compiler) (start : Machine) (turns : List Turn) (m : Machine) : Prop where
  tree : start.disk.IsTree
  kinds : ∀ t ∈ turns, t.config.mode = .artifact → c.kinds.isArtifact t.config.output = true
  names : ∀ t ∈ turns, SameNames "typexpand-" start.disk t.disk
  lands : ∀ t ∈ turns, t.config.mode = .artifact → t.answered = false →
    (∃ kept, t.outcome = .ok kept) → t.disk.isFile t.config.output = true
  spares : ∀ t ∈ turns, ∀ p ∈ t.config.sources.paths ++
    mergeReferences c.baseline t.config.references, ∀ place, m.disk.canonical? p = some place →
      ∀ u ∈ turns, u.Spares place
  references : ∀ t ∈ turns, ∀ p ∈ mergeReferences c.baseline t.config.references,
    start.disk.isFile p = true ∨ m.disk.NeverFile p

/-- The same scratch names are taken on all the disks in between. -/
theorem Undisturbed.names_seen {d : Disk} (hu : Undisturbed c start turns m)
    (hd : Seen start turns d) : SameNames "typexpand-" start.disk d := by
  rcases hd with rfl | ⟨t, ht, rfl⟩
  · exact fun _ => rfl
  · exact hu.names t ht

/-- A build that succeeded had all its sources. -/
theorem isFile_of_run {r : BuildResult} (h : run c config m = (.ok r, m')) :
    ∀ p ∈ config.sources.paths, m.disk.isFile p = true := by
  rw [run_apply] at h
  obtain ⟨hresult, -⟩ := Prod.mk.inj h
  obtain ⟨_, _, _, _, _, _, hsurvey, -⟩ := work_ok (Prod.ext hresult rfl)
  exact Sources.missing_eq_nil_iff.mp
    (missing_of_surveySources (m := announceStart config (inSpan config m)) hsurvey)

namespace Ran

variable (h : Ran c start turns m key kept before after) (hu : Undisturbed c start turns m)

include h hu

theorem kind : key.mode = .artifact → c.kinds.isArtifact key.output = true := by
  obtain ⟨t, ht, rfl, -⟩ := h.turn
  exact hu.kinds t ht

/-- The output of the run was there when it ended. -/
theorem output (hb : c.backend.Quiet) (hmode : key.mode ≠ .embed) :
    after.disk.isFile key.output = true := by
  cases run_ok_wrote hb (h.kind hu) h.tree h.run with
  | nothing hembed => exact absurd hembed hmode
  | artifact place hartifact =>
      obtain ⟨t, ht, rfl, hanswered, hok, hdisk⟩ := h.turn
      rw [← hdisk]
      exact hu.lands t ht hartifact hanswered ⟨kept, hok⟩
  | source place runnable _ _ hfind => exact isFile_iff.mpr ⟨place, _, runnable, hfind⟩

theorem keeps (hb : c.backend.Quiet) : Keeps (fun _ => True) before.disk m.disk :=
  (run_ok_wrote hb (h.kind hu) h.tree h.run).keeps.trans h.newer

/-- A file that the run has read reads the same now. -/
theorem content?_eq (hb : c.backend.Quiet) {p : FilePath}
    (hp : p ∈ key.sources.paths ++ mergeReferences c.baseline key.references)
    (hfile : before.disk.isFile p = true) : m.disk.content? p = before.disk.content? p := by
  obtain ⟨t, ht, rfl, -⟩ := h.turn
  obtain ⟨place, content, runnable, hfind⟩ := isFile_iff.mp hfile
  have hplace := (h.keeps hu hb).canonical? (canonical?_of_find hfind)
  have hspared := h.spared place (hu.spares t ht p hp place hplace)
  unfold content?
  rw [readBytes_of_find hfind, readBytes_of_find (hspared.find_kept hfind (by simp))]

/-- The disk now is one on which the run can be repeated. -/
theorem repeats (hb : c.backend.Quiet) (hended : Seen start turns m.disk) :
    Repeats (key.sources.paths ++ mergeReferences c.baseline key.references)
      before.disk m.disk where
  keeps := h.keeps hu hb
  names := by
    intro n
    rw [hu.names_seen hended n, hu.names_seen h.begun n]
  reads := by
    intro p hp
    have hsteady : before.disk.isFile p = true → Steady before.disk m.disk p :=
      fun hfile => .inl ⟨hfile, h.content?_eq hu hb hp hfile⟩
    rcases List.mem_append.mp hp with hsource | hreference
    · exact hsteady (isFile_of_run h.run p hsource)
    · obtain ⟨t, ht, rfl, -⟩ := h.turn
      rcases hu.references t ht p hreference with hfile | hnever
      · exact hsteady (h.older.isFile hfile)
      · exact .inr hnever

end Ran

/-! ## The cache is transparent -/

/-- On a fresh workbench a run decides. -/
theorem fresh_result (c : Compiler) (config : Configuration) (m : Machine) :
    ((ofCompiler c).build config m).1.1.map Kept.result = (run c config m).1 := by
  rw [build_of_none (get?_ofCompiler c config), show (ofCompiler c).compiler = c from rfl]
  cases run c config m with
  | mk outcome after => cases outcome <;> rfl

/-- **The cache is transparent, but for the spelling of paths.** Take a backend that goes by its
request and the files that it names, and calls of `build` on a fresh workbench with nothing else at
work on the disk, whose outputs disturb none of their files. Then one more call has the outcome that
a fresh workbench has on the same disk for a configuration of the same class: the same failure, or
the same text and the same modules. That configuration is the one asked for, or one of an earlier
call. -/
theorem build_transparent (hb : c.backend.Functional) (h : Built c start turns w m)
    (hu : Undisturbed c start turns m) (config : Configuration) :
    ∃ key, key.same config = true ∧ (key = config ∨ ∃ t ∈ turns, t.config = key) ∧
      (w.build config m).1.1.map Kept.result =
        ((ofCompiler c).build key m).1.1.map Kept.result := by
  cases hget : w.cache.get? config with
  | none =>
      refine ⟨config, Configuration.same_refl config, .inl rfl, ?_⟩
      rw [fresh_result, build_of_none hget, h.compiler]
      cases run c config m with
      | mk outcome after => cases outcome <;> rfl
  | some kept =>
      have htraced := h.traced hb.quiet hu.tree hu.kinds
      obtain ⟨key, hentry, hsame⟩ := ResultCache.get?_some hget
      obtain ⟨before, after, hran⟩ := htraced.ran key kept hentry
      obtain ⟨t, ht, hkey, -⟩ := hran.turn
      refine ⟨key, hsame, .inr ⟨t, ht, hkey⟩, ?_⟩
      rw [fresh_result, build_of_some hget]
      exact (run_again hb (hran.kind hu) hran.tree (hran.repeats hu hb.quiet htraced.ended)
        hran.run (hran.output hu hb.quiet) hran.newer).symm

/-- So it is transparent where configurations of one class are spelled the same. -/
theorem build_transparent_of_spelled (hb : c.backend.Functional) (h : Built c start turns w m)
    (hu : Undisturbed c start turns m)
    (hspelled : ∀ t ∈ turns, t.config.same config = true → t.config = config) :
    (w.build config m).1.1.map Kept.result =
      ((ofCompiler c).build config m).1.1.map Kept.result := by
  obtain ⟨key, hsame, hkey, hresult⟩ := build_transparent hb h hu config
  obtain rfl : key = config := by
    rcases hkey with rfl | ⟨t, ht, rfl⟩
    · rfl
    · exact hspelled t ht hsame
  exact hresult

/-! ## Two spellings of one configuration -/

/-- A build with a missing source fails before it compiles anything. -/
theorem run_of_missing {p : FilePath} {others : List FilePath}
    (h : config.sources.missing m.disk = p :: others) :
    (run c config m).1 = .error (.missingSources (p :: others)) := by
  have hsurvey : surveySources c config (announceStart config (inSpan config m)) =
      (.error (.missingSources (p :: others)), announceStart config (inSpan config m)) := by
    unfold surveySources
    rw [Act.bind_of_ok (Act.disk_apply _), show (announceStart config (inSpan config m)).disk =
      m.disk from rfl, h]
    rfl
  rw [run_apply, work_apply, hsurvey]

/-- The echo answers every request alike and writes nothing. -/
theorem echo_functional : echoBackend.Functional where
  quiet := echo_quiet
  tidy := echo_tidy
  determined := echo_determined
  file := by
    intro request p parent name m n _ hm hn _
    refine ⟨rfl, ?_⟩
    exact (find_ok_iff.mp hm).2.missing.2.trans (find_ok_iff.mp hn).2.missing.2.symm

/-- In a scratch directory that is not there no name is taken. -/
theorem isTaken_of_no_scratch {d : Disk} (hscratch : d.scratch = ⟨"/tmp"⟩)
    (hfree : d.get? ["tmp"] = none) (n : Nat) :
    d.isTaken (d.scratchPath "typexpand-" "" n) = false := by
  obtain ⟨hslash, hplain⟩ := Act.plainStem_typexpand n
  rw [Bool.eq_false_iff]
  intro htaken
  obtain ⟨q, hfront, -⟩ := get?_of_isTaken (piecesOf_of_no_slash hslash) hplain htaken
  have hpieces : front ⟨"/tmp"⟩ = ["", "tmp"] := by decide
  rw [hscratch, hpieces] at hfront
  cases (hfront.of_idle (.inl rfl)).absent_of_free ⟨by decide, by decide⟩ hfree

/-- The configuration to write the flag `x` to `o.src`, with one source. -/
def oneSource (source : FilePath) : Configuration := excluded [source] ⟨"o.src"⟩

/-- One call of the echo, on a disk with sources. -/
def echoTurn (source : FilePath) : Turn :=
  (ofCompiler echoCompiler).turn (oneSource source) (.ofDisk sourceDisk)

/-- The workbench and the machine after the call. -/
def afterEcho (source : FilePath) : Workbench × Machine :=
  (((ofCompiler echoCompiler).build (oneSource source) (.ofDisk sourceDisk)).1.2,
    ((ofCompiler echoCompiler).build (oneSource source) (.ofDisk sourceDisk)).2)

theorem built_echo (source : FilePath) : Built echoCompiler (.ofDisk sourceDisk) [echoTurn source]
    (afterEcho source).1 (afterEcho source).2 :=
  .build (oneSource source) .fresh

theorem undisturbed_echo : Undisturbed echoCompiler (.ofDisk sourceDisk) [echoTurn ⟨"a.src"⟩]
    (afterEcho ⟨"a.src"⟩).2 := by
  have hmode : (echoTurn ⟨"a.src"⟩).config.mode ≠ .artifact := by decide
  refine ⟨isTree_of_flat (by decide), ?_, ?_, ?_, ?_, ?_⟩
  · intro t ht hartifact
    obtain rfl := List.mem_singleton.mp ht
    exact absurd hartifact hmode
  · intro t ht n
    obtain rfl := List.mem_singleton.mp ht
    rw [isTaken_of_no_scratch (by decide +kernel) (by decide +kernel),
      isTaken_of_no_scratch rfl (by decide +kernel)]
  · intro t ht hartifact
    obtain rfl := List.mem_singleton.mp ht
    exact absurd hartifact hmode
  · intro t ht p hp place hplace u hu
    obtain rfl := List.mem_singleton.mp ht
    obtain rfl := List.mem_singleton.mp hu
    obtain rfl : p = ⟨"a.src"⟩ := List.mem_singleton.mp hp
    have hsource : (afterEcho ⟨"a.src"⟩).2.disk.canonical? ⟨"a.src"⟩ = some ["a.src"] := by
      decide +kernel
    have houtput : (echoTurn ⟨"a.src"⟩).disk.canonical? ⟨"o.src"⟩ = some ["o.src"] := by
      decide +kernel
    obtain rfl := Option.some.inj (hsource.symm.trans hplace)
    exact .inr (.inr (.inr ⟨["o.src"], houtput, by decide⟩))
  · intro t ht p hp
    obtain rfl := List.mem_singleton.mp ht
    cases hp

/-- Asked again, the workbench answers from the cache, and a fresh one would answer the same. -/
theorem cached_as_fresh :
    (afterEcho ⟨"a.src"⟩).1.cache.contains (oneSource ⟨"a.src"⟩) = true ∧
      ∃ key, key.same (oneSource ⟨"a.src"⟩) = true ∧
        (key = oneSource ⟨"a.src"⟩ ∨ ∃ t ∈ [echoTurn ⟨"a.src"⟩], t.config = key) ∧
        ((afterEcho ⟨"a.src"⟩).1.build (oneSource ⟨"a.src"⟩) (afterEcho ⟨"a.src"⟩).2).1.1.map
            Kept.result =
          ((ofCompiler echoCompiler).build key (afterEcho ⟨"a.src"⟩).2).1.1.map Kept.result :=
  ⟨by decide +kernel,
    build_transparent echo_functional (built_echo ⟨"a.src"⟩) undisturbed_echo (oneSource ⟨"a.src"⟩)⟩

/-- A path with a slash behind it has the components of the path without, and leads to no file. After
a build of the one, the other is answered from the cache, though a fresh workbench misses its source.
-/
theorem cached_though_missing :
    echoCompiler.backend.Functional ∧
      Built echoCompiler (.ofDisk sourceDisk) [echoTurn ⟨"a.src"⟩] (afterEcho ⟨"a.src"⟩).1
        (afterEcho ⟨"a.src"⟩).2 ∧
      Undisturbed echoCompiler (.ofDisk sourceDisk) [echoTurn ⟨"a.src"⟩] (afterEcho ⟨"a.src"⟩).2 ∧
      (oneSource ⟨"a.src"⟩).same (oneSource ⟨"a.src/"⟩) = true ∧
      (∃ kept, ((afterEcho ⟨"a.src"⟩).1.build (oneSource ⟨"a.src/"⟩)
        (afterEcho ⟨"a.src"⟩).2).1.1 = .ok kept) ∧
      ((ofCompiler echoCompiler).build (oneSource ⟨"a.src/"⟩) (afterEcho ⟨"a.src"⟩).2).1.1.map
        Kept.result = .error (.missingSources [⟨"a.src/"⟩]) := by
  refine ⟨echo_functional, built_echo _, undisturbed_echo, by decide, ?_, ?_⟩
  · exact exists_of_isOk (by decide +kernel)
  · rw [fresh_result]
    exact run_of_missing (by decide +kernel)

end Expansion.Workbench
