import Expansion.Proofs.Compiler.Delivery
import Expansion.Proofs.Compiler.Upkeep
import Expansion.Proofs.Workbench.Agreement

/-!
# The files that builds write

A run of builds on one workbench, with nothing else at work on the disk, and what is at an output
path in its course.

* **A build writes the place of its output path and no other** (`run_ok_wrote`), and a build that
  fails or is answered from the cache writes nothing.
* So what a build has delivered stays until another build writes the same place (`Turn.Spares`).
* An answer from the cache delivers nothing: if the place was written since, it holds something
  else.
-/

namespace Expansion.Workbench

open Disk Compiler

variable {c : Compiler} {config : Configuration} {w : Workbench} {m m' : Machine}

/-! ## One build -/

/-- Surveying keeps the disk. -/
theorem surveySources_keeps (hb : c.backend.Quiet) (config : Configuration) (m : Machine) :
    Keeps nowhere m.disk (surveySources c config m).2.disk :=
  (Act.preserves_compositional (Keeps nowhere m.disk)).surveySources (hb.behaves m.disk) config m
    (.refl _ _)

/-- Expanding what has been surveyed keeps the disk. -/
theorem expand_keeps (hb : c.backend.Quiet) {scratch : Module} {s : Survey Machine}
    (hsurvey : surveySources c config m = (.ok (scratch, s), m')) (n : Machine) :
    Keeps nowhere n.disk (expand s n).2.disk := by
  obtain ⟨rfl, -⟩ := surveySources_ok hsurvey
  have hcalls := surveySources_calls (hb.behaves n.disk) hsurvey
  exact (Act.preserves_compositional (Keeps nowhere n.disk)).routine.expand hcalls n (.refl _ _)

/-- What a build does before its delivery keeps the disk. -/
theorem scan_keeps {scratch : Module} {s : Survey Machine} {fragments : List String}
    {m₁ m₂ : Machine} (hb : c.backend.Quiet)
    (hsurvey : surveySources c config m = (.ok (scratch, s), m₁))
    (hexpand : expand s m₁ = (.ok fragments, m₂)) : Keeps nowhere m.disk m₂.disk := by
  have hsources := surveySources_keeps hb config m
  have hfragments := expand_keeps hb hsurvey m₁
  rw [hsurvey] at hsources
  rw [hexpand] at hfragments
  exact hsources.trans hfragments

theorem work_error_keeps {e : Failure} (hb : c.backend.Quiet)
    (hkind : config.mode = .artifact → c.kinds.isArtifact config.output = true)
    (htree : m.disk.IsTree) (h : work c config m = (.error e, m')) :
    Keeps nowhere m.disk m'.disk := by
  have hsources := surveySources_keeps hb config (announceStart config m)
  rw [work_apply] at h
  split at h
  · rename_i e' m₁ hsurvey
    cases h
    rw [hsurvey] at hsources
    exact hsources
  · rename_i scratch s m₁ hsurvey
    rw [hsurvey] at hsources
    have hexpand := expand_keeps hb hsurvey m₁
    split at h
    · rename_i e' m₂ hfragments
      cases h
      rw [hfragments] at hexpand
      exact hsources.trans hexpand
    · rename_i fragments m₂ hfragments
      rw [hfragments] at hexpand
      have hscan := hsources.trans hexpand
      unfold conclude at h
      split at h
      · cases h
      · rename_i e' m₃ hdeliver
        cases h
        rw [← announceEmpty_disk (Document.ofFragments fragments) m₂] at hscan
        exact hscan.trans (deliver_error_keeps hb hkind (hscan.tree htree) hdeliver)

theorem work_ok_wrote {r : BuildResult} (hb : c.backend.Quiet)
    (hkind : config.mode = .artifact → c.kinds.isArtifact config.output = true)
    (htree : m.disk.IsTree) (h : work c config m = (.ok r, m')) :
    Wrote config r.generated m.disk m'.disk := by
  obtain ⟨scratch, s, fragments, m₁, m₂, m₃, hsurvey, hexpand, hdeliver, rfl⟩ := work_ok h
  have hscan := scan_keeps hb hsurvey hexpand
  rw [← announceEmpty_disk (Document.ofFragments fragments) m₂] at hscan
  obtain ⟨-, hgenerated, -⟩ := deliver_ok hdeliver
  have hwrote := deliver_ok_wrote hb hkind (hscan.tree htree) hdeliver
  rw [hgenerated]
  exact hwrote.after hscan

theorem run_error_keeps {e : Failure} (hb : c.backend.Quiet)
    (hkind : config.mode = .artifact → c.kinds.isArtifact config.output = true)
    (htree : m.disk.IsTree) (h : run c config m = (.error e, m')) :
    Keeps nowhere m.disk m'.disk := by
  rw [run_apply] at h
  obtain ⟨hresult, rfl⟩ := Prod.mk.inj h
  have hwork : work c config (inSpan config m) = (.error e, (work c config (inSpan config m)).2) :=
    Prod.ext hresult rfl
  have hkeeps := work_error_keeps (m := inSpan config m) hb hkind htree hwork
  exact hkeeps

theorem run_ok_wrote {r : BuildResult} (hb : c.backend.Quiet)
    (hkind : config.mode = .artifact → c.kinds.isArtifact config.output = true)
    (htree : m.disk.IsTree) (h : run c config m = (.ok r, m')) :
    Wrote config r.generated m.disk m'.disk := by
  rw [run_apply] at h
  obtain ⟨hresult, rfl⟩ := Prod.mk.inj h
  have hwork : work c config (inSpan config m) = (.ok r, (work c config (inSpan config m)).2) :=
    Prod.ext hresult rfl
  have hwrote := work_ok_wrote (m := inSpan config m) hb hkind htree hwork
  exact hwrote

/-- A build that is not answered from the cache: it fails and writes nothing, or it keeps its result
and writes what its mode asks for. -/
theorem build_of_none_wrote (hb : w.compiler.backend.Quiet)
    (hkind : config.mode = .artifact → w.compiler.kinds.isArtifact config.output = true)
    (htree : m.disk.IsTree) (hget : w.cache.get? config = none) :
    (∃ e, (w.build config m).1 = (.error e, { w with cache := w.cache.miss }) ∧
      Keeps nowhere m.disk (w.build config m).2.disk) ∨
    ∃ r, (w.build config m).1 =
        (.ok ⟨w.cache.miss.misses, r⟩, { w with cache := w.cache.miss.keep config r }) ∧
      Wrote config r.generated m.disk (w.build config m).2.disk := by
  rw [build_of_none hget]
  cases hrun : run w.compiler config m with
  | mk outcome after =>
    cases outcome with
    | ok r => exact .inr ⟨r, rfl, run_ok_wrote hb hkind htree hrun⟩
    | error e => exact .inl ⟨e, rfl, run_error_keeps hb hkind htree hrun⟩

/-! ## Runs of builds -/

/-- One call of `build`. -/
structure Turn where
  config : Configuration
  /-- Whether the call was answered from the cache. -/
  answered : Bool
  outcome : Except Failure (Kept BuildResult)
  /-- The disk when the call returns. -/
  disk : Disk

/-- The call of `build` on a workbench and a machine. -/
def turn (w : Workbench) (config : Configuration) (m : Machine) : Turn where
  config := config
  answered := w.cache.contains config
  outcome := (w.build config m).1.1
  disk := (w.build config m).2.disk

/-- The calls of `build` one after the other on a fresh workbench, with nothing else at work. -/
inductive Built (c : Compiler) (start : Machine) : List Turn → Workbench → Machine → Prop
  | fresh : Built c start [] (ofCompiler c) start
  | build {turns : List Turn} {w : Workbench} {m : Machine} (config : Configuration) :
      Built c start turns w m →
      Built c start (turns ++ [w.turn config m]) (w.build config m).1.2 (w.build config m).2

/-- A call that does not write a place: it is answered from the cache, it fails, it embeds, or its
output path leads somewhere else. -/
def Turn.Spares (place : Location) (t : Turn) : Prop :=
  t.answered = true ∨ (∃ e, t.outcome = .error e) ∨ t.config.mode = .embed ∨
    ∃ other, t.disk.canonical? t.config.output = some other ∧ other ≠ place

/-- A call that spares a place keeps it. -/
theorem build_keeps_place (hb : w.compiler.backend.Quiet)
    (hkind : config.mode = .artifact → w.compiler.kinds.isArtifact config.output = true)
    (htree : m.disk.IsTree) {place : Location} (hspares : (w.turn config m).Spares place) :
    Keeps (· ≠ place) m.disk (w.build config m).2.disk := by
  cases hget : w.cache.get? config with
  | some kept =>
      rw [build_of_some hget]
      exact .refl _ _
  | none =>
      have hanswered : (w.turn config m).answered = false := by
        simp [turn, ResultCache.contains, hget]
      rcases build_of_none_wrote hb hkind htree hget with ⟨e, -, hkeeps⟩ | ⟨r, hok, hwrote⟩
      · exact hkeeps.anywhere
      · rcases hspares with hhit | ⟨e, hfails⟩ | hplace
        · cases hanswered.symm.trans hhit
        · rw [turn, hok] at hfails
          cases hfails
        · exact hwrote.spares hplace

/-- A call keeps a tree a tree. -/
theorem build_tree (hb : w.compiler.backend.Quiet)
    (hkind : config.mode = .artifact → w.compiler.kinds.isArtifact config.output = true)
    (htree : m.disk.IsTree) : (w.build config m).2.disk.IsTree := by
  cases hget : w.cache.get? config with
  | some kept =>
      rw [build_of_some hget]
      exact htree
  | none =>
      rcases build_of_none_wrote hb hkind htree hget with ⟨e, -, hkeeps⟩ | ⟨r, -, hwrote⟩
      · exact hkeeps.tree htree
      · exact hwrote.keeps.tree htree

/-! ## Where kept results come from -/

/-- The call that made a result, and what it delivered in `source` mode. -/
structure Turn.Made (t : Turn) (key : Configuration) (kept : Kept BuildResult) : Prop where
  config : t.config = key
  answered : t.answered = false
  outcome : t.outcome = .ok kept
  delivered : key.mode = .source → ∃ place runnable, t.disk.find key.output true =
    .ok (.present place (.file kept.result.generated.toUTF8 runnable))

/-- A call that is not answered from the cache has made its result itself. -/
theorem made_of_build {r : BuildResult} (hget : w.cache.get? config = none)
    (hresult : (w.build config m).1 =
      (.ok ⟨w.cache.miss.misses, r⟩, { w with cache := w.cache.miss.keep config r }))
    (hwrote : Wrote config r.generated m.disk (w.build config m).2.disk) :
    (w.turn config m).Made config ⟨w.cache.miss.misses, r⟩ where
  config := rfl
  answered := by simp [turn, ResultCache.contains, hget]
  outcome := congrArg Prod.fst hresult
  delivered := by
    intro hmode
    cases hwrote with
    | nothing hother => cases hmode.symm.trans hother
    | artifact _ hother => cases hmode.symm.trans hother
    | source place runnable _ _ hfind => exact ⟨place, runnable, hfind⟩

/-- What is known of a workbench and a machine after some calls: each kept result was made by a
call, and the places that later calls spare are as that call left them. -/
structure Known (turns : List Turn) (w : Workbench) (m : Machine) : Prop where
  tree : m.disk.IsTree
  origin : ∀ key kept, (key, kept) ∈ w.cache.entries →
    ∃ earlier origin since, turns = earlier ++ origin :: since ∧ origin.Made key kept ∧
      ∀ place, (∀ u ∈ since, u.Spares place) → Keeps (· ≠ place) origin.disk m.disk

/-- What was known of the kept results is known after one more call. -/
theorem Known.later {turns : List Turn} (h : Known turns w m) {t : Turn} {d : Disk}
    (hstep : ∀ place, t.Spares place → Keeps (· ≠ place) m.disk d) {key : Configuration}
    {kept : Kept BuildResult} (hentry : (key, kept) ∈ w.cache.entries) :
    ∃ earlier origin since, turns ++ [t] = earlier ++ origin :: since ∧ origin.Made key kept ∧
      ∀ place, (∀ u ∈ since, u.Spares place) → Keeps (· ≠ place) origin.disk d := by
  obtain ⟨earlier, origin, since, rfl, hmade, hkeeps⟩ := h.origin key kept hentry
  refine ⟨earlier, origin, since ++ [t], by simp, hmade, ?_⟩
  intro place hspares
  have hsince := hkeeps place fun u hu => hspares u (List.mem_append_left _ hu)
  exact hsince.trans (hstep place (hspares t (by simp)))

theorem Known.build {turns : List Turn} (h : Known turns w m) (hb : w.compiler.backend.Quiet)
    (hkind : config.mode = .artifact → w.compiler.kinds.isArtifact config.output = true) :
    Known (turns ++ [w.turn config m]) (w.build config m).1.2 (w.build config m).2 where
  tree := build_tree hb hkind h.tree
  origin := by
    intro key kept hentry
    have hstep : ∀ place, (w.turn config m).Spares place →
        Keeps (· ≠ place) m.disk (w.build config m).2.disk :=
      fun _ hspares => build_keeps_place hb hkind h.tree hspares
    cases hget : w.cache.get? config with
    | some found =>
        have hentries : (w.build config m).1.2.cache.entries = w.cache.entries := by
          rw [build_of_some hget]
          rfl
        rw [hentries] at hentry
        exact h.later hstep hentry
    | none =>
        rcases build_of_none_wrote hb hkind h.tree hget with ⟨e, hresult, -⟩ | ⟨r, hresult, hwrote⟩
        · have hentries : (w.build config m).1.2.cache.entries = w.cache.entries := by
            rw [hresult]
            rfl
          rw [hentries] at hentry
          exact h.later hstep hentry
        · have hentries : (w.build config m).1.2.cache.entries =
              w.cache.entries ++ [(config, ⟨w.cache.miss.misses, r⟩)] := by
            rw [hresult]
            rfl
          rw [hentries] at hentry
          rcases List.mem_append.mp hentry with hold | hnew
          · exact h.later hstep hold
          · -- The result that has just been made: nothing has happened since.
            rw [List.mem_singleton] at hnew
            cases hnew
            exact ⟨turns, w.turn config m, [], rfl, made_of_build hget hresult hwrote,
              fun place _ => .refl _ _⟩

theorem Built.compiler {start : Machine} {turns : List Turn} (h : Built c start turns w m) :
    w.compiler = c := by
  induction h with
  | fresh => rfl
  | build config _ ih => exact (build_compiler _ config _).trans ih

theorem Built.known {start : Machine} {turns : List Turn} (hb : c.backend.Quiet)
    (htree : start.disk.IsTree)
    (hkinds : ∀ u ∈ turns, u.config.mode = .artifact → c.kinds.isArtifact u.config.output = true)
    (h : Built c start turns w m) : Known turns w m := by
  induction h with
  | fresh => exact ⟨htree, by simp [ofCompiler, ResultCache.empty]⟩
  | @build turns w m config hbuilt ih =>
      have hknown := ih fun u hu => hkinds u (List.mem_append_left _ hu)
      have hcompiler := hbuilt.compiler
      refine hknown.build (hcompiler ▸ hb) ?_
      rw [hcompiler]
      exact hkinds (w.turn config m) (by simp)

/-! ## What is at an output path -/

/-- What a call has delivered in `source` mode is read as long as its place is kept. -/
theorem Turn.Made.reads {t : Turn} {key : Configuration} {kept : Kept BuildResult}
    (h : t.Made key kept) (hmode : key.mode = .source) :
    ∃ place, t.disk.canonical? t.config.output = some place ∧
      ∀ d, Keeps (· ≠ place) t.disk d →
        d.readBytes t.config.output = .ok kept.result.generated.toUTF8 ∧
        ∀ p, t.config.output.same p = true → ∀ bytes, d.readBytes p = .ok bytes →
          bytes = kept.result.generated.toUTF8 := by
  obtain ⟨place, runnable, hfind⟩ := h.delivered hmode
  rw [← h.config] at hfind
  refine ⟨place, canonical?_of_find hfind, ?_⟩
  intro d hkeeps
  have hkept := hkeeps.find_kept hfind (by simp)
  refine ⟨readBytes_of_find hkept, ?_⟩
  intro p hsame bytes hread
  obtain ⟨place', runnable', hfind'⟩ := find_of_readBytes hread
  obtain rfl := place_eq_of_same hsame hkept hfind'
  have hentry := (get?_of_find hkept).symm.trans (get?_of_find hfind')
  injection hentry with hfile
  injection hfile with hbytes
  exact hbytes.symm

/-- What a call that is answered from the cache finds at its output path. -/
theorem Known.served {turns : List Turn} {kept : Kept BuildResult} (h : Known turns w m)
    (hget : w.cache.get? config = some kept) (hmode : config.mode = .source) :
    ∃ earlier origin since place, turns = earlier ++ origin :: since ∧
      origin.answered = false ∧ origin.config.same config = true ∧ origin.outcome = .ok kept ∧
      origin.disk.canonical? origin.config.output = some place ∧
      ((∀ u ∈ since, u.Spares place) →
        m.disk.readBytes origin.config.output = .ok kept.result.generated.toUTF8 ∧
        ∀ bytes, m.disk.readBytes config.output = .ok bytes →
          bytes = kept.result.generated.toUTF8) := by
  obtain ⟨key, hentry, hsame⟩ := ResultCache.get?_some hget
  obtain ⟨earlier, origin, since, hturns, hmade, hkeeps⟩ := h.origin key kept hentry
  obtain ⟨place, hplace, hreads⟩ := hmade.reads ((Configuration.same_mode hsame).trans hmode)
  have hclass : origin.config.same config = true := by
    rw [hmade.config]
    exact hsame
  refine ⟨earlier, origin, since, place, hturns, hmade.answered, hclass, hmade.outcome, hplace, ?_⟩
  intro hspares
  obtain ⟨hread, hother⟩ := hreads m.disk (hkeeps place hspares)
  exact ⟨hread, hother config.output (Configuration.same_output hclass)⟩

/-- **What `source` mode leaves at the output path.** Take a backend that only adds, and calls of
`build` on a fresh workbench with nothing else at work on the disk. Where the last call hands out a
result in `source` mode, one of the calls has made this result, for a configuration of the class,
and its output path led to some place then. If the calls since then have spared the place, its path
still holds the bytes of the generated text, and so does the path of the last call, if it can be
read. A call that is not answered from the cache has made its result itself. -/
theorem output_of_built {start : Machine} {turns : List Turn} {t : Turn} {kept : Kept BuildResult}
    (hb : c.backend.Quiet) (htree : start.disk.IsTree)
    (hkinds : ∀ u ∈ turns ++ [t],
      u.config.mode = .artifact → c.kinds.isArtifact u.config.output = true)
    (h : Built c start (turns ++ [t]) w m) (hok : t.outcome = .ok kept)
    (hmode : t.config.mode = .source) :
    ∃ earlier origin since place, turns ++ [t] = earlier ++ origin :: since ∧
      origin.answered = false ∧ origin.config.same t.config = true ∧ origin.outcome = .ok kept ∧
      (t.answered = false → since = []) ∧
      origin.disk.canonical? origin.config.output = some place ∧
      ((∀ u ∈ since, u.Spares place) →
        t.disk.readBytes origin.config.output = .ok kept.result.generated.toUTF8 ∧
        ∀ bytes, t.disk.readBytes t.config.output = .ok bytes →
          bytes = kept.result.generated.toUTF8) := by
  generalize hall : turns ++ [t] = all at h
  cases h with
  | fresh => exact absurd hall (by simp)
  | @build before w m config hbuilt =>
    obtain ⟨rfl, hlast⟩ := List.append_inj' hall rfl
    obtain rfl : t = w.turn config m := List.singleton_inj.mp hlast
    have hknown := hbuilt.known hb htree fun u hu => hkinds u (List.mem_append_left _ hu)
    have hcompiler := hbuilt.compiler
    have hkind : config.mode = .artifact → w.compiler.kinds.isArtifact config.output = true := by
      rw [hcompiler]
      exact hkinds (w.turn config m) (by simp)
    cases hget : w.cache.get? config with
    | some found =>
      have hbuild := build_of_some (m := m) hget
      obtain rfl : found = kept := by
        rw [turn, hbuild] at hok
        exact Except.ok.inj hok
      have hdisk : (w.turn config m).disk = m.disk := by
        rw [turn, hbuild]
        rfl
      obtain ⟨earlier, origin, since, place, hbefore, hanswered, hclass, houtcome, hplace,
        hreads⟩ := hknown.served hget hmode
      refine ⟨earlier, origin, since ++ [w.turn config m], place, by simp [hbefore], hanswered,
        hclass, houtcome, ?_, hplace, ?_⟩
      · intro hbuilds
        simp [turn, ResultCache.contains, hget] at hbuilds
      · intro hspares
        rw [hdisk]
        exact hreads fun u hu => hspares u (List.mem_append_left _ hu)
    | none =>
      rcases build_of_none_wrote (hcompiler ▸ hb) hkind hknown.tree hget with
        ⟨e, hresult, -⟩ | ⟨r, hresult, hwrote⟩
      · rw [turn, hresult] at hok
        cases hok
      · have hmade := made_of_build hget hresult hwrote
        obtain rfl : _ = kept := Except.ok.inj (hmade.outcome.symm.trans hok)
        obtain ⟨place, hplace, hreads⟩ := hmade.reads hmode
        obtain ⟨hread, hother⟩ := hreads _ (.refl _ _)
        exact ⟨turns, w.turn config m, [], place, rfl, hmade.answered,
          Configuration.same_refl config, hok, fun _ => rfl, hplace,
          fun _ => ⟨hread, hother config.output (FilePath.same_refl _)⟩⟩

/-! ## The echo writes its flags -/

/-- A fresh workbench with the echo. -/
def echoBench : Workbench := ofCompiler ⟨echoBackend, [], .standard⟩

/-- The request to write a flag to a file in the home directory. -/
def flagFile (flag : String) : Configuration := echoing [flag] .source ⟨"o.src"⟩

/-- A disk without files. -/
def bareDisk : Disk := ⟨[], [], ⟨"/tmp"⟩⟩

theorem echo_quiet : echoBackend.Quiet where
  memory := fun _ _ _ => .refl _ _
  file := fun _ _ _ _ _ => .refl _ _
  calls := fun request m output after module hanswer hmodule f hf values n =>
    (echo_behaves (Act.preserves_compositional (Keeps nowhere n.disk))).calls request m output after
      module hanswer hmodule f hf values n (.refl _ _)

theorem bareDisk_isTree : bareDisk.IsTree := by
  intro place name e h
  rw [get?, if_neg (by simp)] at h
  cases h

/-- The file in the home directory can be written, if it is a file or nothing is there. -/
theorem exists_writeFile_flagFile {d : Disk} (hhome : d.home = [])
    (h : d.get? ["o.src"] = none ∨ ∃ old runnable, d.get? ["o.src"] = some (.file old runnable))
    (content : ByteArray) :
    ∃ runnable, d.writeFile ⟨"o.src"⟩ content = .ok (d.set ["o.src"] (.file content runnable)) := by
  have hsay : Sayable ⟨"o.src"⟩ := ⟨by decide, by decide, by decide⟩
  have hpieces : piecesOf "o.src" = ["o.src"] := by decide
  have hname : IsName "o.src" := ⟨⟨by decide, by decide⟩, by decide⟩
  have hstart : d.start ⟨"o.src"⟩ = [] := by
    rw [start, hhome]
    split <;> rfl
  rcases h with hfree | ⟨old, runnable, hfile⟩
  · refine ⟨false, ?_⟩
    have hfind : d.find ⟨"o.src"⟩ true = .ok (.absent [] "o.src" false) := by
      rw [find_ok_iff, hpieces, hstart]
      exact ⟨hsay, .free rfl hname hfree rfl⟩
    unfold writeFile
    rw [hfind]
    rfl
  · refine ⟨runnable, ?_⟩
    have hfind : d.find ⟨"o.src"⟩ true = .ok (.present ["o.src"] (.file old runnable)) := by
      rw [find_ok_iff, hpieces, hstart]
      exact ⟨hsay, .step rfl hname hfile (by simp) (.stop hfile)⟩
    unfold writeFile
    rw [hfind]

/-- The home directory is there. -/
theorem makeParent_home (d : Disk) : d.makeParent ⟨"o.src"⟩ = .ok d := by
  have hparent : (⟨"o.src"⟩ : FilePath).parent? = some ⟨""⟩ := by decide
  unfold makeParent attemptParent
  rw [hparent]
  rfl

/-- A build of the echo that is not answered from the cache writes its flag. -/
theorem echo_build (flag : String) (d : Disk) {d' : Disk} (hw : w.compiler = echoBench.compiler)
    (hget : w.cache.get? (flagFile flag) = none) (hm : m.disk = d)
    (htext : (echoBench.generate (flagFile flag) (.ofDisk d)).1.toOption = some flag)
    (hwrite : d.writeFile ⟨"o.src"⟩ flag.toUTF8 = .ok d') :
    ∃ r, r.generated = flag ∧ (w.build (flagFile flag) m).1 =
        (.ok ⟨w.cache.miss.misses, r⟩, { w with cache := w.cache.miss.keep (flagFile flag) r }) ∧
      (w.build (flagFile flag) m).2.disk = d' := by
  have hb : ∀ {Q : ∀ {α : Type}, StateM Machine α → Prop}, Act.Compositional Q →
      w.compiler.backend.Behaves Q := by
    intro Q hQ
    rw [hw]
    exact echo_behaves hQ
  have hgenerate : w.generate (flagFile flag) = echoBench.generate (flagFile flag) := by
    unfold generate
    rw [hw]
  have hblind := Act.blind_compositional.generate (hb Act.blind_compositional) (flagFile flag)
  have hdisk := (Act.preserves_compositional (· = d)).generate
    (hb (Act.preserves_compositional (· = d))) (flagFile flag) m hm
  cases hbench : echoBench.generate (flagFile flag) (.ofDisk d) with
  | mk text after =>
    rw [hbench] at htext
    cases text with
    | error e => cases htext
    | ok text =>
      obtain rfl : text = flag := Option.some.inj htext
      rw [← hgenerate] at hbench
      obtain ⟨after', hafter, -⟩ := hblind.transfer (n := m) (by rw [hm]; rfl) hbench
      rw [hafter] at hdisk
      refine build_source hget (hb Act.blind_compositional) rfl hafter (d := d) ?_ hwrite
      rw [hdisk]
      exact makeParent_home d

/-- Asked again, the bench answers from the cache, and the file still holds the flag. -/
theorem output_of_repeated_build :
    let first := echoBench.build (flagFile "a") (.ofDisk bareDisk)
    let second := first.1.2.build (flagFile "a") first.2
    ∃ kept, second.1.1 = .ok kept ∧ kept.result.generated = "a" ∧
      second.2.disk.readBytes ⟨"o.src"⟩ = .ok "a".toUTF8 := by
  intro first second
  obtain ⟨_, hwrite⟩ := exists_writeFile_flagFile (d := bareDisk) rfl (.inl rfl) "a".toUTF8
  obtain ⟨r, hgenerated, hfirst, -⟩ := echo_build (w := echoBench) (m := .ofDisk bareDisk) "a"
    bareDisk rfl rfl rfl (by decide +kernel) hwrite
  have hget : first.1.2.cache.get? (flagFile "a") = some ⟨1, r⟩ := by
    show (echoBench.build (flagFile "a") (.ofDisk bareDisk)).1.2.cache.get? (flagFile "a") = _
    rw [hfirst, ResultCache.get?_keep, if_pos (Configuration.same_refl _)]
    rfl
  have hsecond : second = _ := build_of_some (m := first.2) hget
  have hbuilt : Built echoBench.compiler (.ofDisk bareDisk)
      ([echoBench.turn (flagFile "a") (.ofDisk bareDisk)] ++
        [first.1.2.turn (flagFile "a") first.2]) second.1.2 second.2 :=
    .build _ (.build _ .fresh)
  have hok : (first.1.2.turn (flagFile "a") first.2).outcome = .ok ⟨1, r⟩ := by
    show second.1.1 = _
    rw [hsecond]
  have hhit : (first.1.2.turn (flagFile "a") first.2).answered = true := by
    show first.1.2.cache.contains (flagFile "a") = true
    rw [ResultCache.contains, hget]
    rfl
  have hkinds : ∀ u ∈ [echoBench.turn (flagFile "a") (.ofDisk bareDisk)] ++
      [first.1.2.turn (flagFile "a") first.2],
      u.config.mode = .artifact → echoBench.compiler.kinds.isArtifact u.config.output = true := by
    intro u hu hmode
    rcases List.mem_append.mp hu with hu | hu <;> cases List.mem_singleton.mp hu <;> cases hmode
  obtain ⟨earlier, origin, since, place, hturns, hmade, -, -, -, -, hreads⟩ :=
    output_of_built echo_quiet bareDisk_isTree hkinds hbuilt hok rfl
  -- The first of the two calls has made the result: the second one was answered.
  have hfirst : origin = echoBench.turn (flagFile "a") (.ofDisk bareDisk) ∧
      since = [first.1.2.turn (flagFile "a") first.2] := by
    cases earlier with
    | nil =>
        injection hturns with horigin hsince
        exact ⟨horigin.symm, hsince.symm⟩
    | cons other earlier =>
        injection hturns with _ hrest
        cases earlier with
        | nil =>
            injection hrest with horigin _
            rw [← horigin, hhit] at hmade
            cases hmade
        | cons another earlier =>
            injection hrest with _ hnil
            cases earlier <;> cases hnil
  obtain ⟨rfl, rfl⟩ := hfirst
  have hspares : ∀ u ∈ [first.1.2.turn (flagFile "a") first.2], u.Spares place := by
    intro u hu
    cases List.mem_singleton.mp hu
    exact .inl hhit
  refine ⟨⟨1, r⟩, hok, hgenerated, ?_⟩
  have hread := (hreads hspares).1
  rw [hgenerated] at hread
  exact hread

/-- With another build in between that writes the same file, the answer from the cache does not
bring the file back. -/
theorem stale_output_of_cached_build :
    let first := echoBench.build (flagFile "a") (.ofDisk bareDisk)
    let second := first.1.2.build (flagFile "b") first.2
    let third := second.1.2.build (flagFile "a") second.2
    ∃ kept, third.1.1 = .ok kept ∧ (flagFile "a").mode = .source ∧ kept.result.generated = "a" ∧
      third.2.disk.readBytes (flagFile "a").output = .ok "b".toUTF8 ∧
      third.2.disk.readBytes (flagFile "a").output ≠ .ok kept.result.generated.toUTF8 := by
  intro first second third
  obtain ⟨runnable, hwrite⟩ := exists_writeFile_flagFile (d := bareDisk) rfl (.inl rfl) "a".toUTF8
  obtain ⟨r, hgenerated, hfirst, hdisk⟩ := echo_build (w := echoBench) (m := .ofDisk bareDisk) "a"
    bareDisk rfl rfl rfl (by decide +kernel) hwrite
  have hfile : (bareDisk.set ["o.src"] (.file "a".toUTF8 runnable)).get? ["o.src"] =
      some (.file "a".toUTF8 runnable) := by
    rw [get?_set _ _ _ _ (by simp), if_pos rfl]
  obtain ⟨runnable', hwrite'⟩ :=
    exists_writeFile_flagFile (d := bareDisk.set ["o.src"] (.file "a".toUTF8 runnable)) rfl
      (.inr ⟨_, _, hfile⟩) "b".toUTF8
  have hbench : first.1.2 =
      { echoBench with cache := echoBench.cache.miss.keep (flagFile "a") r } :=
    congrArg Prod.snd hfirst
  have hother : (flagFile "a").same (flagFile "b") = false := by decide
  have hnone : first.1.2.cache.get? (flagFile "b") = none := by
    rw [hbench, ResultCache.get?_keep, hother]
    rfl
  obtain ⟨r', -, hsecond, hdisk'⟩ := echo_build (w := first.1.2) (m := first.2) "b"
    (bareDisk.set ["o.src"] (.file "a".toUTF8 runnable)) (by rw [hbench]) hnone hdisk
    (by cases runnable <;> decide +kernel) hwrite'
  have hget : second.1.2.cache.get? (flagFile "a") = some ⟨1, r⟩ := by
    have hcache : second.1.2.cache = first.1.2.cache.miss.keep (flagFile "b") r' :=
      congrArg (fun answer => answer.2.cache) hsecond
    rw [hcache, ResultCache.get?_keep, ResultCache.get?_miss, hbench, ResultCache.get?_keep,
      if_pos (Configuration.same_refl _)]
    rfl
  have hthird : third = _ := build_of_some (m := second.2) hget
  have hread : third.2.disk.readBytes (flagFile "a").output = .ok "b".toUTF8 := by
    obtain ⟨place, _, -, hfind, -⟩ := writeFile_ok hwrite'
    rw [hthird]
    show second.2.disk.readBytes _ = _
    rw [hdisk']
    exact readBytes_of_find hfind
  refine ⟨⟨1, r⟩, by rw [hthird], rfl, hgenerated, hread, ?_⟩
  rw [hread, hgenerated]
  intro hsame
  have hbytes : "b".toUTF8 ≠ "a".toUTF8 := by decide
  exact hbytes (Except.ok.inj hsame)

end Expansion.Workbench
