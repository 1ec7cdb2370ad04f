import Expansion.Proofs.Disk.Parent
import Expansion.Proofs.Disk.Repeats
import Expansion.Proofs.Workbench.Regeneration

/-!
# Builds that are done again

A build that succeeded succeeds on every later disk with the same result, if the backend goes by its
request and the files that the request names (`Backend.Functional`), these files read the same, and
the output is there.

Each step of the build has a lemma that says so: a scratch directory
(`Act.withScratchDirectory_again`), a compilation (`compile_again`, `compileWithGenerated_again`), a
delivery (`deliver_again`), and **the whole run (`run_again`)**.
-/

namespace Expansion

open Disk

/-- A backend that goes by the request and by what the files hold that the request names, and changes
no file but the artifact that it is asked for. What it leaves where there was nothing does not depend
on the rest of the disk either. -/
structure Backend.Functional (b : Backend) : Prop where
  quiet : b.Quiet
  tidy : b.Tidy
  determined : b.Determined
  file : ∀ request p parent name m n, request.target = .file p →
    m.disk.find p true = .ok (.absent parent name false) →
    n.disk.find p true = .ok (.absent parent name false) →
    (∀ q ∈ request.sources ++ request.references, m.disk.content? q = n.disk.content? q) →
    (b request m).1 = (b request n).1 ∧
      (b request m).2.disk.get? (parent ++ [name]) = (b request n).2.disk.get? (parent ++ [name])

/-! ## Scratch directories -/

namespace Act

variable {α : Type} {m m' n : Machine} {files : List FilePath} {work : FilePath → Act α} {a : α}

/-- Work with a scratch directory that succeeded gets the same directory on a later disk. -/
theorem withScratchDirectory_again (hrep : Repeats files m.disk n.disk) (htree : m.disk.IsTree)
    (h : withScratchDirectory "typexpand-" work m = (.ok a, m')) :
    ∃ p place l r after, Opened m.disk l.disk p place ∧ Opened n.disk r.disk p place ∧
      Repeats files l.disk r.disk ∧ work p l = (.ok a, after) ∧
      (∀ written, Keeps written l.disk after.disk → m'.disk = after.disk.eraseTree place) ∧
      ∀ b after' written, work p r = (.ok b, after') → Keeps written r.disk after'.disk →
        ∃ n', withScratchDirectory "typexpand-" work n = (.ok b, n') ∧
          n'.disk = after'.disk.eraseTree place := by
  cases hmake : m.disk.makeDirectory (m.disk.freshScratch "typexpand-" "") with
  | error error =>
      obtain ⟨d, between, hdisk, h⟩ := bind_ok h
      cases hdisk
      rw [bind_of_error (onDisk_of_error hmake)] at h
      exact absurd (congrArg Prod.fst h) (by simp)
  | ok d =>
      obtain ⟨place, d', hfresh, hmake', hopened, hopened', hrep'⟩ := hrep.opened htree hmake
      obtain ⟨place₁, hopened₁, hanswer, hdone⟩ :=
        withScratchDirectory_of_made htree plainStem_typexpand hmake work
      rw [← hfresh] at hmake'
      obtain ⟨place₂, hopened₂, hanswer', hdone'⟩ :=
        withScratchDirectory_of_made (hrep.keeps.tree htree) plainStem_typexpand hmake' work
      obtain rfl := hopened₁.place_eq hopened.made hopened.ne_top hopened.free
      obtain rfl := hopened₂.place_eq hopened'.made hopened'.ne_top hopened'.free
      rw [hfresh] at hanswer' hdone'
      rw [h] at hanswer hdone
      refine ⟨m.disk.freshScratch "typexpand-" "", place₂, { m with disk := d },
        { n with disk := d' }, (work (m.disk.freshScratch "typexpand-" "") { m with disk := d }).2,
        hopened, hopened', hrep', Prod.ext hanswer.symm rfl, hdone, ?_⟩
      intro b after' written hwork hkeeps
      rw [hwork] at hanswer' hdone'
      exact ⟨(withScratchDirectory "typexpand-" work n).2, Prod.ext hanswer' rfl,
        hdone' written hkeeps⟩

end Act

namespace Compiler

variable {c : Compiler} {config : Configuration} {text : String} {scratch module : Module}
variable {m m' n : Machine} {target : CompileTarget} {sources references : List FilePath}
variable {flags : List String} {files : List FilePath}

/-! ## Compilations -/

theorem accept_file (answered : Module) (p : FilePath) (m : Machine) :
    accept (.file p) (some answered) m =
      if m.disk.isFile p then
        (.ok (if answered.location.isSome then answered else answered.locatedAt p), m)
      else
        (.error (.compilationMessage
          ("compiler reported success but wrote no artifact at " ++ p.text)), m) := by
  unfold accept
  dsimp only
  rw [Act.bind_of_ok (Act.disk_apply m)]
  split <;> rfl

/-- A module that is accepted is accepted wherever its artifact is there. -/
theorem accept_again {module? : Option Module} (h : accept target module? m = (.ok module, m')) :
    (∀ p, target = .file p → m.disk.isFile p = true) ∧
      ∀ n : Machine, (∀ p, target = .file p → n.disk.isFile p = true) →
        (accept target module? n).1 = .ok module := by
  cases module? with
  | none => exact absurd (congrArg Prod.fst h) (by simp [accept])
  | some answered =>
      cases target with
      | memory => exact ⟨(fun p hp => by cases hp), fun n _ => congrArg Prod.fst h⟩
      | file p =>
          rw [accept_file] at h
          split at h
          · rename_i hthere
            refine ⟨?_, ?_⟩
            · rintro _ ⟨⟩
              exact hthere
            · intro n hn
              rw [accept_file, if_pos (hn p rfl)]
              exact congrArg Prod.fst h
          · exact absurd (congrArg Prod.fst h) (by simp)

/-- Discarding warnings leaves the disk alone, and errors and modules do not depend on it. -/
theorem settle_eq (target : CompileTarget) (output : CompileOutput) (m : Machine) :
    ∃ between : Machine, between.disk = m.disk ∧ settle target output m =
      (match output.diagnostics.filter Diagnostic.isError with
        | [] => accept target output.module?
        | errors => Act.fail (.compilation errors)) between := by
  obtain ⟨between, hdone, hdisk⟩ := Act.forM_of_ok (f := discard) (fun _ _ => ⟨_, rfl, rfl⟩)
    (output.diagnostics.filter fun d => !d.isError) m
  exact ⟨between, hdisk, Act.bind_of_ok hdone⟩

theorem settle_again {output : CompileOutput} (h : settle target output m = (.ok module, m')) :
    (∀ p, target = .file p → m.disk.isFile p = true) ∧
      ∀ n : Machine, (∀ p, target = .file p → n.disk.isFile p = true) →
        (settle target output n).1 = .ok module := by
  obtain ⟨between, hdisk, hjudge⟩ := settle_eq target output m
  rw [hjudge] at h
  cases herrors : output.diagnostics.filter Diagnostic.isError with
  | cons first others =>
      rw [herrors] at h
      exact absurd (congrArg Prod.fst h) (by simp)
  | nil =>
      rw [herrors] at h
      obtain ⟨hthere, hagain⟩ := accept_again h
      rw [hdisk] at hthere
      refine ⟨hthere, ?_⟩
      intro n hn
      obtain ⟨between', hdisk', hjudge'⟩ := settle_eq target output n
      rw [hjudge', herrors]
      exact hagain between' (by rwa [hdisk'])

theorem leadsSomewhere_of_absent {d : Disk} {p : FilePath} {parent : Location} {name : String}
    {slash : Bool} (h : d.find p true = .ok (.absent parent name slash)) :
    d.leadsSomewhere p = false := by
  unfold leadsSomewhere
  rw [h]

/-- What a backend leaves where there was nothing. -/
theorem backend_again {request : CompileRequest} {p : FilePath} {parent : Location} {name : String}
    {output : CompileOutput} {after : Machine} (hb : c.backend.Functional)
    (hkeeps : Keeps (fun _ => True) m.disk n.disk) (htree : m.disk.IsTree)
    (htarget : request.target = .file p) (hm : m.disk.find p true = .ok (.absent parent name false))
    (hn : n.disk.find p true = .ok (.absent parent name false))
    (hfiles : ∀ q ∈ request.sources ++ request.references, m.disk.content? q = n.disk.content? q)
    (h : c.backend request m = (.ok output, after)) (hthere : after.disk.isFile p = true) :
    ∃ after', c.backend request n = (.ok output, after') ∧
      Keeps (fun _ => True) after.disk after'.disk := by
  obtain ⟨hanswer, hroot⟩ := hb.file request p parent name m n htarget hm hn hfiles
  have hwithin : ∀ {d : Disk}, d.find p true = .ok (.absent parent name false) →
      ∀ q, d.Within p q → parent ++ [name] <+: q := by
    intro d hfind q hq
    cases hq with
    | there hother _ => cases hfind.symm.trans hother
    | free hother hprefix =>
        cases hfind.symm.trans hother
        exact hprefix
  have hadds := hb.quiet.file request p m htarget (leadsSomewhere_of_absent hm)
  have hleft := (hb.tidy.file request p m htarget htree).weaken (hwithin hm)
  have hright := (hb.tidy.file request p n htarget (hkeeps.tree htree)).weaken (hwithin hn)
  rw [h] at hanswer hroot hadds hleft
  -- Something was written, and it is no directory, for the path leads to a file.
  have hentry : ∃ entry, after.disk.get? (parent ++ [name]) = some entry ∧ entry ≠ .directory := by
    obtain ⟨place, content, runnable, hfind⟩ := isFile_iff.mp hthere
    cases hget : after.disk.get? (parent ++ [name]) with
    | none => cases hfind.symm.trans (hadds.find_absent hm hget)
    | some entry =>
        refine ⟨entry, rfl, ?_⟩
        rintro rfl
        cases hfind.symm.trans (hadds.find_filled hm hget (by simp) (by simp))
  obtain ⟨entry, hget, hfile⟩ := hentry
  refine ⟨(c.backend request n).2, Prod.ext hanswer.symm rfl, ?_⟩
  exact hkeeps.written_both hleft hright hget (hroot ▸ hget) hfile (hleft.tree htree)
    (hright.tree (hkeeps.tree htree))

/-- A compilation that succeeded succeeds again where the files of its request read the same. -/
theorem compile_again (hb : c.backend.Functional) (hkeeps : Keeps (fun _ => True) m.disk n.disk)
    (htree : m.disk.IsTree)
    (hfiles : ∀ p ∈ sources ++ mergeReferences c.baseline references,
      n.disk.content? p = m.disk.content? p)
    (hfree : ∀ p, target = .file p → ∃ parent name,
      m.disk.find p true = .ok (.absent parent name false) ∧
        n.disk.find p true = .ok (.absent parent name false))
    (h : c.compile sources references flags target m = (.ok module, m')) :
    ∃ n', c.compile sources references flags target n = (.ok module, n') ∧
      Keeps (fun _ => True) m'.disk n'.disk := by
  rw [compile_apply] at h ⊢
  obtain ⟨output, after, hanswer, hsettle⟩ := Act.bind_ok h
  obtain ⟨hthere, hagain⟩ := settle_again hsettle
  have hsame : ∀ p ∈ sources ++ mergeReferences c.baseline references,
      m.disk.content? p = n.disk.content? p := fun p hp => (hfiles p hp).symm
  have hbackend : ∃ after', c.backend (c.requestOf sources references flags target)
      (sent (c.requestOf sources references flags target) n) = (.ok output, after') ∧
      Keeps (fun _ => True) after.disk after'.disk := by
    cases target with
    | memory =>
        let request := c.requestOf sources references flags .memory
        have hfst := hb.determined.memory request (sent request m) (sent request n) rfl hsame
        have hleft := hb.tidy.memory request rfl (sent request m) htree
        have hright := hb.tidy.memory request rfl (sent request n) (hkeeps.tree htree)
        rw [hanswer] at hfst hleft
        exact ⟨(c.backend request (sent request n)).2, Prod.ext hfst.symm rfl,
          (hleft.symm.keeps_nowhere.anywhere.trans hkeeps).trans hright.keeps_nowhere.anywhere⟩
    | file p =>
        obtain ⟨parent, name, hm, hn⟩ := hfree p rfl
        exact backend_again (m := sent _ m) (n := sent _ n) hb hkeeps htree rfl hm hn hsame hanswer
          (hthere p rfl)
  obtain ⟨after', hanswer', hkeeps'⟩ := hbackend
  have hresult := hagain after' fun p hp => hkeeps'.isFile (hthere p hp)
  rw [Act.bind_of_ok hanswer']
  refine ⟨(settle target output after').2, Prod.ext hresult rfl, ?_⟩
  have hdisk := settle_disk target output after
  rw [hsettle] at hdisk
  rw [settle_disk, hdisk]
  exact hkeeps'

theorem compile_keeps_of_eq (hb : c.backend.Quiet)
    (hfree : ∀ p, target = .file p → m.disk.leadsSomewhere p = false)
    (h : c.compile sources references flags target m = (.ok module, m')) :
    Keeps nowhere m.disk m'.disk := by
  have hkeeps : Keeps nowhere m.disk (c.compile sources references flags target m).2.disk :=
    compile_keeps hb hfree
  rwa [h] at hkeeps

/-- So does a compilation with generated text, which gets the same scratch file. -/
theorem compileWithGenerated_again (hb : c.backend.Functional)
    (hrep : Repeats (sources ++ mergeReferences c.baseline references) m.disk n.disk)
    (htree : m.disk.IsTree)
    (hfree : ∀ d d', Staged m.disk d → Staged n.disk d' → ∀ p, target = .file p →
      ∃ parent name, d.find p true = .ok (.absent parent name false) ∧
        d'.find p true = .ok (.absent parent name false))
    (h : c.compileWithGenerated sources text references flags target m = (.ok module, m')) :
    ∃ n', c.compileWithGenerated sources text references flags target n = (.ok module, n') ∧
      Keeps (fun _ => True) m'.disk n'.disk := by
  unfold compileWithGenerated at h ⊢
  split at h
  · rename_i hempty
    rw [if_pos hempty]
    exact compile_again hb hrep.keeps htree (fun p hp => hrep.content?_eq hp)
      (hfree _ _ (.inl rfl) (.inl rfl)) h
  · rename_i htext
    rw [if_neg htext]
    obtain ⟨directory, place, l, r, after, hopened, hopened', hrep', hwork, hdone, hagain⟩ :=
      Act.withScratchDirectory_again hrep htree h
    obtain ⟨piece, rest, hname, hplain⟩ := exists_plain_generated c.kinds
    obtain ⟨_, between, hwrite, hcompile⟩ := Act.bind_ok hwork
    obtain ⟨d, hd, rfl⟩ := Act.onDisk_ok hwrite
    have htree' := hopened'.keeps.tree (hrep.keeps.tree htree)
    obtain ⟨d', hd', hstaged, hstaged', hnew, hnew', hkeeps, hcontents⟩ :=
      hrep.filled htree' hopened hopened' hrep'.keeps hname hplain hd
    have hvacant : ∀ p, target = .file p → d.leadsSomewhere p = false ∧
        d'.leadsSomewhere p = false := by
      intro p hp
      obtain ⟨parent, name, hfind, hfind'⟩ := hfree d d' hstaged hstaged' p hp
      exact ⟨leadsSomewhere_of_absent hfind, leadsSomewhere_of_absent hfind'⟩
    obtain ⟨after', hcompile', hkeeps'⟩ := compile_again (m := { l with disk := d })
      (n := { r with disk := d' }) hb hkeeps (hstaged.tree htree) (by
        intro p hp
        rw [List.mem_append, List.mem_append] at hp
        refine hcontents p ?_
        rw [List.mem_append, List.mem_append]
        exact or_right_comm.mp hp) (hfree d d' hstaged hstaged') hcompile
    have hadds := compile_keeps_of_eq hb.quiet (fun p hp => (hvacant p hp).1) hcompile
    have hadds' := compile_keeps_of_eq hb.quiet (fun p hp => (hvacant p hp).2) hcompile'
    obtain ⟨n', hn', hdone'⟩ := hagain module after' nowhere
      ((Act.bind_of_ok (Act.onDisk_of_ok hd')).trans hcompile') (hnew'.trans hadds')
    refine ⟨n', hn', ?_⟩
    rw [hdone nowhere (hnew.trans hadds), hdone']
    exact hkeeps'.erase_both ((hnew'.trans hadds').tree htree') place

/-! ## Deliveries -/

/-- The artifact has a name that the operating system takes, and nothing is there while it is
compiled. -/
theorem artifact_absent {d d₁ d₂ e : Disk} {p : FilePath} {place : Location}
    (hkind : c.kinds.isArtifact config.output = true) (hopened : Opened d d₁ p place)
    (hstaged : Staged d₁ d₂) (hthere : e.isFile (p.child (artifactName config.output c.kinds)) = true) :
    d₂.find (p.child (artifactName config.output c.kinds)) true =
      .ok (.absent place (artifactName config.output c.kinds) false) := by
  obtain ⟨hslash, hplain⟩ := artifactName_plain hkind
  obtain ⟨_, _, _, hfind⟩ := isFile_iff.mp hthere
  obtain ⟨_, _, -, hlast⟩ := find_child (piecesOf_of_no_slash hslash) hplain hfind
  obtain ⟨hinside, hfree⟩ := hopened.staged hstaged (artifactName config.output c.kinds)
  exact find_child_free hslash (hlast.isName hplain) (find_ok_iff.mp hfind).1 hinside hfree

/-- An artifact that was delivered is delivered again, where the one that was delivered is still
there. -/
theorem artifactWork_again {d d' : Disk} {p : FilePath} {place : Location} {u : Unit}
    (hb : c.backend.Functional) (hkind : c.kinds.isArtifact config.output = true)
    (htree : d.IsTree) (htree' : d'.IsTree) (hopened : Opened d m.disk p place)
    (hopened' : Opened d' n.disk p place)
    (hrep : Repeats (config.sources.paths ++ mergeReferences c.baseline config.references)
      m.disk n.disk)
    (h : artifactWork c config text p m = (.ok u, m'))
    (hthere : (m'.disk.eraseTree place).isFile config.output = true)
    (hend : Keeps (fun _ => True) (m'.disk.eraseTree place) d') :
    ∃ n', artifactWork c config text p n = (.ok (), n') := by
  have hcompile := compileArtifact_keeps hb.quiet hkind htree hopened text
  have hcompile' := compileArtifact_keeps hb.quiet hkind htree' hopened' text
  obtain ⟨module, m₁, hmodule, h⟩ := Act.bind_ok h
  obtain ⟨_, _, hparent, h⟩ := Act.bind_ok h
  obtain ⟨_, _, hcopy, hannounce⟩ := Act.bind_ok h
  obtain ⟨made, hmade, rfl⟩ := Act.attempt_ok hparent
  obtain ⟨final, hfinal, rfl⟩ := Act.onDisk_ok hcopy
  cases hannounce
  have hsource := isFile_of_copyFile hfinal
  obtain ⟨n₁, hmodule', hkeeps⟩ := compileWithGenerated_again hb hrep (hopened.keeps.tree htree)
    (by
      rintro e e' hstaged hstaged' _ ⟨⟩
      exact ⟨place, _, artifact_absent hkind hopened hstaged hsource,
        artifact_absent hkind hopened' hstaged' hsource⟩) hmodule
  rw [hmodule] at hcompile
  rw [hmodule'] at hcompile'
  -- The directories that were made for the output are still there, so the artifact is found again.
  have hpaved := attemptParent_paved m₁.disk config.output
  rw [Attempt.complete_ok hmade] at hpaved
  obtain ⟨content, hwrite⟩ := copyFile_ok hfinal
  obtain ⟨_, _, -, -, hwritten⟩ := writeFile_ok hwrite
  have htreem := (hopened.keeps.trans hcompile).tree htree
  have hlater := hend.trans (hopened'.keeps.trans hcompile').anywhere
  have hmadeLater := hpaved.keeps_later hkeeps hwritten
    (hwritten.tree (hpaved.keeps.tree htreem)) hthere hlater (hkeeps.tree htreem)
  obtain ⟨d₂, hcopy'⟩ :=
    copyFile_of_isFile (hmadeLater.isFile hsource) (hlater.isFile hthere)
  have hparent' : Act.attempt none (fun d => d.attemptParent config.output) n₁ = (.ok (), n₁) :=
    Act.attempt_of_ok (makeParent_of_isFile (hlater.isFile hthere))
  have hcopied : Act.onDisk none (fun d => d.copyFile (p.child (artifactName config.output c.kinds))
      config.output) n₁ = (.ok (), { n₁ with disk := d₂ }) :=
    Act.onDisk_of_ok hcopy'
  unfold artifactWork
  rw [Act.bind_of_ok hmodule', Act.bind_of_ok hparent', Act.bind_of_ok hcopied]
  exact ⟨_, rfl⟩

theorem deliverArtifact_again {u : Unit} (hb : c.backend.Functional)
    (hkind : c.kinds.isArtifact config.output = true) (htree : m.disk.IsTree)
    (hrep : Repeats (config.sources.paths ++ mergeReferences c.baseline config.references)
      m.disk n.disk)
    (h : c.deliverArtifact config text m = (.ok u, m'))
    (hthere : m'.disk.isFile config.output = true)
    (hend : Keeps (fun _ => True) m'.disk n.disk) :
    ∃ n', c.deliverArtifact config text n = (.ok (), n') := by
  rw [deliverArtifact_eq] at h ⊢
  obtain ⟨directory, place, l, e, after, hopened, hopened', hrep', hwork, hdone, hagain⟩ :=
    Act.withScratchDirectory_again hrep htree h
  have htree' := hrep.keeps.tree htree
  obtain ⟨_, _, -, hkeeps⟩ := artifactWork_ok hb.quiet hkind htree hopened hwork
  rw [hdone _ hkeeps] at hthere hend
  obtain ⟨after', hwork'⟩ := artifactWork_again hb hkind htree htree' hopened hopened' hrep' hwork
    hthere hend
  obtain ⟨_, _, -, hkeeps'⟩ := artifactWork_ok hb.quiet hkind htree' hopened' hwork'
  obtain ⟨n', hartifact, -⟩ := hagain () after' _ hwork' hkeeps'
  exact ⟨n', hartifact⟩

/-- **A delivery that succeeded succeeds again**, where what it wrote is there. -/
theorem deliver_again {r : BuildResult} (hb : c.backend.Functional)
    (hkind : config.mode = .artifact → c.kinds.isArtifact config.output = true)
    (htree : m.disk.IsTree)
    (hrep : Repeats (config.sources.paths ++ mergeReferences c.baseline config.references)
      m.disk n.disk)
    (h : c.deliver config text scratch m = (.ok r, m'))
    (hthere : config.mode ≠ .embed → m'.disk.isFile config.output = true)
    (hend : Keeps (fun _ => True) m'.disk n.disk) :
    (c.deliver config text scratch n).1 = .ok r := by
  unfold deliver at h ⊢
  cases hmode : config.mode with
  | embed =>
      rw [hmode] at h
      obtain ⟨final, between, hmodule, hpure⟩ := Act.bind_ok h
      obtain ⟨n', hmodule', -⟩ := compileWithGenerated_again hb hrep htree
        (fun _ _ _ _ p hp => by cases hp) hmodule
      cases hpure
      dsimp only
      rw [Act.bind_of_ok (show c.deliverModule config text n = (.ok final, n') from hmodule')]
      rfl
  | artifact =>
      rw [hmode] at h
      obtain ⟨_, between, hartifact, hpure⟩ := Act.bind_ok h
      cases hpure
      obtain ⟨n', hartifact'⟩ := deliverArtifact_again hb (hkind hmode) htree hrep hartifact
        (hthere (by simp [hmode])) hend
      dsimp only
      rw [Act.bind_of_ok hartifact']
      rfl
  | source =>
      rw [hmode] at h
      obtain ⟨_, between, -, hpure⟩ := Act.bind_ok h
      cases hpure
      have hfile := hend.isFile (hthere (by simp [hmode]))
      obtain ⟨d', hwrite⟩ := writeFile_of_isFile hfile text.toUTF8
      obtain ⟨n', hdeliver, -⟩ := deliver_of_source c scratch hmode (makeParent_of_isFile hfile)
        hwrite
      unfold deliver at hdeliver
      rw [hmode] at hdeliver
      exact congrArg Prod.fst hdeliver

end Compiler

namespace Workbench

open Compiler

variable {c : Compiler} {config : Configuration} {m m' n : Machine}

/-! ## Runs -/

/-- **A build that succeeded gives the same result again**, on a later disk on which its files read
the same and what it wrote is there. -/
theorem run_again {r : BuildResult} (hb : c.backend.Functional)
    (hkind : config.mode = .artifact → c.kinds.isArtifact config.output = true)
    (htree : m.disk.IsTree)
    (hrep : Repeats (config.sources.paths ++ mergeReferences c.baseline config.references)
      m.disk n.disk)
    (h : run c config m = (.ok r, m'))
    (hthere : config.mode ≠ .embed → m'.disk.isFile config.output = true)
    (hend : Keeps (fun _ => True) m'.disk n.disk) : (run c config n).1 = .ok r := by
  rw [run_apply] at h ⊢
  obtain ⟨hresult, rfl⟩ := Prod.mk.inj h
  have hwork : work c config (inSpan config m) = (.ok r, (work c config (inSpan config m)).2) :=
    Prod.ext hresult rfl
  obtain ⟨scratch, s, fragments, m₁, m₂, m₃, hsurvey, hexpand, hdeliver, hdone⟩ := work_ok hwork
  rw [hdone] at hthere hend
  -- The sources are surveyed and expanded to the same fragments.
  have hmissing : config.sources.missing n.disk = [] := by
    have hthere := Sources.missing_eq_nil_iff.mp (missing_of_surveySources hsurvey)
    exact Sources.missing_eq_nil_iff.mpr fun p hp => hrep.keeps.isFile (hthere p hp)
  obtain ⟨n₁, n₂, hsurvey', hexpand'⟩ := scan_again (m := announceStart config (inSpan config m))
    (n := announceStart config (inSpan config n)) hb.determined hsurvey hexpand hmissing
    fun p hp => (hrep.content?_eq hp).symm
  -- Nothing has been written so far, so the delivery meets what the first one met.
  have hscan := scan_traceless (m := announceStart config (inSpan config m)) hb.tidy htree hsurvey
  have hscan' := scan_traceless (m := announceStart config (inSpan config n)) hb.tidy
    (hrep.keeps.tree htree) hsurvey'
  rw [hexpand] at hscan
  rw [hexpand'] at hscan'
  rw [← announceEmpty_disk (Document.ofFragments fragments) m₂] at hscan
  rw [← announceEmpty_disk (Document.ofFragments fragments) n₂] at hscan'
  have hdeliver' := deliver_again hb hkind (hscan.tree htree) (hrep.congr hscan hscan') hdeliver
    hthere (hend.trans hscan'.keeps_nowhere.anywhere)
  show (work c config (inSpan config n)).1 = .ok r
  rw [work_apply, hsurvey']
  dsimp only
  rw [hexpand']
  dsimp only
  rw [(conclude_disk c config scratch s (Document.ofFragments fragments) n₂).2, hdeliver']

end Workbench

end Expansion
