import Expansion.Proofs.Compiler.Upkeep
import Expansion.Proofs.Machine.Confined

/-!
# Where a compilation may leave a trace

A tidy backend writes the artifact that it is asked for and nothing else, and the functions of its
modules write nothing (`Backend.Tidy`). All that is seen on the disk after a delivery with such a
backend is what the delivery itself wrote.

* **Nothing is left of a compilation to a scratch directory** (`compileWithGenerated_confined`), also
  if it fails.
* **A delivery differs from what was before at its output path only**, and at directories above it
  that were not there (`deliver_delivered`). The scratch file of an artifact has to stay in its
  directory for that (`StaysInside`), as it does if the output path has the compiler's own extension
  of artifacts.
* **It touches the output path last**: if the failure is none of the disk's, nothing differs
  (`deliver_error_confined`).
-/

namespace Expansion

open Disk

/-- A backend that writes the artifact that it is asked for and nothing else, and whose modules have
functions that write nothing. -/
structure Backend.Tidy (b : Backend) : Prop where
  memory : ∀ request, request.target = .memory → Act.Traceless (b request)
  file : ∀ request p m, request.target = .file p → m.disk.IsTree →
    Confined (m.disk.Within p) m.disk (b request m).2.disk
  calls : ∀ request m output after module, b request m = (.ok output, after) →
    output.module? = some module → ∀ f ∈ module.functions, ∀ values, Act.Traceless (f.2 values)

theorem Backend.Tidy.behaves {b : Backend} (h : b.Tidy) : b.Behaves Act.Traceless :=
  ⟨h.memory, h.calls⟩

namespace Compiler

variable {c : Compiler} {config : Configuration} {text : String} {scratch : Module}
variable {m n : Machine} {target : CompileTarget} {written : Location → Prop}
variable {sources references : List FilePath} {flags : List String}

/-! ## Compilations -/

theorem compile_confined (hb : c.backend.Tidy) (htree : m.disk.IsTree)
    (sources references : List FilePath) (flags : List String) (target : CompileTarget) :
    Confined (fun q => ∃ p, target = .file p ∧ m.disk.Within p q) m.disk
      (c.compile sources references flags target m).2.disk := by
  rw [compile_disk]
  cases target with
  | memory => exact (hb.memory _ rfl (sent _ m) htree).anywhere
  | file p =>
      refine (hb.file _ p (sent _ m) rfl htree).weaken ?_
      intro q hq
      exact ⟨p, rfl, hq⟩

/-- Generated text is compiled with nothing written but the module, if there is nothing yet where
the module goes. -/
theorem compileWithGenerated_confined (hb : c.backend.Tidy) (htree : m.disk.IsTree)
    (hfree : ∀ d, Staged m.disk d → ∀ p, target = .file p → d.leadsSomewhere p = false)
    (hwithin : ∀ d, Staged m.disk d → ∀ p, target = .file p → ∀ q, d.Within p q → written q) :
    Confined written m.disk
      (c.compileWithGenerated sources text references flags target m).2.disk := by
  unfold compileWithGenerated
  split
  · refine (compile_confined hb htree sources references flags target).weaken ?_
    rintro q ⟨p, rfl, hq⟩
    exact hwithin m.disk (.inl rfl) p rfl q hq
  · refine Act.withScratchDirectory_confined htree Act.plainStem_typexpand ?_
    intro n place hopened
    obtain ⟨piece, rest, hname, hplain⟩ := exists_plain_generated c.kinds
    let file := (m.disk.freshScratch "typexpand-" "").child ("generated." ++ c.kinds.primarySource)
    cases hwrite : n.disk.writeFile file text.toUTF8 with
    | error e =>
        rw [Act.bind_of_error (Act.onDisk_of_error hwrite)]
        exact ⟨⟨nowhere, .refl _ _⟩, .refl _ _⟩
    | ok d =>
        rw [Act.bind_of_ok (Act.onDisk_of_ok hwrite)]
        have hd : d = n.disk.set (place ++ [piece]) (.file text.toUTF8 false) :=
          writeFile_of_free hname hplain hopened.inside (hopened.empty piece) hwrite
        have hstaged : Staged m.disk d :=
          .inr ⟨n.disk, _, place, piece, text.toUTF8, hopened, hd⟩
        have hnew : Keeps nowhere n.disk d :=
          hd ▸ keeps_set_free (get?_of_find hopened.found) (hopened.empty piece)
        have hwritten : Confined (fun q => written q ∨ place <+: q) n.disk d := by
          rw [hd]
          refine (confined_set (by simp) (hd ▸ hnew.tree)).weaken ?_
          rintro q rfl
          exact .inr (List.prefix_append place [piece])
        have hcompile := compile_confined (m := { n with disk := d }) hb (hstaged.tree htree)
          (sources ++ [file]) references flags target
        refine ⟨⟨nowhere, hnew.trans (hcompile.keeps ?_)⟩, hwritten.trans (hcompile.weaken ?_)⟩
        · rintro q ⟨p, rfl, hq⟩
          exact hq.vacant (hstaged.tree htree) (hfree d hstaged p rfl)
        · rintro q ⟨p, rfl, hq⟩
          exact .inl (hwithin d hstaged p rfl q hq)

theorem deliverModule_confined (hb : c.backend.Tidy) (htree : m.disk.IsTree)
    (config : Configuration) (text : String) :
    Confined nowhere m.disk (c.deliverModule config text m).2.disk :=
  compileWithGenerated_confined hb htree (fun _ _ _ h => by cases h) fun _ _ _ h => by cases h

/-! ## Putting the output in its place -/

/-- The last steps of a delivery: make the directories above the output path, and write there. -/
theorem put_delivers (output : FilePath) (f : Disk → Except Disk.Error Disk) (last : Act Unit)
    (hf : ∀ d d', f d = .ok d' → ∃ content, d.writeFile output content = .ok d')
    (hlast : ∀ m, ∃ after, last m = (.ok (), after) ∧ after.disk = m.disk) (m : Machine) :
    ∃ result after, (do
        Act.attempt none fun d => d.attemptParent output
        Act.onDisk none f
        last : Act Unit) m = (result, after) ∧
      Delivers output m.disk after.disk ∧ ∀ e, result = .error e → ∃ error, e = .disk error none := by
  have hpaved := attemptParent_paved m.disk output
  cases hparent : Act.attempt none (fun d => d.attemptParent output) m with
  | mk result between =>
      cases result with
      | error e =>
          obtain ⟨error, -, rfl, rfl⟩ := Act.attempt_error hparent
          refine ⟨_, _, Act.bind_of_error hparent, hpaved.delivers, ?_⟩
          intro e he
          cases he
          exact ⟨error, rfl⟩
      | ok u =>
          obtain ⟨made, hmade, rfl⟩ := Act.attempt_ok hparent
          rw [Disk.Attempt.complete_ok hmade] at hpaved
          rw [Act.bind_of_ok hparent]
          cases hwrite : f made with
          | error error =>
              refine ⟨_, _, Act.bind_of_error (Act.onDisk_of_error hwrite), hpaved.delivers, ?_⟩
              intro e he
              cases he
              exact ⟨error, rfl⟩
          | ok d =>
              obtain ⟨content, hcontent⟩ := hf made d hwrite
              obtain ⟨after, hdone, hdisk⟩ := hlast { m with disk := d }
              refine ⟨_, _, (Act.bind_of_ok (Act.onDisk_of_ok hwrite)).trans hdone, ?_, ?_⟩
              · rw [hdisk]
                exact hpaved.delivers_writeFile hcontent
              · intro e he
                cases he

theorem deliverSource_delivers (config : Configuration) (text : String) (m : Machine) :
    ∃ result after, deliverSource config text m = (result, after) ∧
      Delivers config.output m.disk after.disk ∧
      ∀ e, result = .error e → ∃ error, e = .disk error none :=
  put_delivers config.output (fun d => d.writeFile config.output text.toUTF8)
    (announceOutput "wrote generated source" config.output [("bytes", .number text.utf8ByteSize)])
    (fun _ _ h => ⟨_, h⟩) (fun _ => ⟨_, rfl, rfl⟩) m

/-! ## Artifacts -/

/-- The name of the scratch file of an artifact does not lead up from its directory. It is the stem of
the output path, a dot and the extension of artifacts, and it leads up for one form of output only: a
stem of one dot, as that of `..lib`, if the extension begins with a slash or is empty
(`staysInside_iff`). No output path with the extension of artifacts is such a one
(`staysInside_of_isArtifact`), but a path may have been accepted for other kinds of files than those
of the compiler. -/
def StaysInside (kinds : FileKinds) (output : FilePath) : Prop :=
  (piecesOf (artifactName output kinds)).head? ≠ some ".."

/-- The stem that the scratch file of an artifact is named after. -/
theorem spoken_stem (output : FilePath) :
    (output.stem?.getD "generated").toList ≠ [] ∧
      '/' ∉ (output.stem?.getD "generated").toList := by
  cases hname : output.stem? with
  | none => decide
  | some stem => exact FilePath.spoken_of_stem? hname

/-- The first piece of the scratch file's name is the stem with a dot behind it, and maybe more. -/
theorem exists_pieces_artifact (kinds : FileKinds) (output : FilePath) :
    ∃ first rest, piecesOf (artifactName output kinds) =
        String.ofList ((output.stem?.getD "generated").toList ++ '.' :: first) :: rest ∧
      Text.splitChars '/' kinds.artifact.toList = first :: rest.map String.toList := by
  have hslash : '/' ∉ (output.stem?.getD "generated").toList ++ ['.'] := by
    rw [List.mem_append, not_or]
    exact ⟨(spoken_stem output).2, by decide⟩
  obtain ⟨first, others, hextension, hsplit⟩ :=
    Text.splitChars_of_not_mem hslash kinds.artifact.toList
  refine ⟨first, others.map String.ofList, ?_, ?_⟩
  · have hchars : (artifactName output kinds).toList =
        (output.stem?.getD "generated").toList ++ ['.'] ++ kinds.artifact.toList := by
      unfold artifactName
      rw [String.toList_append, String.toList_append]
      rfl
    unfold piecesOf Text.splitOn
    rw [hchars, hsplit, List.map_cons]
    simp
  · rw [hextension, List.map_map]
    simp [Function.comp_def]

theorem exists_plain_artifact {kinds : FileKinds} {output : FilePath}
    (h : StaysInside kinds output) :
    ∃ piece rest, piecesOf (artifactName output kinds) = piece :: rest ∧ IsPlain piece := by
  obtain ⟨first, rest, hpieces, -⟩ := exists_pieces_artifact kinds output
  refine ⟨_, rest, hpieces, ?_, ?_⟩
  · rintro (hempty | hdot)
    · have hchars := congrArg String.toList hempty
      rw [String.toList_ofList] at hchars
      simp at hchars
    · have hchars := congrArg (fun text => text.toList.length) hdot
      have hstem := List.length_pos_of_ne_nil (spoken_stem output).1
      simp only [String.toList_ofList, List.length_append, List.length_cons] at hchars
      have hone : ".".toList.length = 1 := rfl
      omega
  · intro hdots
    apply h
    rw [hpieces, hdots]
    rfl

theorem stem_append_eq_dots_iff {stem first : List Char} (hstem : stem ≠ []) :
    stem ++ '.' :: first = ['.', '.'] ↔ stem = ['.'] ∧ first = [] := by
  constructor
  · intro h
    cases stem with
    | nil => exact absurd rfl hstem
    | cons s more =>
        obtain ⟨rfl, hmore⟩ := List.cons.inj h
        obtain ⟨rfl, hfirst⟩ | ⟨-, hnil⟩ := List.append_eq_singleton_iff.mp hmore
        · exact ⟨rfl, (List.cons.inj hfirst).2⟩
        · cases hnil
  · rintro ⟨rfl, rfl⟩
    rfl

/-- The name leads up only if the stem is one dot, and the extension begins with a slash or is empty.
-/
theorem staysInside_iff {kinds : FileKinds} {output : FilePath} :
    StaysInside kinds output ↔
      ¬(output.stem? = some "." ∧ ∀ c, kinds.artifact.toList.head? = some c → c = '/') := by
  obtain ⟨first, rest, hpieces, hsplit⟩ := exists_pieces_artifact kinds output
  have hdot : (output.stem?.getD "generated").toList = ['.'] ↔ output.stem? = some "." := by
    cases output.stem? with
    | none => decide
    | some stem => rw [Option.getD_some, Option.some_inj, ← String.toList_inj]; rfl
  rw [StaysInside, hpieces, List.head?_cons, Ne, not_iff_not, Option.some_inj,
    ← String.toList_inj, String.toList_ofList, ← hdot, ← Text.first_eq_nil_iff hsplit]
  exact stem_append_eq_dots_iff (spoken_stem output).1

/-- The name stays inside if the output path has the extension of artifacts. -/
theorem staysInside_of_isArtifact {kinds : FileKinds} {output : FilePath}
    (h : kinds.isArtifact output = true) : StaysInside kinds output := by
  obtain ⟨hslash, hplain⟩ := artifactName_plain h
  rw [StaysInside, piecesOf_of_no_slash hslash, List.head?_cons]
  intro hup
  exact hplain.down (Option.some.inj hup)

/-- In its scratch directory an artifact is compiled with nothing written beside it. -/
theorem compileArtifact_confined {d : Disk} {p : FilePath} {place : Location}
    (hb : c.backend.Tidy) (hinside : StaysInside c.kinds config.output) (htree : d.IsTree)
    (hopened : Opened d n.disk p place) (text : String) :
    Keeps nowhere n.disk (c.compileWithGenerated config.sources.paths text config.references
        config.flags (.file (p.child (artifactName config.output c.kinds))) n).2.disk ∧
      Confined (place <+: ·) n.disk (c.compileWithGenerated config.sources.paths text
        config.references config.flags
        (.file (p.child (artifactName config.output c.kinds))) n).2.disk := by
  obtain ⟨piece, rest, hname, hplain⟩ := exists_plain_artifact hinside
  have hmade : Confined (place ++ [piece] <+: ·) n.disk (c.compileWithGenerated
      config.sources.paths text config.references config.flags
      (.file (p.child (artifactName config.output c.kinds))) n).2.disk := by
    refine compileWithGenerated_confined hb (hopened.keeps.tree htree) ?_ ?_
    · rintro d' hstaged q hq
      cases hq
      exact hopened.vacant hstaged hname hplain
    · rintro d' hstaged q hq place' hplace'
      cases hq
      exact hopened.within_child hstaged hname hplain hplace'
  refine ⟨hmade.keeps fun q hq => hopened.below_free htree hq, hmade.weaken ?_⟩
  intro q hq
  exact (List.prefix_append place [piece]).trans hq

/-- What the work of delivering an artifact does outside of its scratch directory. -/
theorem artifactWork_confined {d : Disk} {p : FilePath} {place : Location} (hb : c.backend.Tidy)
    (hinside : StaysInside c.kinds config.output) (htree : d.IsTree)
    (hopened : Opened d n.disk p place) (text : String) :
    ∃ result n', artifactWork c config text p n = (result, n') ∧
      (∃ kept, Keeps kept n.disk n'.disk) ∧
      Confined (fun q => OutputPlace config.output d n'.disk q ∨ place <+: q) n.disk n'.disk ∧
      ∀ e, result = .error e → (∀ error p?, e ≠ .disk error p?) →
        Confined (place <+: ·) n.disk n'.disk := by
  obtain ⟨hkeeps, hcompile⟩ := compileArtifact_confined hb hinside htree hopened text
  unfold artifactWork
  rw [Act.bind_apply]
  cases hmodule : c.compileWithGenerated config.sources.paths text config.references config.flags
      (.file (p.child (artifactName config.output c.kinds))) n with
  | mk compiled between =>
      rw [hmodule] at hkeeps hcompile
      cases compiled with
      | error e =>
          exact ⟨_, _, rfl, ⟨_, hkeeps⟩, hcompile.weaken fun _ => .inr, fun _ _ _ => hcompile⟩
      | ok module =>
          obtain ⟨result, after, hput, ⟨⟨kept, hkept⟩, hdelivers⟩, hfault⟩ := put_delivers
            config.output
            (fun d => d.copyFile (p.child (artifactName config.output c.kinds)) config.output)
            (announceOutput "copied artifact" config.output [])
            (fun _ _ => copyFile_ok) (fun _ => ⟨_, rfl, rfl⟩) between
          refine ⟨result, after, hput, ⟨kept, hkeeps.anywhere.trans hkept⟩, ?_, ?_⟩
          · refine (hcompile.weaken fun _ => .inr).trans (hdelivers.weaken ?_)
            intro q hq
            -- Outside of the directory, what was there before the output was written is older.
            by_cases hplace : place <+: q
            · exact .inr hplace
            · left
              rcases hq with hleads | ⟨hfree, hnew, habove⟩
              · exact .inl hleads
              · refine .inr ⟨?_, hnew, habove⟩
                have hne : q ≠ place := by
                  rintro rfl
                  exact hplace (List.prefix_refl _)
                rw [hcompile.same q hplace, hopened.made, get?_set _ _ _ _ hopened.ne_top,
                  if_neg hne] at hfree
                exact hfree
          · rintro e rfl hother
            obtain ⟨error, rfl⟩ := hfault e rfl
            exact absurd rfl (hother error none)

/-! ## Deliveries -/

/-- What a delivery may leave different: the place of its output path and directories above it that
were not there before. The paths are followed on the disk on which the output was written, which for
an artifact still has its scratch directory, at a place that nothing had before. -/
inductive Delivered (config : Configuration) (d d' : Disk) : Prop
  | intro (written : Disk) :
      (written = d' ∨ config.mode = .artifact ∧
        ∃ directory, d.Unused directory ∧ d' = written.eraseTree directory) →
      Confined (fun q => config.mode ≠ .embed ∧ OutputPlace config.output d written q) d d' →
      Delivered config d d'

section

variable {d d' d'' : Disk}

theorem Delivered.of_traceless (h : Confined nowhere d d') : Delivered config d d' :=
  .intro d' (.inl rfl) h.anywhere

/-- What was done before a delivery, if it left no trace, does not count. -/
theorem Delivered.after (h : Delivered config d' d'') (hd : Confined nowhere d d') :
    Delivered config d d'' := by
  obtain ⟨written, hwritten, hconfined⟩ := h
  refine .intro written ?_ (hd.anywhere.trans (hconfined.weaken ?_))
  · refine hwritten.imp id ?_
    rintro ⟨hmode, directory, hfree, rfl⟩
    exact ⟨hmode, directory, hfree.congr hd, rfl⟩
  · rintro q ⟨hmode, hq⟩
    refine ⟨hmode, hq.imp id ?_⟩
    rintro ⟨hfree, hnew⟩
    exact ⟨(hd.get?_eq q).symm.trans hfree, hnew⟩

/-- What differs after an artifact is delivered is where its output path led. -/
theorem deliverArtifact_delivered (hb : c.backend.Tidy)
    (hinside : StaysInside c.kinds config.output) (htree : m.disk.IsTree)
    (hmode : config.mode = .artifact) (text : String) :
    Delivered config m.disk (c.deliverArtifact config text m).2.disk := by
  have hother : config.mode ≠ .embed := by simp [hmode]
  rw [deliverArtifact_eq]
  rcases Act.withScratchDirectory_cases htree Act.plainStem_typexpand (artifactWork c config text)
    with ⟨e, hfails⟩ | ⟨n, directory, hopened, -, hdisk⟩
  · rw [hfails]
    exact .of_traceless (.refl _ _)
  · obtain ⟨result, after, hdone, ⟨kept, hkept⟩, hwork, -⟩ :=
      artifactWork_confined hb hinside htree hopened text
    rw [hdone] at hdisk
    rw [hdisk kept hkept]
    refine .intro _ (.inr ⟨hmode, directory, hopened.unused, rfl⟩) (hopened.erased htree ?_)
    exact hwork.weaken fun q hq => hq.imp (fun hplace => ⟨hother, hplace⟩) id

/-- A delivery of an artifact that fails for another reason than the disk's leaves no trace. -/
theorem deliverArtifact_error_confined {e : Failure} (hb : c.backend.Tidy)
    (hinside : StaysInside c.kinds config.output) (htree : m.disk.IsTree)
    (h : (c.deliverArtifact config text m).1 = .error e)
    (hother : ∀ error p?, e ≠ .disk error p?) :
    Confined nowhere m.disk (c.deliverArtifact config text m).2.disk := by
  rw [deliverArtifact_eq] at h ⊢
  rcases Act.withScratchDirectory_cases htree Act.plainStem_typexpand (artifactWork c config text)
    with ⟨e', hfails⟩ | ⟨n, directory, hopened, hresult, hdisk⟩
  · rw [hfails]
    exact .refl _ _
  · obtain ⟨result, after, hdone, ⟨kept, hkept⟩, -, hfault⟩ :=
      artifactWork_confined hb hinside htree hopened text
    rw [hdone] at hdisk hresult
    rw [hdisk kept hkept]
    exact hopened.erased htree ((hfault e (hresult.symm.trans h) hother).weaken fun _ => .inr)

theorem deliver_delivered (hb : c.backend.Tidy)
    (hinside : config.mode = .artifact → StaysInside c.kinds config.output)
    (htree : m.disk.IsTree) (text : String) (scratch : Module) :
    Delivered config m.disk (c.deliver config text scratch m).2.disk := by
  unfold deliver
  cases hmode : config.mode with
  | embed =>
      dsimp only
      rw [Act.bind_pure_apply]
      exact .of_traceless (deliverModule_confined hb htree config text)
  | artifact =>
      dsimp only
      rw [Act.bind_pure_apply]
      exact deliverArtifact_delivered hb (hinside hmode) htree hmode text
  | source =>
      dsimp only
      rw [Act.bind_pure_apply]
      obtain ⟨result, after, hput, hdelivers, -⟩ := deliverSource_delivers config text m
      rw [hput]
      have hother : config.mode ≠ .embed := by simp [hmode]
      exact .intro _ (.inl rfl) (hdelivers.confined.weaken fun _ hplace => ⟨hother, hplace⟩)

/-- **The output path is touched last**: a delivery that fails for another reason than the disk's
leaves no trace. -/
theorem deliver_error_confined {e : Failure} (hb : c.backend.Tidy)
    (hinside : config.mode = .artifact → StaysInside c.kinds config.output)
    (htree : m.disk.IsTree) (h : (c.deliver config text scratch m).1 = .error e)
    (hother : ∀ error p?, e ≠ .disk error p?) :
    Confined nowhere m.disk (c.deliver config text scratch m).2.disk := by
  unfold deliver at h ⊢
  cases hmode : config.mode with
  | embed =>
      dsimp only
      rw [Act.bind_pure_apply]
      exact deliverModule_confined hb htree config text
  | artifact =>
      rw [hmode] at h
      dsimp only at h ⊢
      rw [Act.bind_pure_apply] at h ⊢
      refine deliverArtifact_error_confined hb (hinside hmode) htree ?_ hother
      cases hresult : (c.deliverArtifact config text m).1 with
      | ok u =>
          rw [hresult] at h
          cases h
      | error e' =>
          rw [hresult] at h
          cases h
          rfl
  | source =>
      rw [hmode] at h
      dsimp only at h
      rw [Act.bind_pure_apply] at h
      obtain ⟨result, after, hput, -, hfault⟩ := deliverSource_delivers config text m
      rw [hput] at h
      cases result with
      | ok u => cases h
      | error e' =>
          cases h
          obtain ⟨error, rfl⟩ := hfault e rfl
          exact absurd rfl (hother error none)

end

end Compiler

end Expansion
