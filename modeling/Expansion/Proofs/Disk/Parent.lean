import Expansion.Proofs.Disk.Descent
import Expansion.Proofs.Disk.Rewrite

/-!
# The directory of a file

A path in parts leads by way of a directory at each slash (`Leads.through`), and the text of a parent
is what stands before a slash (`text_parent`), unless it is the top. So **the parent of a path that
leads to a file leads to a directory**, and nothing has to be made before the file is written
(`makeParent_of_isFile`).
-/

namespace Expansion

open Text

/-! ## The text of a parent -/

namespace FilePath

variable {p q : FilePath} {pieces more : List (List Char)}

theorem joinPieces_splitChars (cs : List Char) : joinPieces (splitChars '/' cs) = cs := by
  rw [joinPieces_eq_intercalate, splitChars_eq_splitOn, List.intercalate_splitOn]

theorem joinPieces_append (hpieces : pieces ≠ []) (hmore : more ≠ []) :
    joinPieces (pieces ++ more) = joinPieces pieces ++ '/' :: joinPieces more := by
  induction pieces with
  | nil => exact absurd rfl hpieces
  | cons piece rest ih =>
      cases rest with
      | nil =>
          obtain ⟨next, others, rfl⟩ := List.exists_cons_of_ne_nil hmore
          rfl
      | cons next rest =>
          have hrest := ih (by simp)
          rw [List.cons_append] at hrest
          rw [List.cons_append, List.cons_append, joinPieces, hrest, joinPieces, List.append_assoc,
            List.cons_append]

/-- The text of a parent stands before a slash of the path, or it is the top. -/
theorem text_parent (h : p.parent? = some q) (hq : q.text.isEmpty = false) :
    (∃ rest, p.text = q.text ++ "/" ++ rest) ∨ (q.text = "/" ∧ p.isAbsolute = true) := by
  obtain ⟨start, body, hsplit, htext, hbegins, habsolute⟩ := splitStart_eq p
  unfold parent? at h
  rw [hsplit] at h
  dsimp only at h
  split at h
  · split at h
    · cases h
      cases hq
    · cases h
  · rename_i piece pieces hpieces
    obtain ⟨idle, hbody, -⟩ := withoutIdleEnd_append (splitChars '/' body)
    obtain ⟨idle', habove, -⟩ := withoutIdleEnd_append (piece :: pieces).dropLast
    generalize withoutIdleEnd (piece :: pieces).dropLast = above at h habove
    have hsplits : splitChars '/' body =
        above ++ (idle' ++ [(piece :: pieces).getLast (by simp)] ++ idle) := by
      rw [hbody, hpieces, ← List.append_assoc, ← List.append_assoc, ← habove,
        List.dropLast_concat_getLast]
    cases h
    by_cases hnone : above = []
    · subst hnone
      cases hbegins with
      | nothing => cases hq
      | top => exact .inr ⟨rfl, habsolute.mp rfl⟩
      | here hfirst =>
          -- Behind a dot in front there is a slash, for there is a piece that says something.
          cases body with
          | nil => cases hpieces
          | cons c cs =>
              have hc : c = '/' := by
                by_contra hother
                obtain ⟨first, others, -, hcons⟩ := splitChars_cons_of_ne hother cs
                rw [hcons] at hfirst
                cases hfirst
              subst hc
              refine .inl ⟨String.ofList cs, ?_⟩
              rw [← String.toList_inj, htext]
              simp [joinPieces]
    · refine .inl ⟨String.ofList (joinPieces
        (idle' ++ [(piece :: pieces).getLast (by simp)] ++ idle)), ?_⟩
      have hchars : body = joinPieces above ++ '/' ::
          joinPieces (idle' ++ [(piece :: pieces).getLast (by simp)] ++ idle) := by
        rw [← joinPieces_append hnone (by simp), ← hsplits, joinPieces_splitChars]
      rw [← String.toList_inj, htext, hchars]
      simp [String.toList_append]

end FilePath

namespace Disk

variable {d d' made final : Disk} {p q output : FilePath} {follow : Bool} {links : Nat}
variable {place reached : Location} {before after : List String} {e : Entry}
variable {written written' written'' : Location → Prop}

/-! ## Directories on the way -/

/-- A walk comes by a directory wherever it goes on. -/
theorem Leads.through (h : Leads d follow links place (before ++ after) (.present reached e))
    (hafter : after ≠ []) : ∃ q, Leads d true links place before (.present q .directory) := by
  generalize hpieces : before ++ after = pieces at h
  generalize hfound : Found.present reached e = found at h
  induction h generalizing before with
  | stop => exact absurd (List.append_eq_nil_iff.mp hpieces).2 hafter
  | idle hhere hidle _ ih =>
      cases before with
      | nil => exact ⟨_, .stop hhere⟩
      | cons piece before =>
          cases hpieces
          obtain ⟨q, hway⟩ := ih rfl hfound
          exact ⟨q, .idle hhere hidle hway⟩
  | up hhere _ ih =>
      cases before with
      | nil => exact ⟨_, .stop hhere⟩
      | cons piece before =>
          cases hpieces
          obtain ⟨q, hway⟩ := ih rfl hfound
          exact ⟨q, .up hhere hway⟩
  | free => cases hfound
  | lastLink hhere _ _ hlast =>
      cases before with
      | nil => exact ⟨_, .stop hhere⟩
      | cons piece before =>
          cases hpieces
          simp [hafter] at hlast
  | link hhere hname hnext _ _ ih =>
      cases before with
      | nil => exact ⟨_, .stop hhere⟩
      | cons piece before =>
          cases hpieces
          obtain ⟨q, hway⟩ := ih (List.append_assoc _ _ _) hfound
          exact ⟨q, .link hhere hname hnext (by simp) hway⟩
  | step hhere hname hnext hentry _ ih =>
      cases before with
      | nil => exact ⟨_, .stop hhere⟩
      | cons piece before =>
          cases hpieces
          obtain ⟨q, hway⟩ := ih rfl hfound
          exact ⟨q, .step hhere hname hnext hentry hway⟩

theorem isAbsolute_before {rest : String} (htext : p.text = q.text ++ "/" ++ rest)
    (hq : q.text.isEmpty = false) : p.isAbsolute = q.isAbsolute := by
  cases hchars : q.text.toList with
  | nil =>
      rw [String.toList_eq_nil_iff.mp hchars] at hq
      cases hq
  | cons c cs => simp [FilePath.isAbsolute, htext, String.toList_append, hchars]

theorem Sayable.above {rest : String} (h : Sayable p) (htext : p.text = q.text ++ "/" ++ rest)
    (hq : q.text.isEmpty = false) : Sayable q := by
  obtain ⟨-, hnull, hfits⟩ := h
  rw [htext] at hnull hfits
  refine ⟨by simp [hq], ?_, ?_⟩
  · intro hother
    apply hnull
    unfold hasChar at hother ⊢
    rw [List.contains_iff_mem] at hother ⊢
    rw [String.toList_append, String.toList_append]
    exact List.mem_append_left _ (List.mem_append_left _ hother)
  · rw [String.utf8ByteSize_append, String.utf8ByteSize_append] at hfits
    omega

theorem leadsSomewhere_iff :
    d.leadsSomewhere p = true ↔ ∃ place e, d.find p true = .ok (.present place e) := by
  constructor
  · intro h
    unfold leadsSomewhere at h
    split at h
    · rename_i place e hfind
      exact ⟨place, e, hfind⟩
    · cases h
  · rintro ⟨place, e, hfind⟩
    unfold leadsSomewhere
    rw [hfind]

/-- The parent of a path that leads somewhere leads to a directory. -/
theorem isDirectory_parent (h : d.leadsSomewhere p = true) (hparent : p.parent? = some q)
    (hq : q.text.isEmpty = false) : d.isDirectory q = true := by
  obtain ⟨place, e, hfind⟩ := leadsSomewhere_iff.mp h
  obtain ⟨hsay, hleads⟩ := find_ok_iff.mp hfind
  rw [isDirectory_iff]
  rcases FilePath.text_parent hparent hq with ⟨rest, htext⟩ | ⟨htop, -⟩
  · rw [htext, piecesOf_append] at hleads
    have hrest : piecesOf rest ≠ [] := by
      unfold piecesOf splitOn
      rw [ne_eq, List.map_eq_nil_iff]
      exact splitChars_ne_nil '/' rest.toList
    obtain ⟨reached, hway⟩ := hleads.through hrest
    rw [start, isAbsolute_before htext hq, ← start] at hway
    exact ⟨reached, find_ok_iff.mpr ⟨hsay.above htext hq, hway⟩⟩
  · obtain ⟨text⟩ := q
    obtain rfl : text = "/" := htop
    exact ⟨[], find_ok_iff.mpr ⟨⟨by decide, by decide, by decide⟩, leads_idle rfl (by decide)⟩⟩

theorem text_nonempty_of_parent (h : p.parent? = some q) : p.text.isEmpty = false := by
  obtain ⟨text⟩ := p
  rw [Bool.eq_false_iff]
  intro hempty
  obtain rfl : text = "" := String.isEmpty_iff.mp hempty
  cases h

/-- So do all the directories above it. -/
theorem isDirectory_above (h : d.leadsSomewhere p = true) (hq : p.Above q)
    (hne : q.text.isEmpty = false) : d.isDirectory q = true := by
  induction hq with
  | parent hparent => exact isDirectory_parent h hparent hne
  | further _ hparent ih =>
      obtain ⟨place, hfind⟩ := isDirectory_iff.mp (ih (text_nonempty_of_parent hparent))
      exact isDirectory_parent (leadsSomewhere_iff.mpr ⟨place, _, hfind⟩) hparent hne

theorem leadsSomewhere_of_isFile (h : d.isFile p = true) : d.leadsSomewhere p = true := by
  obtain ⟨place, content, runnable, hfind⟩ := isFile_iff.mp h
  exact leadsSomewhere_iff.mpr ⟨place, _, hfind⟩

/-- The directory of a file is there. -/
theorem makeParent_of_isFile (h : d.isFile p = true) : d.makeParent p = .ok d := by
  unfold makeParent attemptParent
  cases hparent : p.parent? with
  | none => rfl
  | some parent =>
      dsimp only
      cases hempty : parent.text.isEmpty with
      | true => rfl
      | false =>
          rw [if_neg (by simp),
            attemptDirectories_of_isDirectory
              (isDirectory_parent (leadsSomewhere_of_isFile h) hparent hempty)]
          rfl

/-- A file can be written again. -/
theorem writeFile_of_isFile (h : d.isFile p = true) (content : ByteArray) :
    ∃ d', d.writeFile p content = .ok d' := by
  obtain ⟨place, old, runnable, hfind⟩ := isFile_iff.mp h
  exact ⟨d.set place (.file content runnable), by rw [writeFile, hfind]⟩

theorem copyFile_of_isFile (hp : d.isFile p = true) (hq : d.isFile q = true) :
    ∃ d', d.copyFile p q = .ok d' := by
  obtain ⟨place, content, runnable, hfind⟩ := isFile_iff.mp hp
  obtain ⟨d', hwrite⟩ := writeFile_of_isFile hq content
  refine ⟨d', ?_⟩
  unfold copyFile
  rw [hfind]
  exact hwrite

theorem isFile_of_copyFile (h : d.copyFile p q = .ok d') : d.isFile p = true := by
  unfold copyFile at h
  split at h
  · cases h
  · rename_i hfind
    exact isFile_iff.mpr ⟨_, _, _, hfind⟩
  · cases h
  · cases h

/-! ## Directories that were made for a file -/

theorem text_nonempty_of_canonical? (h : d.canonical? p = some place) : p.text.isEmpty = false := by
  obtain ⟨e, hfind⟩ := find_of_canonical? h
  exact Bool.eq_false_iff.mpr (find_ok_iff.mp hfind).1.notEmpty

/-- A directory that was made for an output is on the way to the output, so it is there as long as
the output is, if nothing else has gone but one tree. -/
theorem Paved.get?_later (hpaved : Paved output d made) (hwrite : Keeps written made final)
    (htree : final.IsTree) (hthere : (final.eraseTree place).isFile output = true)
    {other : Location} (hnew : made.get? other ≠ d.get? other) :
    (final.eraseTree place).get? other = some .directory := by
  obtain ⟨-, -, above, habove, hleads⟩ := hpaved.paved other hnew
  obtain ⟨still, hfind⟩ := isDirectory_iff.mp (isDirectory_above (leadsSomewhere_of_isFile hthere)
    habove (text_nonempty_of_canonical? hleads))
  have hback := (keeps_of_eraseTree htree place).canonical? (canonical?_of_find hfind)
  obtain rfl := Option.some.inj (hback.symm.trans (hwrite.canonical? hleads))
  exact get?_of_find hfind

/-- So a disk that keeps what was before and what is in the end keeps these directories as well. -/
theorem Paved.keeps_later (hpaved : Paved output d made) (hkeeps : Keeps written d d')
    (hwrite : Keeps written' made final) (htree : final.IsTree)
    (hthere : (final.eraseTree place).isFile output = true)
    (hend : Keeps written'' (final.eraseTree place) d') (htree' : d'.IsTree) :
    Keeps written made d' := by
  have hold : ∀ other old, made.get? other = some old →
      d.get? other = some old ∨ (old = .directory ∧ d'.get? other = some .directory) := by
    intro other old hget
    by_cases hsame : made.get? other = d.get? other
    · exact .inl (hsame.symm.trans hget)
    · obtain ⟨-, hdirectory, -⟩ := hpaved.paved other hsame
      exact .inr ⟨Option.some.inj (hget.symm.trans hdirectory),
        hend.grows.directory (hpaved.get?_later hwrite htree hthere hsame)⟩
  refine ⟨hkeeps.home.trans hpaved.keeps.home.symm, hkeeps.scratch.trans hpaved.keeps.scratch.symm,
    ?_, ?_, fun _ => htree'⟩
  · intro other old hget
    rcases hold other old hget with hbefore | ⟨rfl, hdirectory⟩
    · exact hkeeps.grows other old hbefore
    · exact ⟨.directory, hdirectory, rfl⟩
  · intro other old hget hother
    rcases hold other old hget with hbefore | ⟨rfl, hdirectory⟩
    · exact hkeeps.kept other old hbefore hother
    · exact hdirectory

end Disk

end Expansion
