import Expansion.Proofs.Disk.Confined
import Expansion.Proofs.Disk.FileNames
import Mathlib.Data.List.TakeWhile

/-!
# Paths that only go down

A path with a step up may lead nowhere until the directories above it are made, and then to something
that was there all the time. **A path without steps up does not** (`canonical?_of_makeParent`): the
first directory that is made is on its way (`exists_first_made`), what is below is new, and from
there the path goes down.

The directories above a path have its first names (`FilePath.Above.names`), so a walk to the path
comes by them (`Reaches.rest`).
-/

namespace Expansion

open Text

/-! ## The names of a parent -/

namespace Disk

theorem namesOf_append (before after : List String) :
    namesOf (before ++ after) = namesOf before ++ namesOf after :=
  List.filter_append before after

theorem namesOf_eq_nil {pieces : List (List Char)} (h : ∀ piece ∈ pieces, FilePath.isIdle piece) :
    namesOf (pieces.map String.ofList) = [] := by
  have hnone : pieces.filterMap FilePath.componentOf? = [] := by
    rw [List.filterMap_eq_nil_iff]
    intro piece hpiece
    exact Option.isNone_iff_eq_none.mp (h piece hpiece)
  rw [namesOf_map, hnone]
  rfl

end Disk

namespace FilePath

open Disk

variable {p q : FilePath} {start body : List Char} {pieces : List (List Char)}

/-- The names that a path asks for, one after the other. -/
def names (p : FilePath) : List String := namesOf (piecesOf p.text)

theorem withoutIdleEnd_append (pieces : List (List Char)) :
    ∃ idle, pieces = withoutIdleEnd pieces ++ idle ∧ ∀ piece ∈ idle, isIdle piece := by
  refine ⟨(pieces.reverse.takeWhile isIdle).reverse, ?_, ?_⟩
  · unfold withoutIdleEnd
    rw [← List.reverse_append, List.takeWhile_append_dropWhile, List.reverse_reverse]
  · intro piece hpiece
    exact List.mem_takeWhile_imp (List.mem_reverse.mp hpiece)

theorem namesOf_withoutIdleEnd (pieces : List (List Char)) :
    namesOf ((withoutIdleEnd pieces).map String.ofList) = namesOf (pieces.map String.ofList) := by
  obtain ⟨idle, hpieces, hidle⟩ := withoutIdleEnd_append pieces
  conv_rhs => rw [hpieces, List.map_append, namesOf_append, namesOf_eq_nil hidle, List.append_nil]

theorem joinPieces_eq_intercalate (pieces : List (List Char)) :
    joinPieces pieces = ['/'].intercalate pieces := by
  induction pieces using joinPieces.induct with
  | case1 => rfl
  | case2 piece => exact (List.intercalate_singleton).symm
  | case3 piece next rest ih =>
      rw [joinPieces, ih, List.intercalate_cons_cons, List.append_assoc]
      rfl

theorem splitChars_joinPieces (h : ∀ piece ∈ pieces, '/' ∉ piece) (hne : pieces ≠ []) :
    splitChars '/' (joinPieces pieces) = pieces := by
  rw [joinPieces_eq_intercalate, splitChars_eq_splitOn, List.splitOn_intercalate '/' h hne]

/-- What may stand in front of the pieces of a path. -/
inductive Begins : List Char → List Char → Prop
  | nothing {body : List Char} : Begins [] body
  | top {body : List Char} : Begins ['/'] body
  | here {body : List Char} : (splitChars '/' body).head? = some [] → Begins ['.'] body

/-- What stands in front of the pieces asks for no name. -/
theorem Begins.names (h : Begins start body) :
    names ⟨String.ofList (start ++ body)⟩ = namesOf ((splitChars '/' body).map String.ofList) := by
  unfold FilePath.names piecesOf splitOn
  rw [String.toList_ofList]
  cases h with
  | nothing => rfl
  | top => rfl
  | here hfirst =>
      obtain ⟨first, others, hbody, hsplit⟩ :=
        splitChars_cons_of_ne (show '.' ≠ '/' by decide) body
      rw [List.singleton_append, hsplit, hbody]
      rw [hbody] at hfirst
      obtain rfl : first = [] := Option.some.inj hfirst
      rfl

theorem splitStart_eq (p : FilePath) :
    ∃ start body, p.splitStart = (start, body) ∧ p.text.toList = start ++ body ∧ Begins start body ∧
      (start = ['/'] ↔ p.isAbsolute = true) := by
  unfold splitStart
  cases habsolute : p.isAbsolute with
  | true =>
      obtain ⟨body, hbody⟩ : ∃ body, p.text.toList = '/' :: body := by
        unfold isAbsolute at habsolute
        cases htext : p.text.toList with
        | nil =>
            rw [htext] at habsolute
            cases habsolute
        | cons c body =>
            rw [htext] at habsolute
            exact ⟨body, by simpa using habsolute⟩
      rw [hbody]
      exact ⟨['/'], body, rfl, rfl, .top, by simp⟩
  | false =>
      dsimp only
      rw [if_neg (by simp)]
      split
      · rename_i hfirst
        rw [beq_iff_eq] at hfirst
        cases htext : p.text.toList with
        | nil =>
            rw [htext] at hfirst
            cases hfirst
        | cons c body =>
            rw [htext] at hfirst
            have hdot : c = '.' ∧ (splitChars '/' body).head? = some [] := by
              by_cases hc : c = '/'
              · rw [hc, splitChars, if_pos rfl] at hfirst
                cases hfirst
              · obtain ⟨first, others, hbody, hsplit⟩ := splitChars_cons_of_ne hc body
                rw [hsplit] at hfirst
                cases hfirst
                exact ⟨rfl, by rw [hbody]; rfl⟩
            obtain ⟨rfl, hbody⟩ := hdot
            exact ⟨['.'], body, rfl, rfl, .here hbody, by simp⟩
      · exact ⟨[], p.text.toList, rfl, rfl, .nothing, by simp⟩

/-- A path that does not begin at the top has a first piece that is not empty, if it has a piece
that says something. -/
theorem head?_joinPieces_ne {cs : List Char} (hcs : cs.head? ≠ some '/')
    (hfewer : pieces <+: splitChars '/' cs) (hspeaks : withoutIdleEnd (splitChars '/' cs) ≠ []) :
    (joinPieces pieces).head? ≠ some '/' := by
  cases pieces with
  | nil => simp [joinPieces]
  | cons piece rest =>
      cases cs with
      | nil => exact absurd rfl hspeaks
      | cons c cs =>
          have hc : c ≠ '/' := by
            rintro rfl
            exact hcs rfl
          obtain ⟨first, others, -, hsplit⟩ := splitChars_cons_of_ne hc cs
          rw [hsplit] at hfewer
          obtain ⟨rfl, -⟩ := List.cons_prefix_cons.mp hfewer
          cases rest with
          | nil => simpa [joinPieces] using hc
          | cons next rest => simpa [joinPieces] using hc

theorem namesOf_joinPieces (h : ∀ piece ∈ pieces, '/' ∉ piece) :
    namesOf ((splitChars '/' (joinPieces pieces)).map String.ofList) =
      namesOf (pieces.map String.ofList) := by
  cases pieces with
  | nil => rfl
  | cons piece rest => rw [splitChars_joinPieces h (by simp)]

/-- Fewer pieces have the same in front of them. -/
theorem Begins.of_prefix (h : Begins start body) (hslash : ∀ piece ∈ pieces, '/' ∉ piece)
    (hfewer : pieces <+: splitChars '/' body) : Begins start (joinPieces pieces) := by
  cases h with
  | nothing => exact .nothing
  | top => exact .top
  | here hfirst =>
      refine .here ?_
      cases pieces with
      | nil => rfl
      | cons piece rest =>
          rw [splitChars_joinPieces hslash (by simp)]
          obtain ⟨others, hbody⟩ := hfewer
          rw [← hbody] at hfirst
          exact hfirst

/-- What stands in front decides whether a path begins at the top, if the pieces do not. -/
theorem Begins.isAbsolute (h : Begins start body)
    (hrelative : start = [] → body.head? ≠ some '/') :
    isAbsolute ⟨String.ofList (start ++ body)⟩ = true ↔ start = ['/'] := by
  unfold FilePath.isAbsolute
  rw [String.toList_ofList, beq_iff_eq]
  cases h with
  | nothing => simpa using hrelative rfl
  | top => simp
  | here => simp

/-- A parent has the first names of a path, and starts where the path does. -/
theorem names_parent (h : p.parent? = some q) :
    (∃ rest, p.names = q.names ++ rest) ∧ q.isAbsolute = p.isAbsolute := by
  obtain ⟨start, body, hsplit, htext, hbegins, habsolute⟩ := splitStart_eq p
  have hp : p.names = namesOf ((splitChars '/' body).map String.ofList) := by
    rw [← hbegins.names, ← htext, String.ofList_toList]
  unfold parent? at h
  rw [hsplit] at h
  dsimp only at h
  split at h
  · split at h
    · rename_i hhere
      cases h
      refine ⟨⟨p.names, rfl⟩, ?_⟩
      have hrelative : p.isAbsolute = false := by
        rw [Bool.eq_false_iff, ne_eq, ← habsolute, hhere]
        simp
      rw [hrelative]
      rfl
    · cases h
  · rename_i piece pieces hpieces
    cases h
    obtain ⟨idle, hbody, -⟩ := withoutIdleEnd_append (splitChars '/' body)
    obtain ⟨idle', habove, -⟩ := withoutIdleEnd_append (piece :: pieces).dropLast
    have hfewer : withoutIdleEnd (piece :: pieces).dropLast <+: splitChars '/' body := by
      have hshorter : withoutIdleEnd (piece :: pieces).dropLast <+: (piece :: pieces).dropLast :=
        ⟨idle', habove.symm⟩
      rw [hbody, hpieces]
      exact (hshorter.trans (List.dropLast_prefix _)).trans (List.prefix_append _ _)
    have hslash : ∀ other ∈ withoutIdleEnd (piece :: pieces).dropLast, '/' ∉ other := by
      intro other hother
      exact not_mem_of_mem_splitChars (hfewer.subset hother)
    have hbegins' := hbegins.of_prefix hslash hfewer
    constructor
    · have hlast := List.dropLast_concat_getLast (l := piece :: pieces) (by simp)
      refine ⟨namesOf ([(piece :: pieces).getLast (by simp)].map String.ofList), ?_⟩
      calc p.names = namesOf ((piece :: pieces).map String.ofList) := by
            rw [hp, ← namesOf_withoutIdleEnd, hpieces]
        _ = namesOf ((piece :: pieces).dropLast.map String.ofList) ++
              namesOf ([(piece :: pieces).getLast (by simp)].map String.ofList) := by
            rw [← namesOf_append, ← List.map_append, hlast]
        _ = _ := by
            rw [hbegins'.names, namesOf_joinPieces hslash, namesOf_withoutIdleEnd]
    · rw [Bool.eq_iff_iff, hbegins'.isAbsolute, habsolute]
      intro hstart
      subst hstart
      refine head?_joinPieces_ne ?_ hfewer (by simp [hpieces])
      intro hhead
      have htop : p.isAbsolute = true := by
        unfold isAbsolute
        rw [htext, List.nil_append, hhead]
        rfl
      cases habsolute.mpr htop

/-- The directories above a path have its first names. -/
theorem Above.names (h : Above p q) :
    (∃ rest, p.names = q.names ++ rest) ∧ q.isAbsolute = p.isAbsolute := by
  induction h with
  | parent hparent => exact names_parent hparent
  | further _ hparent ih =>
      obtain ⟨⟨rest, hnames⟩, hstart⟩ := ih
      obtain ⟨⟨last, hlast⟩, hstart'⟩ := names_parent hparent
      refine ⟨⟨last ++ rest, ?_⟩, hstart'.trans hstart⟩
      rw [hnames, hlast, List.append_assoc]

/-- A path without a step up among its components has none among its names. -/
theorem up_not_mem_names (h : .up ∉ p.components) : ".." ∉ p.names := by
  unfold names
  rw [namesOf_piecesOf, List.mem_filterMap]
  rintro ⟨component, hcomponent, hname⟩
  cases component with
  | root => cases hname
  | here => cases hname
  | up => exact h hcomponent
  | name text =>
      have htext := congrArg String.toList (Option.some.inj hname)
      rw [String.toList_ofList] at htext
      exact (isPlainName_of_mem_components hcomponent).down htext

end FilePath

namespace Disk

variable {d d' : Disk} {p output : FilePath} {place b q : Location} {e : Entry}
variable {before after names : List String}

/-! ## Going on from a place on the way -/

/-- The names that are left lead on from the place that the first ones lead to. -/
theorem Reaches.rest (h : Reaches d place (before ++ after) q) (hb : Reaches d place before b) :
    Reaches d b after q := by
  induction hb with
  | stop => exact h
  | up _ ih =>
      cases h with
      | up h => exact ih h
      | link hname => exact absurd rfl hname
      | step hname => exact absurd rfl hname
  | link hname hnext _ ih =>
      cases h with
      | up => exact absurd rfl hname
      | link _ hnext' h =>
          cases hnext.symm.trans hnext'
          exact ih (List.append_assoc _ _ _ ▸ h)
      | step _ hnext' hentry =>
          cases hnext.symm.trans hnext'
          exact absurd rfl (hentry _)
  | step hname hnext hentry _ ih =>
      cases h with
      | up => exact absurd rfl hname
      | link _ hnext' _ =>
          cases hnext.symm.trans hnext'
          exact absurd rfl (hentry _)
      | step _ _ _ h => exact ih h

/-- Names without a step up lead down, where no symbolic link is below. -/
theorem Reaches.descends (h : Reaches d place names q) (hup : ".." ∉ names)
    (hlinks : ∀ other target, place <+: other → d.get? other ≠ some (.link target)) :
    place <+: q := by
  induction h with
  | stop => exact List.prefix_refl _
  | up => exact absurd List.mem_cons_self hup
  | link _ hnext => exact absurd hnext (hlinks _ _ (List.prefix_append _ _))
  | step _ _ _ _ ih =>
      have hbelow := ih (fun h => hup (List.mem_cons_of_mem _ h)) fun other target hother =>
        hlinks other target ((List.prefix_append _ _).trans hother)
      exact (List.prefix_append _ _).trans hbelow

theorem reaches_of_canonical? (h : d.canonical? p = some q) :
    Reaches d (d.start p) p.names q := by
  obtain ⟨e, hfind⟩ := find_of_canonical? h
  exact (find_ok_iff.mp hfind).2.reaches

/-! ## The first directory that is made -/

/-- Making directories leaves the disk as it is, or first makes one of those above the output. -/
theorem exists_first_made (budget : Nat) (d : Disk) (hp : output.Above p) :
    (attemptDirectoriesFrom budget d p).2 = d ∨
      ∃ above made, output.Above above ∧ d.makeDirectory above = .ok made ∧
        Keeps nowhere made (attemptDirectoriesFrom budget d p).2 := by
  induction budget generalizing p with
  | zero => exact .inl rfl
  | succ budget ih =>
      unfold attemptDirectoriesFrom
      split
      · exact .inl rfl
      · cases hmake : d.makeDirectory p with
        | ok made => exact .inr ⟨p, made, hp, hmake, .refl _ _⟩
        | error e =>
            have hthere : ∀ e, (d.orIsDirectory p (.error e)).2 = d := by
              intro e
              unfold orIsDirectory
              dsimp only
              split <;> rfl
            by_cases hmissing : e = .notFound
            · subst hmissing
              dsimp only
              cases hparent : p.parent? with
              | none => exact .inl rfl
              | some parent =>
                  dsimp only
                  have habove := ih (hp.further hparent)
                  cases hattempt : attemptDirectoriesFrom budget d parent with
                  | mk result left =>
                      rw [hattempt] at habove
                      cases result with
                      | error e => exact habove
                      | ok _ =>
                          dsimp only at habove ⊢
                          rcases habove with rfl | ⟨above, made, hq, hfirst, hkeeps⟩
                          · rw [hmake]
                            exact .inl (hthere _)
                          · refine .inr ⟨above, made, hq, hfirst, hkeeps.trans ?_⟩
                            exact orIsDirectory_keeps fun _ h => makeDirectory_keeps h
            · left
              cases e with
              | notFound => exact absurd rfl hmissing
              | _ => exact hthere _

/-- **A path without steps up does not come to lead to something older** when the directories above
it are made. -/
theorem canonical?_of_makeParent (htree : d.IsTree) (hup : ".." ∉ output.names)
    (h : d.makeParent output = .ok d') (hq : d'.canonical? output = some q)
    (hold : d.get? q = some e) : d.canonical? output = some q := by
  have hpaved := attemptParent_paved d output
  have hattempt := Attempt.complete_ok h
  rw [hattempt] at hpaved
  have hfirst : d' = d ∨ ∃ above made, output.Above above ∧ d.makeDirectory above = .ok made ∧
      Keeps nowhere made d' := by
    unfold attemptParent at hattempt
    split at hattempt
    · rename_i parent hparent
      split at hattempt
      · cases hattempt
        exact .inl rfl
      · have hmade := exists_first_made (parent.components.length + 1) d (.parent hparent)
        unfold attemptDirectories at hattempt
        rwa [hattempt] at hmade
    · cases hattempt
      exact .inl rfl
  rcases hfirst with rfl | ⟨above, made, habove, hmake, hkeeps⟩
  · exact hq
  · -- The walk goes by the first new directory, and stays below it.
    exfalso
    obtain ⟨parent, name, -, hfree, hfind⟩ := find_of_made hmake
    obtain ⟨⟨rest, hnames⟩, hstart⟩ := habove.names
    have hway := reaches_of_canonical? (hkeeps.canonical? (canonical?_of_find hfind))
    have hreaches := reaches_of_canonical? hq
    rw [hnames] at hreaches hup
    rw [start, hstart, ← start] at hway
    have hbelow : parent ++ [name] <+: q := by
      refine (hreaches.rest hway).descends (fun h => hup (List.mem_append_right _ h)) ?_
      intro other target hother hlink
      have hne : d'.get? other ≠ d.get? other := by
        rw [hlink, htree.free_below hfree hother]
        simp
      obtain ⟨-, hdirectory, -⟩ := hpaved.paved other hne
      cases hlink.symm.trans hdirectory
    cases (htree.free_below hfree hbelow).symm.trans hold

/-- A written path that leads to something older led there before: what is written there is new
otherwise. -/
theorem canonical?_of_writeFile {content : ByteArray} (h : d.writeFile p content = .ok d')
    (hq : d'.canonical? p = some q) (hold : d.get? q = some e) : d.canonical? p = some q := by
  unfold writeFile at h
  cases hbefore : d.find p true with
  | error error =>
      rw [hbefore] at h
      cases h
  | ok found =>
      rw [hbefore] at h
      cases found with
      | present place e =>
          cases e with
          | directory => cases h
          | link target => cases h
          | file old runnable =>
              cases h
              obtain ⟨_, hafter, -⟩ := (keeps_set_file (get?_of_find hbefore) content).find hbefore
              cases (canonical?_of_find hafter).symm.trans hq
              exact canonical?_of_find hbefore
      | absent parent name slash =>
          cases slash with
          | true => cases h
          | false =>
              cases h
              obtain ⟨hdirectory, hfree⟩ := (find_ok_iff.mp hbefore).2.missing
              have hafter := (keeps_set_free (e := .file content false) hdirectory hfree).find_filled
                hbefore (by rw [get?_set _ _ _ _ (by simp), if_pos rfl]) (by simp) (by simp)
              cases (canonical?_of_find hafter).symm.trans hq
              cases hfree.symm.trans hold

end Disk

end Expansion
