import Expansion.Disk.Basic

/-!
# Where paths lead

`Leads` is the walk of a path as a relation, one rule for each way to take a step, and `walk` is the
function that decides it (`walk_ok_iff`). What is proved about paths is proved by induction on the
rules.

* **A disk on which nothing has gone or changed its kind leads every path to the same place**
  (`Leads.mono`), so only what comes and goes can redirect a path.
* What a path leads to is there, and the place of a name that is not there is in a directory.
* **A path that leads to a free place leads to what is put there** (`Leads.filled`).
* A path in two parts leads by way of a directory (`Leads.split`).
* Pieces that say nothing do not matter where a path leads anywhere at all (`Leads.reaches`).
-/

namespace Expansion.Disk

/-- A piece of a path that goes down to a name. -/
structure IsPlain (piece : String) : Prop where
  speaks : ¬(piece = "" ∨ piece = ".")
  down : piece ≠ ".."

/-- A piece of a path that may be the name of an entry. -/
structure IsName (piece : String) : Prop extends IsPlain piece where
  fits : ¬nameLimit < piece.utf8ByteSize

/-- What an entry is, without what a file holds. -/
def Entry.shape : Entry → Entry
  | .file _ _ => .file ByteArray.empty false
  | e => e

/-- Where the target of a symbolic link starts, in the directory of the link. -/
def linkStart (place : Location) (target : String) : Location :=
  if (FilePath.mk target).isAbsolute then [] else place

/-- Walking the pieces of a path from a place, through at most `links` symbolic links, leads to what
is found. -/
inductive Leads (d : Disk) (follow : Bool) : Nat → Location → List String → Found → Prop
  | stop {links place here} : d.get? place = some here →
      Leads d follow links place [] (.present place here)
  | idle {links place piece rest found} : d.get? place = some .directory →
      (piece = "" ∨ piece = ".") → Leads d follow links place rest found →
      Leads d follow links place (piece :: rest) found
  | up {links place rest found} : d.get? place = some .directory →
      Leads d follow links place.dropLast rest found →
      Leads d follow links place (".." :: rest) found
  | free {links place piece rest} : d.get? place = some .directory → IsName piece →
      d.get? (place ++ [piece]) = none → rest.all (· == "") = true →
      Leads d follow links place (piece :: rest) (.absent place piece !rest.isEmpty)
  | lastLink {links place piece rest target} : d.get? place = some .directory → IsName piece →
      d.get? (place ++ [piece]) = some (.link target) → (rest.isEmpty && !follow) = true →
      Leads d follow links place (piece :: rest) (.present (place ++ [piece]) (.link target))
  | link {links place piece rest target found} : d.get? place = some .directory → IsName piece →
      d.get? (place ++ [piece]) = some (.link target) → ¬(rest.isEmpty && !follow) = true →
      Leads d follow links (linkStart place target) (piecesOf target ++ rest) found →
      Leads d follow (links + 1) place (piece :: rest) found
  | step {links place piece rest entry found} : d.get? place = some .directory → IsName piece →
      d.get? (place ++ [piece]) = some entry → (∀ target, entry ≠ .link target) →
      Leads d follow links (place ++ [piece]) rest found →
      Leads d follow links place (piece :: rest) found

/-- A walk goes on from directories only. -/
theorem get?_directory {d : Disk} {place : Location} {here : Entry}
    (hhere : d.get? place = some here) (h : ¬(!here.isDirectory) = true) :
    d.get? place = some .directory := by
  cases here with
  | directory => exact hhere
  | file content runnable => exact absurd rfl h
  | link target => exact absurd rfl h

/-- A walk that goes on from a link with one link less. -/
theorem leads_of_walkPieces {d : Disk} {follow : Bool} {links : Nat} {place : Location}
    {jump : Location → List String → Except Error Found} {pieces : List String} {found : Found}
    (hjump : ∀ start pieces found, jump start pieces = .ok found →
      ∃ fewer, links = fewer + 1 ∧ Leads d follow fewer start pieces found)
    (h : d.walkPieces follow jump place pieces = .ok found) :
    Leads d follow links place pieces found := by
  fun_induction walkPieces d follow jump place pieces with
  | case1 => cases h
  | case2 place here hhere =>
      cases h
      exact .stop hhere
  | case3 => cases h
  | case4 => cases h
  | case5 place piece rest here hhere hdirectory hidle ih =>
      exact .idle (get?_directory hhere hdirectory) hidle (ih h)
  | case6 place rest here hhere hdirectory _ ih =>
      exact .up (get?_directory hhere hdirectory) (ih h)
  | case7 => cases h
  | case8 place piece rest here hhere hdirectory hspeaks hdown hfits next hnext hall =>
      cases h
      exact .free (get?_directory hhere hdirectory) ⟨⟨hspeaks, hdown⟩, hfits⟩ hnext hall
  | case9 => cases h
  | case10 place piece rest here hhere hdirectory hspeaks hdown hfits next target hnext hlast =>
      cases h
      exact .lastLink (get?_directory hhere hdirectory) ⟨⟨hspeaks, hdown⟩, hfits⟩ hnext hlast
  | case11 place piece rest here hhere hdirectory hspeaks hdown hfits next target hnext hlast
      start =>
      obtain ⟨fewer, rfl, hleads⟩ := hjump _ _ _ h
      exact .link (get?_directory hhere hdirectory) ⟨⟨hspeaks, hdown⟩, hfits⟩ hnext hlast hleads
  | case12 place piece rest here hhere hdirectory hspeaks hdown hfits next entry hentry hnext ih =>
      exact .step (get?_directory hhere hdirectory) ⟨⟨hspeaks, hdown⟩, hfits⟩ hnext hentry (ih h)

theorem leads_of_walk {d : Disk} {follow : Bool} {links : Nat} {place : Location}
    {pieces : List String} {found : Found} (h : d.walk follow links place pieces = .ok found) :
    Leads d follow links place pieces found := by
  induction links generalizing place pieces found with
  | zero =>
      rw [walk_zero] at h
      refine leads_of_walkPieces ?_ h
      intro _ _ _ hjump
      cases hjump
  | succ links ih =>
      rw [walk_succ] at h
      refine leads_of_walkPieces ?_ h
      intro _ _ _ hjump
      exact ⟨links, rfl, ih hjump⟩

/-- A walk takes one piece at a time, whatever the number of links left. -/
theorem walk_eq (d : Disk) (follow : Bool) (links : Nat) :
    ∃ jump, d.walk follow links = d.walkPieces follow jump := by
  cases links with
  | zero => exact ⟨_, walk_zero d follow⟩
  | succ links => exact ⟨_, walk_succ d follow links⟩

theorem walk_of_leads {d : Disk} {follow : Bool} {links : Nat} {place : Location}
    {pieces : List String} {found : Found} (h : Leads d follow links place pieces found) :
    d.walk follow links place pieces = .ok found := by
  induction h with
  | @stop links place here hhere =>
      obtain ⟨jump, hwalk⟩ := walk_eq d follow links
      rw [hwalk, walkPieces]
      simp only [hhere]
  | @idle links place piece rest found hhere hidle _ ih =>
      obtain ⟨jump, hwalk⟩ := walk_eq d follow links
      rw [hwalk] at ih ⊢
      rw [walkPieces]
      simp [hhere, Entry.isDirectory, hidle, ih]
  | @up links place rest found hhere _ ih =>
      obtain ⟨jump, hwalk⟩ := walk_eq d follow links
      rw [hwalk] at ih ⊢
      rw [walkPieces]
      simp [hhere, Entry.isDirectory, ih]
  | @free links place piece rest hhere hname hnext hall =>
      obtain ⟨jump, hwalk⟩ := walk_eq d follow links
      rw [hwalk, walkPieces]
      simp [hhere, Entry.isDirectory, hname.speaks, hname.down, hname.fits, hnext, hall]
  | @lastLink links place piece rest target hhere hname hnext hlast =>
      obtain ⟨jump, hwalk⟩ := walk_eq d follow links
      rw [hwalk, walkPieces]
      simp [hhere, Entry.isDirectory, hname.speaks, hname.down, hname.fits, hnext, hlast]
  | link hhere hname hnext hlast _ ih =>
      rw [walk_succ, walkPieces]
      simp [hhere, Entry.isDirectory, hname.speaks, hname.down, hname.fits, hnext, hlast]
      exact ih
  | @step links place piece rest entry found hhere hname hnext hentry _ ih =>
      obtain ⟨jump, hwalk⟩ := walk_eq d follow links
      rw [hwalk] at ih ⊢
      rw [walkPieces]
      simp [hhere, Entry.isDirectory, hname.speaks, hname.down, hname.fits, hnext]
      cases entry with
      | link target => exact absurd rfl (hentry target)
      | directory => exact ih
      | file content runnable => exact ih

theorem walk_ok_iff {d : Disk} {follow : Bool} {links : Nat} {place : Location}
    {pieces : List String} {found : Found} :
    d.walk follow links place pieces = .ok found ↔ Leads d follow links place pieces found :=
  ⟨leads_of_walk, walk_of_leads⟩

section

variable {d d' : Disk} {follow : Bool} {links : Nat} {place q parent : Location} {name : String}
variable {pieces : List String} {found other : Found} {e : Entry} {slash : Bool}

/-! ## What is found -/

theorem Leads.unique (h : Leads d follow links place pieces found)
    (h' : Leads d follow links place pieces other) : found = other := by
  have hwalk := walk_of_leads h
  rw [walk_of_leads h'] at hwalk
  exact (Except.ok.inj hwalk).symm

/-- What a path leads to is there. -/
theorem Leads.get?_eq (h : Leads d follow links place pieces (.present q e)) :
    d.get? q = some e := by
  generalize hfound : Found.present q e = found at h
  induction h with
  | stop hhere =>
      cases hfound
      exact hhere
  | idle _ _ _ ih => exact ih hfound
  | up _ _ ih => exact ih hfound
  | free => cases hfound
  | lastLink _ _ hnext _ =>
      cases hfound
      exact hnext
  | link _ _ _ _ _ ih => exact ih hfound
  | step _ _ _ _ _ ih => exact ih hfound

/-- A name that is not there is missing from a directory. -/
theorem Leads.missing (h : Leads d follow links place pieces (.absent parent name slash)) :
    d.get? parent = some .directory ∧ d.get? (parent ++ [name]) = none := by
  generalize hfound : Found.absent parent name slash = found at h
  induction h with
  | stop => cases hfound
  | idle _ _ _ ih => exact ih hfound
  | up _ _ ih => exact ih hfound
  | free hhere _ hnext _ =>
      cases hfound
      exact ⟨hhere, hnext⟩
  | lastLink => cases hfound
  | link _ _ _ _ _ ih => exact ih hfound
  | step _ _ _ _ _ ih => exact ih hfound

/-- A path that leads to no symbolic link leads there whether a last link is followed or not. -/
theorem Leads.followed (h : Leads d false links place pieces (.present q e))
    (he : ∀ target, e ≠ .link target) : Leads d true links place pieces (.present q e) := by
  generalize hfound : Found.present q e = found at h
  induction h with
  | stop hhere => exact .stop hhere
  | idle hhere hidle _ ih => exact .idle hhere hidle (ih hfound)
  | up hhere _ ih => exact .up hhere (ih hfound)
  | free => cases hfound
  | lastLink =>
      cases hfound
      exact absurd rfl (he _)
  | link hhere hname hnext _ _ ih => exact .link hhere hname hnext (by simp) (ih hfound)
  | step hhere hname hnext hentry _ ih => exact .step hhere hname hnext hentry (ih hfound)

/-! ## Later disks -/

theorem Entry.eq_directory_of_shape (h : e.shape = .directory) : e = .directory := by
  cases e with
  | directory => rfl
  | file content runnable => cases h
  | link target => cases h

theorem Entry.eq_link_of_shape {target : String} (h : e.shape = .link target) :
    e = .link target := by
  cases e with
  | directory => cases h
  | file content runnable => cases h
  | link other => exact h

/-- Whatever was there is still there, though a file may hold something else. -/
def Grows (d d' : Disk) : Prop :=
  ∀ place e, d.get? place = some e → ∃ e', d'.get? place = some e' ∧ e'.shape = e.shape

theorem Grows.directory (h : Grows d d') (hplace : d.get? place = some .directory) :
    d'.get? place = some .directory := by
  obtain ⟨e', hget, hshape⟩ := h place .directory hplace
  rw [hget, Entry.eq_directory_of_shape hshape]

theorem Grows.link {target : String} (h : Grows d d')
    (hplace : d.get? place = some (.link target)) :
    d'.get? place = some (.link target) := by
  obtain ⟨e', hget, hshape⟩ := h place (.link target) hplace
  rw [hget, Entry.eq_link_of_shape hshape]

/-- A disk that has grown leads every path to the same place. -/
theorem Leads.mono (h : Leads d follow links place pieces (.present q e)) (hd : Grows d d') :
    ∃ e', Leads d' follow links place pieces (.present q e') ∧ e'.shape = e.shape := by
  generalize hfound : Found.present q e = found at h
  induction h with
  | stop hhere =>
      cases hfound
      obtain ⟨e', hget, hshape⟩ := hd _ _ hhere
      exact ⟨e', .stop hget, hshape⟩
  | idle hhere hidle _ ih =>
      obtain ⟨e', hrest, hshape⟩ := ih hfound
      exact ⟨e', .idle (hd.directory hhere) hidle hrest, hshape⟩
  | up hhere _ ih =>
      obtain ⟨e', hrest, hshape⟩ := ih hfound
      exact ⟨e', .up (hd.directory hhere) hrest, hshape⟩
  | free => cases hfound
  | lastLink hhere hname hnext hlast =>
      cases hfound
      exact ⟨_, .lastLink (hd.directory hhere) hname (hd.link hnext) hlast, rfl⟩
  | link hhere hname hnext hlast _ ih =>
      obtain ⟨e', hrest, hshape⟩ := ih hfound
      exact ⟨e', .link (hd.directory hhere) hname (hd.link hnext) hlast hrest, hshape⟩
  | step hhere hname hnext hentry _ ih =>
      obtain ⟨e', hrest, hshape⟩ := ih hfound
      obtain ⟨entry', hget, hentry'⟩ := hd _ _ hnext
      refine ⟨e', .step (hd.directory hhere) hname hget ?_ hrest, hshape⟩
      rintro target rfl
      exact hentry target (Entry.eq_link_of_shape hentry'.symm)

/-- A directory leads on through pieces that say nothing. -/
theorem leads_idle (hplace : d.get? place = some .directory) (hall : pieces.all (· == "") = true) :
    Leads d follow links place pieces (.present place .directory) := by
  induction pieces with
  | nil => exact .stop hplace
  | cons piece rest ih =>
      rw [List.all_cons, Bool.and_eq_true, beq_iff_eq] at hall
      exact .idle hplace (.inl hall.1) (ih hall.2)

/-- A path that leads to a free place leads to what is put there, which has to be a directory where
the path asks for one. -/
theorem Leads.filled (h : Leads d follow links place pieces (.absent parent name slash))
    (hd : Grows d d') (hnew : d'.get? (parent ++ [name]) = some e)
    (he : ∀ target, e ≠ .link target) (hslash : slash = true → e = .directory) :
    Leads d' follow links place pieces (.present (parent ++ [name]) e) := by
  generalize hfound : Found.absent parent name slash = found at h
  induction h with
  | stop => cases hfound
  | idle hhere hidle _ ih => exact .idle (hd.directory hhere) hidle (ih hfound)
  | up hhere _ ih => exact .up (hd.directory hhere) (ih hfound)
  | @free links place piece rest hhere hname hnext hall =>
      cases hfound
      refine .step (hd.directory hhere) hname hnew he ?_
      cases rest with
      | nil => exact .stop hnew
      | cons other rest =>
          obtain rfl := hslash rfl
          exact leads_idle hnew hall
  | lastLink => cases hfound
  | link hhere hname hnext hlast _ ih =>
      exact .link (hd.directory hhere) hname (hd.link hnext) hlast (ih hfound)
  | step hhere hname hnext hentry _ ih =>
      obtain ⟨entry', hget, hentry'⟩ := hd _ _ hnext
      refine .step (hd.directory hhere) hname hget ?_ (ih hfound)
      rintro target rfl
      exact hentry target (Entry.eq_link_of_shape hentry'.symm)

/-! ## Paths in two parts -/

/-- A walk that goes on with a plain piece comes by a directory on its way. -/
theorem Leads.split {front rest : List String} {piece : String}
    (h : Leads d follow links place (front ++ piece :: rest) found) (hpiece : IsPlain piece) :
    ∃ q links', Leads d true links place front (.present q .directory) ∧
      Leads d follow links' q (piece :: rest) found := by
  generalize hpieces : front ++ piece :: rest = pieces at h
  have hblank : piece ≠ "" := fun hempty => hpiece.speaks (.inl hempty)
  -- Each step takes the first name of `front`, or it is the one that takes `piece` itself.
  induction h generalizing front with
  | stop => exact absurd hpieces (by simp)
  | @idle links place first others found hhere hidle hrest ih =>
      cases front with
      | nil =>
          cases hpieces
          exact absurd hidle hpiece.speaks
      | cons first front =>
          cases hpieces
          obtain ⟨q, links', hfront, hback⟩ := ih rfl
          exact ⟨q, links', .idle hhere hidle hfront, hback⟩
  | @up links place others found hhere hrest ih =>
      cases front with
      | nil =>
          cases hpieces
          exact absurd rfl hpiece.down
      | cons first front =>
          cases hpieces
          obtain ⟨q, links', hfront, hback⟩ := ih rfl
          exact ⟨q, links', .up hhere hfront, hback⟩
  | @free links place first others hhere hname hnext hall =>
      cases front with
      | nil =>
          cases hpieces
          exact ⟨place, links, .stop hhere, .free hhere hname hnext hall⟩
      | cons first front =>
          cases hpieces
          simp [hblank] at hall
  | @lastLink links place first others target hhere hname hnext hlast =>
      cases front with
      | nil =>
          cases hpieces
          exact ⟨place, links, .stop hhere, .lastLink hhere hname hnext hlast⟩
      | cons first front =>
          cases hpieces
          simp at hlast
  | @link links place first others target found hhere hname hnext hlast hrest ih =>
      cases front with
      | nil =>
          cases hpieces
          exact ⟨place, links + 1, .stop hhere, .link hhere hname hnext hlast hrest⟩
      | cons first front =>
          cases hpieces
          -- The pieces of the target come in front of the rest, which stays in two parts.
          obtain ⟨q, links', hfront, hback⟩ := ih (List.append_assoc _ _ _)
          exact ⟨q, links', .link hhere hname hnext (by simp) hfront, hback⟩
  | @step links place first others entry found hhere hname hnext hentry hrest ih =>
      cases front with
      | nil =>
          cases hpieces
          exact ⟨place, links, .stop hhere, .step hhere hname hnext hentry hrest⟩
      | cons first front =>
          cases hpieces
          obtain ⟨q, links', hfront, hback⟩ := ih rfl
          exact ⟨q, links', .step hhere hname hnext hentry hfront, hback⟩

/-- From a directory that does not have the next name, a walk goes no further. -/
theorem Leads.absent_of_free {rest : List String} {piece : String}
    (h : Leads d follow links place (piece :: rest) found) (hpiece : IsPlain piece)
    (hfree : d.get? (place ++ [piece]) = none) : found = .absent place piece !rest.isEmpty := by
  cases h with
  | idle _ hidle _ => exact absurd hidle hpiece.speaks
  | up => exact absurd rfl hpiece.down
  | free => rfl
  | lastLink _ _ hnext _ => cases hfree.symm.trans hnext
  | link _ _ hnext _ _ => cases hfree.symm.trans hnext
  | step _ _ hnext _ _ => cases hfree.symm.trans hnext

/-- A piece that says nothing leads on from where it is. -/
theorem Leads.of_idle {rest : List String} {piece : String}
    (h : Leads d follow links place (piece :: rest) found) (hidle : piece = "" ∨ piece = ".") :
    Leads d follow links place rest found := by
  cases h with
  | idle _ _ hrest => exact hrest
  | up => exact absurd hidle (by decide)
  | free _ hname => exact absurd hidle hname.speaks
  | lastLink _ hname => exact absurd hidle hname.speaks
  | link _ hname => exact absurd hidle hname.speaks
  | step _ hname => exact absurd hidle hname.speaks

/-- The last name of a path is the one that is missing, if a name is. -/
theorem Leads.last_missing {piece : String}
    (h : Leads d false links place [piece] (.absent parent name slash)) (hpiece : IsPlain piece) :
    parent = place ∧ name = piece := by
  cases h with
  | idle _ hidle _ => exact absurd hidle hpiece.speaks
  | up => exact absurd rfl hpiece.down
  | free => exact ⟨rfl, rfl⟩
  | link _ _ _ hlast _ => exact absurd rfl hlast
  | step _ _ _ _ hrest => cases hrest

/-! ## Pieces that say nothing -/

/-- The pieces of a path that say something. -/
def namesOf (pieces : List String) : List String :=
  pieces.filter fun piece => !(piece == "" || piece == ".")

/-- Where names lead when every symbolic link is followed, however many there are. -/
inductive Reaches (d : Disk) : Location → List String → Location → Prop
  | stop {place : Location} : Reaches d place [] place
  | up {place q : Location} {rest : List String} : Reaches d place.dropLast rest q →
      Reaches d place (".." :: rest) q
  | link {place q : Location} {name target : String} {rest : List String} : name ≠ ".." →
      d.get? (place ++ [name]) = some (.link target) →
      Reaches d (linkStart place target) (namesOf (piecesOf target) ++ rest) q →
      Reaches d place (name :: rest) q
  | step {place q : Location} {name : String} {rest : List String} {entry : Entry} : name ≠ ".." →
      d.get? (place ++ [name]) = some entry → (∀ target, entry ≠ .link target) →
      Reaches d (place ++ [name]) rest q → Reaches d place (name :: rest) q

theorem Reaches.unique {names : List String} {q' : Location} (h : Reaches d place names q)
    (h' : Reaches d place names q') : q = q' := by
  induction h with
  | stop =>
      cases h'
      rfl
  | up _ ih =>
      cases h' with
      | up h' => exact ih h'
      | link hname => exact absurd rfl hname
      | step hname => exact absurd rfl hname
  | link hname hnext _ ih =>
      cases h' with
      | up => exact absurd rfl hname
      | link _ hnext' h' =>
          cases hnext.symm.trans hnext'
          exact ih h'
      | step _ hnext' hentry =>
          cases hnext.symm.trans hnext'
          exact absurd rfl (hentry _)
  | step hname hnext hentry _ ih =>
      cases h' with
      | up => exact absurd rfl hname
      | link _ hnext' _ =>
          cases hnext.symm.trans hnext'
          exact absurd rfl (hentry _)
      | step _ _ _ h' => exact ih h'

theorem namesOf_idle {piece : String} (h : piece = "" ∨ piece = ".") (rest : List String) :
    namesOf (piece :: rest) = namesOf rest := by
  rcases h with rfl | rfl <;> rfl

theorem namesOf_spoken {piece : String} (h : ¬(piece = "" ∨ piece = ".")) (rest : List String) :
    namesOf (piece :: rest) = piece :: namesOf rest := by
  unfold namesOf
  rw [List.filter_cons_of_pos]
  simpa using h

/-- Only the pieces that say something decide where a path leads. -/
theorem Leads.reaches (h : Leads d true links place pieces (.present q e)) :
    Reaches d place (namesOf pieces) q := by
  generalize hfound : Found.present q e = found at h
  induction h with
  | stop =>
      cases hfound
      exact .stop
  | idle _ hidle _ ih =>
      rw [namesOf_idle hidle]
      exact ih hfound
  | up _ _ ih => exact .up (ih hfound)
  | free => cases hfound
  | lastLink _ _ _ hlast => simp at hlast
  | link _ hname hnext _ _ ih =>
      rw [namesOf_spoken hname.speaks]
      refine .link hname.down hnext ?_
      have hrest := ih hfound
      unfold namesOf at hrest ⊢
      rw [List.filter_append] at hrest
      exact hrest
  | step _ hname hnext hentry _ ih =>
      rw [namesOf_spoken hname.speaks]
      exact .step hname.down hnext hentry (ih hfound)

end

end Expansion.Disk
