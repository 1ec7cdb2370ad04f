import Expansion.Machine

/-!
# Taking work apart

What a piece of work that succeeded or failed has done, step by step. A proof about work names the
machine between two steps (`bind_ok`, `bind_error`) and never opens the monad.

Work with a scratch file or directory is the work, and behind it one step that takes the path away
(`removing_apply`), whatever the work came to.
-/

namespace Expansion

/-- The disk without what a path leads to, if anything is there. -/
def Disk.without (d : Disk) (p : FilePath) : Disk :=
  match d.remove p with
  | .ok left => left
  | .error _ => d

namespace Act

variable {α β : Type} {m m' : Machine}

@[simp] theorem fail_apply (f : Failure) (m : Machine) : (fail f : Act α) m = (.error f, m) := rfl

@[simp] theorem disk_apply (m : Machine) : disk m = (.ok m.disk, m) := rfl

@[simp] theorem modify_apply (f : Machine → Machine) (m : Machine) :
    modify f m = (.ok (), f m) := rfl

theorem bind_apply (x : Act α) (f : α → Act β) (m : Machine) :
    (x >>= f) m =
      match x m with
      | (.ok a, after) => f a after
      | (.error e, after) => (.error e, after) := by
  show ExceptT.bindCont f (x m).1 (x m).2 = _
  cases h : x m with
  | mk r after => cases r <;> rfl

/-- Work in two steps that succeeded: both did. -/
theorem bind_ok {x : Act α} {f : α → Act β} {b : β} (h : (x >>= f) m = (.ok b, m')) :
    ∃ a between, x m = (.ok a, between) ∧ f a between = (.ok b, m') := by
  rw [bind_apply] at h
  cases hx : x m with
  | mk r between =>
      rw [hx] at h
      cases r with
      | ok a => exact ⟨a, between, rfl, h⟩
      | error e => exact absurd (congrArg Prod.fst h) (by simp)

/-- Work in two steps that failed: the first did, or the second after it. -/
theorem bind_error {x : Act α} {f : α → Act β} {e : Failure} (h : (x >>= f) m = (.error e, m')) :
    x m = (.error e, m') ∨ ∃ a between, x m = (.ok a, between) ∧ f a between = (.error e, m') := by
  rw [bind_apply] at h
  cases hx : x m with
  | mk r between =>
      rw [hx] at h
      cases r with
      | ok a => exact .inr ⟨a, between, rfl, h⟩
      | error d =>
          have hd : (Except.error d : Except Failure β) = .error e := congrArg Prod.fst h
          have hm : between = m' := congrArg Prod.snd h
          injection hd with hd
          rw [hd, hm]
          exact .inl rfl

/-- Work goes on after a step that succeeded. -/
theorem bind_of_ok {x : Act α} {f : α → Act β} {a : α} {between : Machine}
    (h : x m = (.ok a, between)) : (x >>= f) m = f a between := by
  rw [bind_apply, h]

/-- Work ends at a step that failed. -/
theorem bind_of_error {x : Act α} {f : α → Act β} {e : Failure} {between : Machine}
    (h : x m = (.error e, between)) : (x >>= f) m = (.error e, between) := by
  rw [bind_apply, h]

/-- An answer that is only put in another form. -/
theorem bind_pure_apply (x : Act α) (f : α → β) (m : Machine) :
    (x >>= fun a => pure (f a)) m = ((x m).1.map f, (x m).2) := by
  rw [bind_apply]
  cases x m with
  | mk r after => cases r <;> rfl

/-- Steps for some items, each of which succeeds and leaves the disk alone. -/
theorem forM_of_ok {f : β → Act PUnit}
    (hf : ∀ item m, ∃ after, f item m = (.ok (), after) ∧ after.disk = m.disk) (items : List β)
    (m : Machine) : ∃ after, (items.forM f : Act PUnit) m = (.ok (), after) ∧
      after.disk = m.disk := by
  induction items generalizing m with
  | nil => exact ⟨m, rfl, rfl⟩
  | cons item rest ih =>
      obtain ⟨between, hitem, hbetween⟩ := hf item m
      obtain ⟨after, hrest, hafter⟩ := ih between
      exact ⟨after, (bind_of_ok hitem).trans hrest, hafter.trans hbetween⟩

/-- Changes for some items, made one after the other. -/
theorem forM_modify (change : β → Machine → Machine) (items : List β) (m : Machine) :
    (items.forM fun item => modify (change item) : Act PUnit) m =
      (.ok (), items.foldl (fun m item => change item m) m) := by
  induction items generalizing m with
  | nil => rfl
  | cons item rest ih => exact (bind_of_ok rfl).trans (ih (change item m))

/-! ## Operations on the disk -/

theorem onDisk_of_ok {path? : Option FilePath} {f : Disk → Except Disk.Error Disk} {d : Disk}
    (h : f m.disk = .ok d) : onDisk path? f m = (.ok (), { m with disk := d }) := by
  unfold onDisk
  rw [h]

theorem onDisk_of_error {path? : Option FilePath} {f : Disk → Except Disk.Error Disk}
    {error : Disk.Error} (h : f m.disk = .error error) :
    onDisk path? f m = (.error (.disk error path?), m) := by
  unfold onDisk
  rw [h]

theorem onDisk_ok {path? : Option FilePath} {f : Disk → Except Disk.Error Disk} {u : Unit}
    (h : onDisk path? f m = (.ok u, m')) :
    ∃ d, f m.disk = .ok d ∧ m' = { m with disk := d } := by
  unfold onDisk at h
  cases hf : f m.disk with
  | ok d =>
      rw [hf] at h
      exact ⟨d, rfl, (congrArg Prod.snd h).symm⟩
  | error e =>
      rw [hf] at h
      exact absurd (congrArg Prod.fst h) (by simp)

theorem onDisk_error {path? : Option FilePath} {f : Disk → Except Disk.Error Disk} {e : Failure}
    (h : onDisk path? f m = (.error e, m')) :
    ∃ error, f m.disk = .error error ∧ e = .disk error path? ∧ m' = m := by
  unfold onDisk at h
  cases hf : f m.disk with
  | ok d =>
      rw [hf] at h
      exact absurd (congrArg Prod.fst h) (by simp)
  | error error =>
      rw [hf] at h
      injection congrArg Prod.fst h with he
      exact ⟨error, rfl, he.symm, (congrArg Prod.snd h).symm⟩

theorem attempt_of_ok {path? : Option FilePath} {f : Disk → Disk.Attempt} {d : Disk}
    (h : (f m.disk).complete = .ok d) : attempt path? f m = (.ok (), { m with disk := d }) := by
  unfold attempt
  rw [Disk.Attempt.complete_ok h]

theorem attempt_ok {path? : Option FilePath} {f : Disk → Disk.Attempt} {u : Unit}
    (h : attempt path? f m = (.ok u, m')) :
    ∃ d, (f m.disk).complete = .ok d ∧ m' = { m with disk := d } := by
  unfold attempt at h
  split at h
  · rename_i d hf
    rw [hf]
    exact ⟨d, rfl, (congrArg Prod.snd h).symm⟩
  · exact absurd (congrArg Prod.fst h) (by simp)

theorem attempt_error {path? : Option FilePath} {f : Disk → Disk.Attempt} {e : Failure}
    (h : attempt path? f m = (.error e, m')) :
    ∃ error, (f m.disk).complete = .error error ∧ e = .disk error path? ∧
      m' = { m with disk := (f m.disk).2 } := by
  unfold attempt at h
  split at h
  · exact absurd (congrArg Prod.fst h) (by simp)
  · rename_i error d hf
    rw [hf]
    injection congrArg Prod.fst h with he
    exact ⟨error, rfl, he.symm, (congrArg Prod.snd h).symm⟩

theorem removing_apply (p : FilePath) (work : Act α) (m : Machine) :
    removing p work m =
      ((work m).1, { (work m).2 with disk := (work m).2.disk.without p }) := by
  unfold removing Disk.without
  cases work m with
  | mk result after =>
      dsimp only
      cases after.disk.remove p <;> rfl

/-- Taking away what the work leaves behind does not change its answer. -/
theorem removing_fst (p : FilePath) (work : Act α) (m : Machine) :
    (removing p work m).1 = (work m).1 := by
  rw [removing_apply]

/-- Work with a scratch file that can be made. -/
theorem withScratchFile_apply {stem suffix : String} {content : ByteArray} {d : Disk}
    (h : m.disk.writeFile (m.disk.freshScratch stem suffix) content = .ok d)
    (work : FilePath → Act α) :
    withScratchFile stem suffix content work m =
      removing (m.disk.freshScratch stem suffix) (work (m.disk.freshScratch stem suffix))
        { m with disk := d } := by
  unfold withScratchFile
  rw [bind_of_ok (disk_apply m), bind_of_ok (onDisk_of_ok h)]

/-- Work with a scratch directory is the same as other work that does the same in the directory. -/
theorem withScratchDirectory_congr {stem : String} {work other : FilePath → Act α}
    (h : work (m.disk.freshScratch stem "") = other (m.disk.freshScratch stem "")) :
    withScratchDirectory stem work m = withScratchDirectory stem other m := by
  unfold withScratchDirectory
  rw [bind_of_ok (disk_apply m), bind_of_ok (disk_apply m), h]

/-- Work with a scratch directory that succeeded: the directory was made, the work succeeded in it,
and the directory was taken away. -/
theorem withScratchDirectory_ok {stem : String} {work : FilePath → Act α} {a : α}
    (h : withScratchDirectory stem work m = (.ok a, m')) :
    ∃ made after, m.disk.makeDirectory (m.disk.freshScratch stem "") = .ok made ∧
      work (m.disk.freshScratch stem "") { m with disk := made } = (.ok a, after) ∧
      m'.disk = after.disk.without (m.disk.freshScratch stem "") := by
  obtain ⟨d, between, hdisk, h⟩ := bind_ok h
  cases hdisk
  obtain ⟨_, start, hmake, hwork⟩ := bind_ok h
  obtain ⟨made, hmade, rfl⟩ := onDisk_ok hmake
  rw [removing_apply] at hwork
  have hresult := congrArg Prod.fst hwork
  have hend := congrArg (fun answer => answer.2.disk) hwork
  exact ⟨made, (work (m.disk.freshScratch stem "") { m with disk := made }).2, hmade,
    Prod.ext hresult rfl, hend.symm⟩

/-- Work with a scratch directory that failed: there was no making the directory, or the work failed
in it. -/
theorem withScratchDirectory_error {stem : String} {work : FilePath → Act α} {e : Failure}
    (h : withScratchDirectory stem work m = (.error e, m')) :
    (∃ error, m.disk.makeDirectory (m.disk.freshScratch stem "") = .error error ∧
      e = .disk error (some (m.disk.freshScratch stem ""))) ∨
      ∃ between after, work (m.disk.freshScratch stem "") between = (.error e, after) := by
  rcases bind_error h with hdisk | ⟨d, between, hdisk, h⟩
  · exact absurd (congrArg Prod.fst hdisk) (by simp)
  · cases hdisk
    rcases bind_error h with hmake | ⟨_, made, -, hwork⟩
    · obtain ⟨error, hfault, he, -⟩ := onDisk_error hmake
      exact .inl ⟨error, hfault, he⟩
    · refine .inr ⟨made, _, Prod.ext ?_ rfl⟩
      rw [← removing_fst, hwork]

end Act

end Expansion
