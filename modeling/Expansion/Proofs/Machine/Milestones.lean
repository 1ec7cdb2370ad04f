import Expansion.Proofs.Machine.Compositional

/-!
# Standard events

Which standard events a piece of work logs. Details may be logged at any time.

* **`Unmarked`** work logs no standard event, however it ends.
* **`Announces events`** is said of work that logs the standard events if it succeeds and none if it
  fails: the event comes last, when all that could fail has been done.
* Both pass from the parts of work to the whole, and scratch files make no difference to them.
-/

namespace Expansion

/-- A standard event is one more behind those before it, and a detail is none. -/
theorem Machine.milestones_log (level : Log.Level) (area : Log.Area) (message : String)
    (fields : Log.Fields) (milestone : Option Log.Milestone) (m : Machine) :
    (m.log level area message fields milestone).milestones =
      m.milestones ++ milestone.toList := by
  unfold Machine.milestones Machine.log
  rw [List.filterMap_append]
  cases milestone <;> rfl

namespace Act

variable {α β : Type} {events : List Log.Milestone}

/-- Work that logs no standard event. -/
def Unmarked {α : Type} (x : StateM Machine α) : Prop :=
  ∀ m : Machine, (x m).2.milestones = m.milestones

/-- Work that logs these standard events if it succeeds and none if it fails. -/
def Announces (events : List Log.Milestone) (x : Act α) : Prop :=
  ∀ m : Machine, (x m).2.milestones = m.milestones ++ if (x m).1.isOk then events else []

theorem unmarked_stepwise : Stepwise Unmarked where
  pure := fun _ _ => rfl
  detail := by
    intro α a level area message fields m
    rw [Machine.milestones_log, Option.toList_none, List.append_nil]
  seq := by
    intro α β x f hx hf m
    exact (hf (x m).1 m (x m).2 rfl (x m).2).trans (hx m)

theorem disk_unmarked : Unmarked Act.disk := fun _ => rfl

theorem announces_nil_iff {x : Act α} : Announces [] x ↔ Unmarked x := by
  unfold Announces Unmarked
  simp only [ite_self, List.append_nil]

/-! ## Steps -/

theorem Announces.ok {x : Act α} (h : Announces events x) {m after : Machine} {a : α}
    (hx : x m = (.ok a, after)) : after.milestones = m.milestones ++ events := by
  have hlogged := h m
  rw [hx] at hlogged
  exact hlogged

theorem Announces.error {x : Act α} (h : Announces events x) {m after : Machine} {e : Failure}
    (hx : x m = (.error e, after)) : after.milestones = m.milestones := by
  have hlogged := h m
  rw [hx] at hlogged
  exact hlogged.trans (List.append_nil _)

/-- Work that begins without standard events and ends with some. -/
theorem Announces.bind {x : Act α} {f : α → Act β} (hx : Unmarked x)
    (hf : ∀ a, Announces events (f a)) : Announces events (x >>= f) := by
  intro m
  have hlogged := hx m
  rw [bind_apply]
  cases hm : x m with
  | mk result after =>
      rw [hm] at hlogged
      cases result with
      | ok a =>
          dsimp only
          rw [hf a after, hlogged]
      | error e => exact hlogged.trans (List.append_nil _).symm

/-- An answer that is only put in another form. -/
theorem Announces.map {x : Act α} (hx : Announces events x) (f : α → β) :
    Announces events (x >>= fun a => Pure.pure (f a)) := by
  intro m
  have hlogged := hx m
  rw [bind_pure_apply]
  dsimp only
  rw [hlogged]
  cases (x m).1 <;> rfl

theorem announces_milestone (level : Log.Level) (area : Log.Area) (milestone : Log.Milestone)
    (message : String) (fields : Log.Fields) :
    Announces [milestone] (Act.milestone level area milestone message fields) := fun _ =>
  Machine.milestones_log _ _ _ _ _ _

/-! ## Operations on the disk -/

theorem onDisk_unmarked (path? : Option FilePath) (f : Disk → Except Disk.Error Disk) :
    Unmarked (onDisk path? f) := by
  intro m
  unfold onDisk
  split <;> rfl

theorem attempt_unmarked (path? : Option FilePath) (f : Disk → Disk.Attempt) :
    Unmarked (attempt path? f) := by
  intro m
  unfold attempt
  split <;> rfl

/-- Taking away what the work leaves behind is no event. -/
theorem Announces.removing {work : Act α} (h : Announces events work) (p : FilePath) :
    Announces events (removing p work) := by
  intro m
  rw [removing_apply]
  exact h m

theorem Announces.withScratchDirectory {work : FilePath → Act α}
    (h : ∀ p, Announces events (work p)) (stem : String) :
    Announces events (withScratchDirectory stem work) := by
  refine bind disk_unmarked ?_
  intro d
  refine bind (onDisk_unmarked _ _) ?_
  intro _
  exact (h _).removing _

theorem Announces.withScratchFile {work : FilePath → Act α} (h : ∀ p, Announces events (work p))
    (stem suffix : String) (content : ByteArray) :
    Announces events (withScratchFile stem suffix content work) := by
  refine bind disk_unmarked ?_
  intro d
  refine bind (onDisk_unmarked _ _) ?_
  intro _
  exact (h _).removing _

end Act

end Expansion
