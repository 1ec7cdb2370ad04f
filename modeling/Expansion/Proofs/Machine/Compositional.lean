import Expansion.Proofs.Machine.Act

/-!
# Properties that parts pass on to the whole

Some facts about work are proved step by step in the same way: that it depends on the disk alone,
that it keeps what was true of the disk, that it sends no request, that it logs no standard event,
and that it answers one thing on every machine. `Stepwise` is what they have in common, `Sequential`
what logging a standard event has as well, `Routine` what looking at the disk has too, and
`Compositional` what the first two have, so the operations of a build are taken apart once and not
once for each.

* **`Blind`** work gives one answer and one disk on machines with one disk, whatever was logged.
* **`Preserves P`** work leads from a disk with `P` to a disk with `P`.
* **`Silent`** work leaves the requests as they were.
* **`Constant`** work answers without a look at the machine.
* Work in two steps has such a property if the first step has it, and the second has it for every
  answer that the first can give.
-/

namespace Expansion.Act

/-- Work whose answer and disk depend on the disk alone. -/
def Blind {α : Type} (x : StateM Machine α) : Prop :=
  ∀ m n : Machine, m.disk = n.disk → (x m).1 = (x n).1 ∧ (x m).2.disk = (x n).2.disk

/-- Work that keeps what is true of the disk. -/
def Preserves (P : Disk → Prop) {α : Type} (x : StateM Machine α) : Prop :=
  ∀ m : Machine, P m.disk → P (x m).2.disk

/-- Work that sends no request. -/
def Silent {α : Type} (x : StateM Machine α) : Prop :=
  ∀ m : Machine, (x m).2.requests = m.requests

/-- Work that gives one answer on every machine. -/
def Constant {α : Type} (x : StateM Machine α) : Prop :=
  ∀ m n : Machine, (x m).1 = (x n).1

/-- Blind work does on another machine with the disk what it did on the first. -/
theorem Blind.transfer {α : Type} {x : StateM Machine α} (h : Blind x) {m n after : Machine} {a : α}
    (hmn : m.disk = n.disk) (hm : x m = (a, after)) :
    ∃ after', x n = (a, after') ∧ after'.disk = after.disk := by
  obtain ⟨hanswer, hdisk⟩ := h m n hmn
  rw [hm] at hanswer hdisk
  exact ⟨(x n).2, Prod.ext hanswer.symm rfl, hdisk.symm⟩

/-- Where work answers the same on two machines, so does constant work that follows it. -/
theorem fst_bind_eq {α β : Type} {x : Act α} {f : α → Act β} {m n : Machine}
    (hx : (x m).1 = (x n).1) (hf : ∀ a, Constant (f a)) : ((x >>= f) m).1 = ((x >>= f) n).1 := by
  rw [bind_apply, bind_apply]
  cases hm : x m with
  | mk answer after =>
      cases hn : x n with
      | mk answer' after' =>
          rw [hm, hn] at hx
          obtain rfl : answer = answer' := hx
          cases answer with
          | ok a => exact hf a after after'
          | error e => rfl

/-- A property of logging details, that the parts of work pass on to the whole. -/
structure Stepwise (Q : ∀ {α : Type}, StateM Machine α → Prop) : Prop where
  pure : ∀ {α : Type} (a : α), Q (Pure.pure a : StateM Machine α)
  detail : ∀ {α : Type} (a : α) (level : Log.Level) (area : Log.Area) (message : String)
    (fields : Log.Fields), Q (fun m => (a, m.log level area message fields none) : StateM Machine α)
  /-- Two steps have it if both do. -/
  seq : ∀ {α β : Type} {x : StateM Machine α} {f : α → StateM Machine β}, Q x →
    (∀ a m after, x m = (a, after) → Q (f a)) → Q (x >>= f)

/-- Such a property that logging a standard event has as well. -/
structure Sequential (Q : ∀ {α : Type}, StateM Machine α → Prop) : Prop extends Stepwise Q where
  log : ∀ {α : Type} (a : α) (level : Log.Level) (area : Log.Area) (message : String)
    (fields : Log.Fields) (milestone : Option Log.Milestone),
    Q (fun m => (a, m.log level area message fields milestone) : StateM Machine α)
  detail := fun a level area message fields => log a level area message fields none

/-- Such a property that looking at the disk has as well. -/
structure Routine (Q : ∀ {α : Type}, StateM Machine α → Prop) : Prop extends Sequential Q where
  disk : Q Act.disk

/-- A property that the parts of work pass on to the whole. -/
structure Compositional (Q : ∀ {α : Type}, StateM Machine α → Prop) : Prop where
  /-- A step that leaves the disk as it is, and answers by the disk alone, has it. -/
  look : ∀ {α : Type} {x : StateM Machine α}, (∀ m, (x m).2.disk = m.disk) →
    (∀ m n : Machine, m.disk = n.disk → (x m).1 = (x n).1) → Q x
  /-- Two steps have it if both do. -/
  seq : ∀ {α β : Type} {x : StateM Machine α} {f : α → StateM Machine β}, Q x →
    (∀ a m after, x m = (a, after) → Q (f a)) → Q (x >>= f)

theorem constant_sequential : Sequential Constant where
  pure := fun _ _ _ => rfl
  log := fun _ _ _ _ _ _ _ _ => rfl
  seq := by
    intro α β x f hx hf m n
    show (f (x m).1 (x m).2).1 = (f (x n).1 (x n).2).1
    rw [hx n m]
    exact hf (x m).1 m (x m).2 rfl (x m).2 (x n).2

theorem blind_compositional : Compositional Blind where
  look := by
    intro α x hdisk hanswer m n hmn
    refine ⟨hanswer m n hmn, ?_⟩
    rw [hdisk, hdisk, hmn]
  seq := by
    intro α β x f hx hf m n hmn
    obtain ⟨hanswer, hdisk⟩ := hx m n hmn
    have hsecond := hf (x m).1 m (x m).2 rfl (x m).2 (x n).2 hdisk
    have hn : (x >>= f) n = f (x m).1 (x n).2 := by
      rw [hanswer]
      rfl
    rw [hn]
    exact hsecond

theorem preserves_compositional (P : Disk → Prop) : Compositional (Preserves P) where
  look := by
    intro α x hdisk _ m hm
    rw [hdisk]
    exact hm
  seq := by
    intro α β x f hx hf m hm
    exact hf (x m).1 m (x m).2 rfl (x m).2 (hx m hm)

namespace Compositional

variable {Q : ∀ {α : Type}, StateM Machine α → Prop}

theorem routine (hQ : Compositional Q) : Routine Q where
  pure := fun _ => hQ.look (fun _ => rfl) fun _ _ _ => rfl
  disk := hQ.look (fun _ => rfl) fun _ _ h => congrArg Except.ok h
  log := fun _ _ _ _ _ _ => hQ.look (fun _ => rfl) fun _ _ _ => rfl
  seq := hQ.seq

theorem modify (hQ : Compositional Q) {f : Machine → Machine} (hf : ∀ m, (f m).disk = m.disk) :
    Q (Act.modify f) :=
  hQ.look hf fun _ _ _ => rfl

end Compositional

namespace Stepwise

variable {Q : ∀ {α : Type}, StateM Machine α → Prop} {α β : Type}

theorem ok (hQ : Stepwise Q) (a : α) : Q (Pure.pure a : Act α) :=
  hQ.pure (Except.ok a : Except Failure α)

theorem fail (hQ : Stepwise Q) (f : Failure) : Q (Act.fail f : Act α) :=
  hQ.pure (Except.error f : Except Failure α)

theorem debug (hQ : Stepwise Q) (area : Log.Area) (message : String) (fields : Log.Fields) :
    Q (Act.debug area message fields) :=
  hQ.detail (Except.ok () : Except Failure Unit) .debug area message fields

/-- Work in two steps, the second only for answers that the first gives. -/
theorem bind (hQ : Stepwise Q) {x : Act α} {f : α → Act β} (hx : Q x)
    (hf : ∀ a m after, x m = (.ok a, after) → Q (f a)) : Q (x >>= f : Act β) := by
  have hseq : Q (Bind.bind (m := StateM Machine) x (ExceptT.bindCont f)) := by
    refine hQ.seq hx ?_
    intro r m after hr
    cases r with
    | ok a => exact hf a m after hr
    | error e => exact hQ.pure _
  exact hseq

theorem forM (hQ : Stepwise Q) {f : β → Act PUnit} {items : List β}
    (hf : ∀ a ∈ items, Q (f a)) : Q (items.forM f : Act PUnit) := by
  induction items with
  | nil => exact hQ.ok _
  | cons a rest ih =>
      refine hQ.bind (hf a List.mem_cons_self) ?_
      intro _ _ _ _
      exact ih fun b hb => hf b (List.mem_cons_of_mem a hb)

end Stepwise

end Expansion.Act
