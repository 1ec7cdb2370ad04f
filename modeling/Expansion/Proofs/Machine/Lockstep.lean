import Expansion.Proofs.Machine.Act

/-!
# Two runs side by side

Two machines are alike if nobody can tell them apart by more than the warnings that were discarded
on the way: they have the same disk, the same requests and, but for these events, the same log.

* **`Act.Lockstep R`** relates two pieces of work that lead from machines that are alike to machines
  that are alike, with answers that are related by `R`.
* What is done step by step is in lockstep if each step is (`Lockstep.bind`), so a proof that two
  programs run alike follows the text of the one program that both are an instance of.
-/

namespace Expansion

/-- The event of a warning that is forgotten. -/
def Log.Event.isDiscard (e : Log.Event) : Bool :=
  e.area == .compiler && e.message == "discarding compiler warning"

namespace Machine

/-- What was logged but for warnings that were forgotten. -/
def remarks (m : Machine) : List Log.Event := m.events.filter fun e => !e.isDiscard

/-- Machines that only differ in the warnings that were forgotten. -/
structure Alike (m n : Machine) : Prop where
  disk : m.disk = n.disk
  spans : m.spans = n.spans
  requests : m.requests = n.requests
  remarks : m.remarks = n.remarks

namespace Alike

variable {l m n : Machine}

theorem refl (m : Machine) : m.Alike m := ⟨rfl, rfl, rfl, rfl⟩

theorem symm (h : m.Alike n) : n.Alike m :=
  ⟨h.disk.symm, h.spans.symm, h.requests.symm, h.remarks.symm⟩

theorem trans (h : l.Alike m) (h' : m.Alike n) : l.Alike n :=
  ⟨h.disk.trans h'.disk, h.spans.trans h'.spans, h.requests.trans h'.requests,
    h.remarks.trans h'.remarks⟩

/-- The same event in both logs. -/
theorem log (h : m.Alike n) (level : Log.Level) (area : Log.Area) (message : String)
    (fields : Log.Fields) (milestone : Option Log.Milestone) :
    (m.log level area message fields milestone).Alike
      (n.log level area message fields milestone) where
  disk := h.disk
  spans := h.spans
  requests := h.requests
  remarks := by
    have hremarks := h.remarks
    unfold Machine.remarks at hremarks ⊢
    unfold Machine.log
    dsimp only
    rw [List.filter_append, List.filter_append, hremarks, h.spans]

/-- A warning that is forgotten makes no difference. -/
theorem discard (m : Machine) (fields : Log.Fields) :
    m.Alike (m.log .debug .compiler "discarding compiler warning" fields none) where
  disk := rfl
  spans := rfl
  requests := rfl
  remarks := by
    unfold Machine.remarks Machine.log
    dsimp only
    rw [List.filter_append]
    exact (List.append_nil _).symm

theorem record (h : m.Alike n) (request : CompileRequest) :
    (m.record request).Alike (n.record request) where
  disk := h.disk
  spans := h.spans
  requests := by
    unfold Machine.record
    dsimp only
    rw [h.requests, h.disk]
  remarks := h.remarks

/-- The same disk put into both. -/
theorem onto (h : m.Alike n) (d : Disk) : ({ m with disk := d } : Machine).Alike { n with disk := d }
    where
  disk := rfl
  spans := h.spans
  requests := h.requests
  remarks := h.remarks

/-- The same spans put into both. -/
theorem inside (h : m.Alike n) (spans : List Log.Span) :
    ({ m with spans := spans } : Machine).Alike { n with spans := spans } where
  disk := h.disk
  spans := rfl
  requests := h.requests
  remarks := h.remarks

end Alike

end Machine

/-- Two outcomes that agree on whether there is an answer. -/
inductive Outcomes {ε ε' α β : Type} (F : ε → ε' → Prop) (R : α → β → Prop) :
    Except ε α → Except ε' β → Prop
  | ok {a : α} {b : β} : R a b → Outcomes F R (.ok a) (.ok b)
  | error {e : ε} {e' : ε'} : F e e' → Outcomes F R (.error e) (.error e')

theorem Outcomes.of_eq {ε α : Type} {F : ε → ε → Prop} (hF : ∀ e, F e e) {x y : Except ε α}
    (h : x = y) : Outcomes F Eq x y := by
  subst h
  cases x with
  | ok a => exact .ok rfl
  | error e => exact .error (hF e)

/-- Outcomes that agree in all are equal. -/
theorem Outcomes.eq {ε α : Type} {x y : Except ε α} (h : Outcomes Eq Eq x y) : x = y := by
  cases h with
  | ok h => rw [h]
  | error h => rw [h]

namespace Act

/-- Pieces of work that lead from machines that are alike to related answers and to machines that are
alike. -/
def Lockstep {α β : Type} (R : α → β → Prop) (x : StateM Machine α) (y : StateM Machine β) : Prop :=
  ∀ m n : Machine, m.Alike n → R (x m).1 (y n).1 ∧ (x m).2.Alike (y n).2

namespace Lockstep

variable {α β γ δ : Type} {R : α → β → Prop} {S : γ → δ → Prop} {F : Failure → Failure → Prop}

/-! ## Steps -/

theorem pure {a : α} {b : β} (h : R a b) :
    Lockstep R (Pure.pure a : StateM Machine α) (Pure.pure b : StateM Machine β) :=
  fun _ _ hmn => ⟨h, hmn⟩

theorem seq {x : StateM Machine α} {y : StateM Machine β} {f : α → StateM Machine γ}
    {g : β → StateM Machine δ} (hx : Lockstep R x y)
    (hf : ∀ a b, R a b → Lockstep S (f a) (g b)) : Lockstep S (x >>= f) (y >>= g) := by
  intro m n hmn
  obtain ⟨hanswer, hafter⟩ := hx m n hmn
  exact hf _ _ hanswer _ _ hafter

/-- Related answers are related in another way, if the one relation implies the other. -/
theorem weaken {R' : α → β → Prop} {x : StateM Machine α} {y : StateM Machine β}
    (hx : Lockstep R x y) (h : ∀ a b, R a b → R' a b) : Lockstep R' x y := fun m n hmn =>
  ⟨h _ _ (hx m n hmn).1, (hx m n hmn).2⟩

theorem ok {a : α} {b : β} (h : R a b) :
    Lockstep (Outcomes F R) (Pure.pure a : Act α) (Pure.pure b : Act β) :=
  fun _ _ hmn => ⟨.ok h, hmn⟩

theorem fail {e e' : Failure} (h : F e e') :
    Lockstep (Outcomes F R) (Act.fail e : Act α) (Act.fail e' : Act β) :=
  fun _ _ hmn => ⟨.error h, hmn⟩

/-- Work in two steps, the second only for answers of the first. -/
theorem bind {x : Act α} {y : Act β} {f : α → Act γ} {g : β → Act δ}
    (hx : Lockstep (Outcomes F R) x y)
    (hf : ∀ a b, R a b → Lockstep (Outcomes F S) (f a) (g b)) :
    Lockstep (Outcomes F S) (x >>= f : Act γ) (y >>= g : Act δ) := by
  intro m n hmn
  obtain ⟨hanswer, hafter⟩ := hx m n hmn
  rw [bind_apply, bind_apply]
  cases hm : x m with
  | mk answer after =>
      cases hn : y n with
      | mk answer' after' =>
          rw [hm, hn] at hanswer hafter
          cases hanswer with
          | ok h => exact hf _ _ h _ _ hafter
          | error h => exact ⟨.error h, hafter⟩

theorem modify {f g : Machine → Machine} (h : ∀ m n : Machine, m.Alike n → (f m).Alike (g n)) :
    Lockstep (Outcomes F Eq) (Act.modify f) (Act.modify g) :=
  fun m n hmn => ⟨.ok rfl, h m n hmn⟩

theorem debug (area : Log.Area) (message : String) (fields : Log.Fields) :
    Lockstep (Outcomes F Eq) (Act.debug area message fields) (Act.debug area message fields) :=
  modify fun _ _ hmn => hmn.log _ _ _ _ _

theorem milestone (level : Log.Level) (area : Log.Area) (milestone : Log.Milestone)
    (message : String) (fields : Log.Fields) :
    Lockstep (Outcomes F Eq) (Act.milestone level area milestone message fields)
      (Act.milestone level area milestone message fields) :=
  modify fun _ _ hmn => hmn.log _ _ _ _ _

theorem disk : Lockstep (Outcomes F Eq) Act.disk Act.disk :=
  fun _ _ hmn => ⟨.ok hmn.disk, hmn⟩

theorem forM {f g : γ → Act PUnit} (h : ∀ item, Lockstep (Outcomes F Eq) (f item) (g item))
    (items : List γ) :
    Lockstep (Outcomes F Eq) (items.forM f : Act PUnit) (items.forM g : Act PUnit) := by
  induction items with
  | nil => exact ok rfl
  | cons item rest ih => exact bind (h item) fun _ _ _ => ih

/-! ## Operations on the disk -/

theorem onDisk (hF : ∀ e, F e e) (path? : Option FilePath) (f : Disk → Except Disk.Error Disk) :
    Lockstep (Outcomes F Eq) (Act.onDisk path? f) (Act.onDisk path? f) := by
  intro m n hmn
  unfold Act.onDisk
  rw [hmn.disk]
  cases f n.disk with
  | ok d => exact ⟨.ok rfl, hmn.onto d⟩
  | error e => exact ⟨.error (hF _), hmn⟩

theorem attempt (hF : ∀ e, F e e) (path? : Option FilePath) (f : Disk → Disk.Attempt) :
    Lockstep (Outcomes F Eq) (Act.attempt path? f) (Act.attempt path? f) := by
  intro m n hmn
  unfold Act.attempt
  rw [hmn.disk]
  cases f n.disk with
  | mk outcome d =>
      cases outcome with
      | ok u => exact ⟨.ok rfl, hmn.onto d⟩
      | error e => exact ⟨.error (hF _), hmn.onto d⟩

theorem within {x : Act α} {y : Act β} (span : Log.Span) (hx : Lockstep (Outcomes F R) x y) :
    Lockstep (Outcomes F R) (Act.within span x) (Act.within span y) := by
  intro m n hmn
  have hspans : m.spans ++ [span] = n.spans ++ [span] := by rw [hmn.spans]
  have hstart := hmn.inside (m.spans ++ [span])
  obtain ⟨hanswer, hafter⟩ := hx _ _ hstart
  rw [hspans] at hanswer hafter
  unfold Act.within
  rw [hspans, hmn.spans]
  exact ⟨hanswer, hafter.inside _⟩

theorem removing {x : Act α} {y : Act β} (p : FilePath) (hx : Lockstep (Outcomes F R) x y) :
    Lockstep (Outcomes F R) (Act.removing p x) (Act.removing p y) := by
  intro m n hmn
  obtain ⟨hanswer, hafter⟩ := hx m n hmn
  rw [removing_apply, removing_apply, hafter.disk]
  exact ⟨hanswer, hafter.onto _⟩

/-- Both runs take the same path for their scratch directory. -/
theorem withScratchDirectory (hF : ∀ e, F e e) (stem : String) {f : FilePath → Act α}
    {g : FilePath → Act β} (h : ∀ p, Lockstep (Outcomes F R) (f p) (g p)) :
    Lockstep (Outcomes F R) (Act.withScratchDirectory stem f) (Act.withScratchDirectory stem g) := by
  refine bind disk ?_
  rintro d _ rfl
  refine bind (onDisk hF _ _) ?_
  intro _ _ _
  exact removing _ (h _)

theorem withScratchFile (hF : ∀ e, F e e) (stem suffix : String) (content : ByteArray)
    {f : FilePath → Act α} {g : FilePath → Act β} (h : ∀ p, Lockstep (Outcomes F R) (f p) (g p)) :
    Lockstep (Outcomes F R) (Act.withScratchFile stem suffix content f)
      (Act.withScratchFile stem suffix content g) := by
  refine bind disk ?_
  rintro d _ rfl
  refine bind (onDisk hF _ _) ?_
  intro _ _ _
  exact removing _ (h _)

end Lockstep

end Act

end Expansion
