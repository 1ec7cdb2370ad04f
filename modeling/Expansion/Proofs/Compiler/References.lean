import Expansion.Proofs.Compiler.Compile
import Mathlib.Data.List.Perm.Basic

/-!
# The references of a request

A compiler has references of its own, the baseline, and a caller has some more. What the caller adds
to the baseline is said here by order and number, and not by the function that joins the two
(`Adds`): those references that the baseline has in no spelling, in the caller's order and as often
as the caller names them.

* There is one such list for every baseline and every caller (`adds_iff`).
* **`references_of_requests`**: a request names the baseline and behind it what the caller adds. So
  every reference of the caller is in it in some spelling, it holds nothing but references of the
  two, and whoever sends the list again sends the same list.
-/

namespace Expansion.Compiler

variable {baseline references kept : List FilePath}

/-- Whether a list has a path, in this spelling or in another one. -/
def Has (paths : List FilePath) (p : FilePath) : Prop :=
  ∃ q ∈ paths, q.components = p.components

/-- What a caller's references add to a baseline. -/
structure Adds (baseline references kept : List FilePath) : Prop where
  /-- They are references of the caller, in the caller's order. -/
  inOrder : kept.Sublist references
  /-- The baseline has none of them. -/
  isNew : ∀ p ∈ kept, ¬Has baseline p
  /-- Those that the baseline does not have are named as often as the caller names them. -/
  asOften : ∀ p, ¬Has baseline p → kept.count p = references.count p

/-- The references that a baseline does not have. -/
def additions (baseline references : List FilePath) : List FilePath :=
  references.filter fun p => !baseline.any fun b => b.same p

theorem isNew_iff (baseline : List FilePath) (p : FilePath) :
    (!baseline.any fun b => b.same p) = true ↔ ¬Has baseline p := by
  rw [Bool.not_eq_true', ← Bool.not_eq_true, List.any_eq_true]
  unfold Has FilePath.same
  simp only [beq_iff_eq]

theorem adds_additions (baseline references : List FilePath) :
    Adds baseline references (additions baseline references) where
  inOrder := List.filter_sublist
  isNew := fun p hp => (isNew_iff baseline p).mp (List.mem_filter.mp hp).2
  asOften := fun p hp => List.count_filter ((isNew_iff baseline p).mpr hp)

/-- Order and number leave one list. -/
theorem adds_iff : Adds baseline references kept ↔ kept = additions baseline references := by
  constructor
  · intro h
    have hsublist : kept.Sublist (additions baseline references) := by
      have hall : kept.filter (fun p => !baseline.any fun b => b.same p) = kept :=
        List.filter_eq_self.mpr fun p hp => (isNew_iff baseline p).mpr (h.isNew p hp)
      rw [← hall]
      exact h.inOrder.filter _
    have hperm : kept.Perm (additions baseline references) := by
      rw [List.perm_iff_count]
      intro p
      have hadds := adds_additions baseline references
      by_cases hp : Has baseline p
      · rw [List.count_eq_zero_of_not_mem fun hmem => h.isNew p hmem hp,
          List.count_eq_zero_of_not_mem fun hmem => hadds.isNew p hmem hp]
      · rw [h.asOften p hp, hadds.asOften p hp]
    exact hsublist.eq_of_length hperm.length_eq
  · rintro rfl
    exact adds_additions baseline references

/-! ## The list that is sent -/

theorem has_of_mem {paths : List FilePath} {p : FilePath} (h : p ∈ paths) : Has paths p :=
  ⟨p, h, rfl⟩

/-- No reference of the caller is lost. -/
theorem Adds.complete (h : Adds baseline references kept) {p : FilePath} (hp : p ∈ references) :
    Has (baseline ++ kept) p := by
  by_cases hknown : Has baseline p
  · obtain ⟨q, hq, hsame⟩ := hknown
    exact ⟨q, List.mem_append_left kept hq, hsame⟩
  · have hkept : p ∈ kept := by
      rw [← List.count_pos_iff, h.asOften p hknown]
      exact List.count_pos_iff.mpr hp
    exact has_of_mem (List.mem_append_right baseline hkept)

/-- Nothing else is sent. -/
theorem Adds.sound (h : Adds baseline references kept) {p : FilePath} (hp : p ∈ baseline ++ kept) :
    p ∈ baseline ∨ p ∈ references :=
  (List.mem_append.mp hp).imp_right fun hkept => h.inOrder.subset hkept

/-- A list that has been sent adds to the baseline what it did the first time. -/
theorem Adds.again (h : Adds baseline references kept) : Adds baseline (baseline ++ kept) kept where
  inOrder := List.sublist_append_right baseline kept
  isNew := h.isNew
  asOften := by
    intro p hp
    have hbaseline : p ∉ baseline := fun hmem => hp (has_of_mem hmem)
    rw [List.count_append, List.count_eq_zero_of_not_mem hbaseline, Nat.zero_add]

/-! ## Requests -/

variable {c : Compiler} {b : Backend}

/-- A compilation asks the backend for its own request and for nothing else. -/
theorem compile_of_agree {sources : List FilePath} {flags : List String} {target : CompileTarget}
    (h : b (c.requestOf sources references flags target) =
      c.backend (c.requestOf sources references flags target)) :
    { c with backend := b }.compile sources references flags target =
      c.compile sources references flags target := by
  funext m
  have hrequest : { c with backend := b }.requestOf sources references flags target =
      c.requestOf sources references flags target := rfl
  rw [compile_apply, compile_apply, hrequest]
  dsimp only
  rw [h]

/-- With generated text it asks for requests that differ in nothing but the sources. -/
theorem compileWithGenerated_congr {flags : List String} {target : CompileTarget}
    (h : ∀ sources, b (c.requestOf sources references flags target) =
      c.backend (c.requestOf sources references flags target))
    (sources : List FilePath) (text : String) :
    { c with backend := b }.compileWithGenerated sources text references flags target =
      c.compileWithGenerated sources text references flags target := by
  unfold compileWithGenerated
  split
  · exact compile_of_agree (h _)
  · congr 1
    funext directory
    have hcompile : { c with backend := b }.compile
        (sources ++ [directory.child ("generated." ++ c.kinds.primarySource)]) references flags
        target = c.compile (sources ++ [directory.child ("generated." ++ c.kinds.primarySource)])
        references flags target := compile_of_agree (h _)
    dsimp only
    rw [hcompile]

/-- So all of them are for these references. -/
theorem compileWithGenerated_of_agree
    (h : ∀ request, request.references = mergeReferences c.baseline references →
      b request = c.backend request)
    (sources : List FilePath) (text : String) (flags : List String) (target : CompileTarget) :
    { c with backend := b }.compileWithGenerated sources text references flags target =
      c.compileWithGenerated sources text references flags target :=
  compileWithGenerated_congr (fun _ => h _ rfl) sources text

/-- **The references of every request** are the baseline and behind it what the caller adds. A
compilation asks the backend for one request, on a machine that has it for its last one; with
generated text, too, no other references are ever asked for, so a backend that agrees on these
compiles everything alike. No reference of the caller is missing, there are none but those of the
baseline and of the caller, and the list adds the same when it is sent again. -/
theorem references_of_requests (c : Compiler) (references : List FilePath) :
    ∃ kept, (∀ list, Adds c.baseline references list ↔ list = kept) ∧
      (∀ sources flags target m, ∃ start,
        start.requests = m.requests ++ [(⟨sources, c.baseline ++ kept, flags, target⟩, m.disk)] ∧
        c.compile sources references flags target m =
          (c.backend ⟨sources, c.baseline ++ kept, flags, target⟩ >>= settle target) start) ∧
      (∀ b : Backend, (∀ request, request.references = c.baseline ++ kept →
          b request = c.backend request) →
        ∀ sources text flags target,
          { c with backend := b }.compileWithGenerated sources text references flags target =
            c.compileWithGenerated sources text references flags target) ∧
      (∀ p ∈ references, Has (c.baseline ++ kept) p) ∧
      (∀ p ∈ c.baseline ++ kept, p ∈ c.baseline ∨ p ∈ references) ∧
      Adds c.baseline (c.baseline ++ kept) kept := by
  have hadds := adds_additions c.baseline references
  refine ⟨additions c.baseline references, fun _ => adds_iff, ?_, ?_, ?_, ?_, hadds.again⟩
  · intro sources flags target m
    exact ⟨sent (c.requestOf sources references flags target) m, rfl,
      compile_apply c sources references flags target m⟩
  · intro b hb sources text flags target
    exact compileWithGenerated_of_agree hb sources text flags target
  · exact fun p hp => hadds.complete hp
  · exact fun p hp => hadds.sound hp

/-- A baseline that the caller names in part, once with a slash too many, and twice a file that is
new: what is sent, and that the odd spelling is in it. -/
theorem references_of_spellings :
    let c : Compiler := ⟨echoBackend, [⟨"core.lib"⟩, ⟨"lib/rt.lib"⟩], .standard⟩
    let references : List FilePath := [⟨"x.lib"⟩, ⟨"lib//rt.lib"⟩, ⟨"x.lib"⟩]
    let sent : List FilePath := [⟨"core.lib"⟩, ⟨"lib/rt.lib"⟩, ⟨"x.lib"⟩, ⟨"x.lib"⟩]
    (∃ start, start.requests = [(⟨[], sent, [], .memory⟩, ⟨[], [], ⟨"/tmp"⟩⟩)] ∧
      c.compile [] references [] .memory (.ofDisk ⟨[], [], ⟨"/tmp"⟩⟩) =
        (c.backend ⟨[], sent, [], .memory⟩ >>= settle .memory) start) ∧
    Has sent ⟨"lib//rt.lib"⟩ := by
  intro c references sent
  obtain ⟨kept, hadds, hcompile, -, hcomplete, -, -⟩ := references_of_requests c references
  have hkept : [⟨"x.lib"⟩, ⟨"x.lib"⟩] = kept := by
    rw [← hadds, adds_iff]
    decide
  subst hkept
  exact ⟨hcompile [] [] .memory (.ofDisk ⟨[], [], ⟨"/tmp"⟩⟩),
    hcomplete ⟨"lib//rt.lib"⟩ (.tail _ (.head _))⟩

end Expansion.Compiler
