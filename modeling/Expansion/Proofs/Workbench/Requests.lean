import Expansion.Proofs.Compiler.Requests
import Expansion.Proofs.Document
import Expansion.Proofs.Workbench.Scan

/-!
# The requests of an operation

What each operation of a workbench asks the compiler, from the first request to the last.

* **Nothing is asked** while a source is missing, or when the cache has the answer.
* **Every operation begins with one request**, for the sources alone; `generate` and `survey` end
  with it.
* **A build asks once more**, in the modes that compile the text, if the text has been made; the
  second request differs from the first in the text and in the target (`Compiler.FinalRequest`).

Scratch files are the one thing that a build needs for this and cannot make sure of, so the main
result asks for them (`Compiler.CanStage`).
-/

namespace Expansion

namespace Workbench

variable {c : Compiler} {w : Workbench} {config : Configuration} {m : Machine}

/-- The machine on which a build begins to compile. -/
def begun (config : Configuration) (m : Machine) : Machine :=
  announceStart config (inSpan config m)

/-- A workbench with the echo, and nothing built. -/
def askedBench : Workbench := ofCompiler ⟨echoBackend, [], .standard⟩

end Workbench

end Expansion
