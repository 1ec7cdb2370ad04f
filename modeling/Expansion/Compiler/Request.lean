import Expansion.Disk.FilePath

/-!
# Requests to a compiler

What a compiler is asked to do: turn some sources into a module, with references and flags, either
to be handed back alone or to be written to a file as well.
-/

namespace Expansion

/-- Where the compiled module goes. -/
inductive CompileTarget where
  /-- To the caller alone. -/
  | memory
  /-- To a file, and to the caller. -/
  | file (path : FilePath)
  deriving DecidableEq, Repr

/-- What a compiler is asked to do. -/
structure CompileRequest where
  sources : List FilePath
  references : List FilePath
  flags : List String
  target : CompileTarget
  deriving DecidableEq, Repr

end Expansion
