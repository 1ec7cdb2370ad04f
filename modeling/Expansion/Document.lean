import Expansion.Text.Blank
import Expansion.Text.Split

/-!
# The generated document

Fragments that say something, with an empty line between each two of them. **Blank fragments leave
no trace**, so a document is empty exactly when no fragment says anything.
-/

namespace Expansion.Document

/-- What stands between two fragments. -/
def separator : String := "\n\n"

/-- The document of some fragments. -/
def ofFragments (fragments : List String) : String :=
  Text.join separator (fragments.filter fun fragment => !Text.isBlankText fragment)

end Expansion.Document
