import Expansion.Shell.Octets

/-!
# Fields

What is between a word and the arguments that it becomes: a text in which quoted characters are
marked as such, cut into segments of which some may be split.

* **Only what was put in for something is split**, so text that stands in the script is a segment
  that stays whole, and so is everything between quotes.
* The parameters between quotes are fields by themselves: they are held apart by the character zero,
  and a segment of them is split there and nowhere else.
* A quotation mark is a cell of its own, which keeps a field that is otherwise empty.
-/

namespace Expansion.Shell

/-- A character of an expanded word, or a quotation mark. -/
inductive Cell where
  | char (quoted : Bool) (c : Char)
  | mark
  deriving DecidableEq, Repr

/-- The text of cells. -/
def textOfCells (cells : List Cell) : Octets :=
  cells.filterMap fun
    | .char _ c => some c
    | .mark => none

/-- A text as cells. -/
def cellsOf (quoted : Bool) (cs : Octets) : List Cell := cs.map (.char quoted)

/-- Where a segment may be split. -/
inductive Splitting where
  | nowhere
  /-- At the separators that the shell is told to use. -/
  | atSeparators
  /-- At zeros, each of which separates. -/
  | atZeros
  deriving DecidableEq, Repr

/-- A piece of an expanded word. -/
structure Segment where
  splitting : Splitting
  cells : List Cell

/-- All cells of segments. -/
def cellsOfSegments (segments : List Segment) : List Cell := segments.flatMap Segment.cells

/-- The separators that are blanks. -/
def isDefaultSeparator (c : Char) : Bool := [' ', '\t', '\n', '\x00'].contains c

/-- A cut into fields that is under way. -/
structure Cut where
  separators : Octets
  /-- The fields so far, the last one first. -/
  fields : List (List Cell)
  /-- The cells of the field that is being read, the last one first. -/
  current : List Cell
  /-- Whether the last field was ended by blanks, which a separator may follow. -/
  behindBlanks : Bool
  /-- The number of fields that may still be begun. -/
  left : Option Nat
  /-- Where the blanks begin that the last field has at its end. -/
  trailing : Option Nat
  /-- Whether the last segment was split at zeros. -/
  zeros : Bool

namespace Cut

/-- The cut with one more cell. -/
def keep (cell : Cell) (s : Cut) : Cut :=
  { s with current := cell :: s.current, behindBlanks := false }

/-- The cut after a cell of the last field that may be begun: only blanks at its very end, and one
separator among them, do not belong to it. -/
def stepLast (cell : Cell) (isSeparator isBlank : Bool) (s : Cut) : Cut :=
  let next := { s with current := cell :: s.current }
  if isBlank then { next with trailing := some (s.trailing.getD s.current.length) }
  else
    { next with
      trailing := if isSeparator && s.behindBlanks then s.trailing else none
      behindBlanks := false }

/-- Whether the cell is a character of a kind. -/
def isChar (p : Char → Bool) : Cell → Bool
  | .char _ c => p c
  | .mark => false

/-- The cut after a cell of a segment that is split. -/
def step (zeros afterZeros : Bool) (s : Cut) (cell : Cell) : Cut :=
  let isSeparator := isChar (fun c => c = '\x00' || (!zeros && s.separators.contains c)) cell
  let isBlank := isSeparator && isChar isDefaultSeparator cell
  if s.left = some 0 then s.stepLast cell isSeparator isBlank
  else if s.behindBlanks && isSeparator then { s with behindBlanks := isBlank }
  else if isSeparator then
    let blanks := isBlank && !zeros && !afterZeros
    if s.current.isEmpty && blanks then { s with behindBlanks := false }
    else if s.left = some 1 then
      { s with
        left := some 0
        trailing := some s.current.length
        current := cell :: s.current
        behindBlanks := blanks }
    else
      { s with
        fields := s.current.reverse :: s.fields
        current := []
        left := s.left.map (· - 1)
        behindBlanks := blanks }
  else s.keep cell

/-- The cut after a segment. -/
def segment (s : Cut) (g : Segment) : Cut :=
  match g.splitting with
  | .nowhere => { s with current := g.cells.reverse ++ s.current }
  | splitting =>
    let zeros := splitting = .atZeros
    let after := g.cells.foldl (step zeros s.zeros) { s with behindBlanks := false }
    { after with zeros }

/-- The fields of a cut that is over. -/
def finish (s : Cut) : List (List Cell) :=
  let last := match s.trailing with
    | some n => s.current.reverse.take n
    | none => s.current.reverse
  (if s.zeros || !last.isEmpty then last :: s.fields else s.fields).reverse

end Cut

/-- The fields of segments, at most `limit` of them if that is given. -/
def splitFields (separators : Octets) (limit : Option Nat) (segments : List Segment) :
    List (List Cell) :=
  (segments.foldl Cut.segment ⟨separators, [], [], false, limit, none, false⟩).finish

end Expansion.Shell
