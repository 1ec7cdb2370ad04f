import Expansion.Pattern.CharSet
import Expansion.Shell.Field

/-!
# Patterns of a shell

A pattern holds for a text as a whole. A star stands for any characters, a question mark for one,
and brackets for one of some characters; everything else stands for itself, and so does everything
that was quoted.
-/

namespace Expansion.Shell

/-- An item of a pattern. -/
inductive GlobItem where
  | char (c : Char)
  | one
  | many
  | set (negated : Bool) (members : CharSet)
  deriving DecidableEq, Repr

/-- A pattern. -/
abbrev Glob := List GlobItem

namespace Glob

/-- Whether a cell is this character with its meaning. -/
def isActive (c : Char) (cell : Cell) : Bool := cell == .char false c

/-- The cells in which a backslash has taken the meaning of a character away. -/
def unescape : List Cell → List Cell
  | .char false '\\' :: .char _ c :: rest => .char true c :: unescape rest
  | .mark :: rest => unescape rest
  | cell :: rest => cell :: unescape rest
  | [] => []

/-- The character of a cell. -/
def charOf : Cell → Char
  | .char _ c => c
  | .mark => '\x00'

/-- The class that begins behind a bracket, and what is behind it. -/
def class? (cells : List Cell) : Option (CharSet × List Cell) :=
  match cells with
  | .char false ':' :: rest =>
    let name := rest.takeWhile fun cell => (charOf cell).isAlpha
    match rest.drop name.length with
    | .char false ':' :: .char false ']' :: after =>
      (CharSet.named.lookup (String.ofList (name.map charOf))).map (·, after)
    | _ => none
  | _ => none

/-- The members of a set, up to the bracket that closes it; `first` is true for the first member,
which may be such a bracket itself. -/
def members? (first : Bool) : Nat → List Cell → Option (CharSet × List Cell)
  | 0, _ => none
  | _, [] => none
  | budget + 1, cell :: rest =>
    if !first && isActive ']' cell then some (.none, rest)
    else
      let more (member : CharSet) (rest : List Cell) : Option (CharSet × List Cell) :=
        (members? false budget rest).map fun (members, after) => (.union member members, after)
      match (if isActive '[' cell then class? rest else none) with
      | some (set, after) => more set after
      | none =>
        match rest with
        | .char false '-' :: last :: after =>
          if isActive ']' last then more (.single (charOf cell)) rest
          else more (.between (charOf cell) (charOf last)) after
        | rest => more (.single (charOf cell)) rest

/-- The items of cells in which nothing is escaped any more, on a budget. -/
def itemsOf : Nat → List Cell → Glob
  | _, [] => []
  | 0, _ => []
  | budget + 1, cell :: rest =>
    if isActive '*' cell then .many :: itemsOf budget rest
    else if isActive '?' cell then .one :: itemsOf budget rest
    else if isActive '[' cell then
      let (negated, inner) := match rest with
        | .char false '!' :: inner => (true, inner)
        | inner => (false, inner)
      match members? true (inner.length + 1) inner with
      | some (members, after) => .set negated members :: itemsOf budget after
      | none => .char '[' :: itemsOf budget rest
    else .char (charOf cell) :: itemsOf budget rest

/-- The pattern of an expanded word. -/
def ofCells (cells : List Cell) : Glob :=
  let cells := unescape cells
  itemsOf (cells.length + 1) cells

/-- Whether anything of an expanded word has a meaning in a pattern. -/
def isPattern (cells : List Cell) : Bool :=
  cells.any fun cell => ['*', '?', '['].any (isActive · cell)

end Glob

/-- Whether the item stands for the character. -/
def GlobItem.holds : GlobItem → Char → Bool
  | .char d, c => d == c
  | .one, _ => true
  | .many, _ => true
  | .set negated members, c => members.contains c != negated

namespace Glob

/-- Whether a pattern holds for a text. -/
def holds : Glob → Octets → Bool
  | [], cs => cs.isEmpty
  | .many :: items, [] => holds items []
  | .many :: items, c :: cs => holds items (c :: cs) || holds (.many :: items) cs
  | _ :: _, [] => false
  | item :: items, c :: cs => item.holds c && holds items cs
termination_by items cs => items.length + cs.length

/-- What is left of a text without a start that a pattern holds for. -/
def withoutStart (longest : Bool) (pattern : Glob) (cs : Octets) : Octets :=
  let sizes := List.range (cs.length + 1)
  let sizes := if longest then sizes.reverse else sizes
  match sizes.find? fun n => pattern.holds (cs.take n) with
  | some n => cs.drop n
  | none => cs

/-- What is left of a text without an end that a pattern holds for. -/
def withoutEnd (longest : Bool) (pattern : Glob) (cs : Octets) : Octets :=
  let sizes := List.range (cs.length + 1)
  let sizes := if longest then sizes else sizes.reverse
  match sizes.find? fun n => pattern.holds (cs.drop n) with
  | some n => cs.take n
  | none => cs

end Glob

end Expansion.Shell
