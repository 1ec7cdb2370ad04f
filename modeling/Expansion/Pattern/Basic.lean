import Expansion.Pattern.CharSet

/-!
# Patterns of text

What a pattern is, however it is written: characters, places, one part after the other, and choices
in order of preference.

* **A choice is ordered**: of two ways to match, the one that prefers the first side comes first.
* A repetition is written with `again`, which stands behind the first turn (`plus`, `star`). That
  the first turn and the others are told apart matters where a turn may be empty: an empty turn then
  ends a repetition instead of being tried for ever.
* `group` numbers a part so that one may ask what it has matched, and means no more than the part.
-/

namespace Expansion

/-- A condition on a place between two characters. -/
inductive Place where
  /-- The start of the text. -/
  | start
  /-- The end of the text. -/
  | stop
  /-- Between a character of a name and one that is none. -/
  | wordEdge
  | noWordEdge
  | wordStart
  | wordEnd
  deriving DecidableEq, Repr

/-- A pattern of text. -/
inductive Pattern where
  | empty
  | one (set : CharSet)
  | place (p : Place)
  | seq (first second : Pattern)
  /-- The first side, or rather than nothing the second. -/
  | either (first second : Pattern)
  /-- The rest of a repetition of which one turn is over. -/
  | again (turn : Pattern) (greedy : Bool)
  | group (number : Nat) (part : Pattern)
  deriving DecidableEq, Repr

/-- Whether the characters on the two sides, if there are any, make a place of this kind. -/
def Place.holds (p : Place) (before after : Option Char) : Bool :=
  let left := before.any CharSet.word.contains
  let right := after.any CharSet.word.contains
  match p with
  | .start => before.isNone
  | .stop => after.isNone
  | .wordEdge => left != right
  | .noWordEdge => left == right
  | .wordStart => !left && right
  | .wordEnd => left && !right

namespace Pattern

/-- One turn or more. -/
def plus (turn : Pattern) (greedy : Bool) : Pattern := .seq turn (.again turn greedy)

/-- A part that may be left out. -/
def optional (part : Pattern) (greedy : Bool) : Pattern :=
  if greedy then .either part .empty else .either .empty part

/-- Any number of turns. -/
def star (turn : Pattern) (greedy : Bool) : Pattern := optional (plus turn greedy) greedy

/-- The parts one after the other. -/
def ofParts (parts : List Pattern) : Pattern :=
  match parts with
  | [] => .empty
  | [part] => part
  | part :: rest => .seq part (ofParts rest)

/-- The number of constructors. -/
def size : Pattern → Nat
  | .empty | .one _ | .place _ => 1
  | .seq a b => a.size + b.size + 1
  | .either a b => a.size + b.size + 1
  | .again turn _ => turn.size + 1
  | .group _ part => part.size + 1

end Pattern

end Expansion
