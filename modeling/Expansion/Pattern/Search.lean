import Expansion.Pattern.Basic

/-!
# Searching from left to right

The match of a pattern that starts first in a text and, of those that start there, is preferred by
the pattern's choices; and whether that match reaches the end of the text.

* **All ways to match are followed at once.** A `Thread` is what a way has still to match; the
  threads of a place are in order of preference and no two are alike.
* A thread that has nothing left to match is a match, and ends every thread behind it (`advance`).
* The number of different threads is bounded by the size of the pattern, and so is the budget of
  `settle`.
-/

namespace Expansion.Pattern

/-- The parts that are still to be matched, one after the other. -/
abbrev Thread := List Pattern

/-- Follows threads to their next characters. `seen` has all threads met so far; the result has, last
first, those that are at a character or at their end. -/
def settle (before after : Option Char) : Nat → List Thread → List Thread → List Thread →
    List Thread
  | 0, _, _, settled => settled
  | _ + 1, [], _, settled => settled
  | budget + 1, thread :: rest, seen, settled =>
    if seen.contains thread then settle before after budget rest seen settled
    else
      let go (next : List Thread) :=
        settle before after budget (next ++ rest) (thread :: seen) settled
      match thread with
      | [] | .one _ :: _ => settle before after budget rest (thread :: seen) (thread :: settled)
      | .empty :: later => go [later]
      | .place p :: later => go (if p.holds before after then [later] else [])
      | .seq a b :: later => go [a :: b :: later]
      | .either a b :: later => go [a :: later, b :: later]
      | .again turn greedy :: later =>
        let more := turn :: .again turn greedy :: later
        go (if greedy then [more, later] else [later, more])
      | .group _ part :: later => go [part :: later]

/-- The threads of a place, in order of preference. -/
def settled (p : Pattern) (before after : Option Char) (threads : List Thread) : List Thread :=
  (settle before after (8 * (p.size + threads.length + 1)) threads [] []).reverse

/-- The thread behind a character, if it accepts that. -/
def accept? (c : Char) : Thread → Option Thread
  | .one set :: later => if set.contains c then some later else none
  | _ => none

/-- The threads that a place still has: those in front of the first match. -/
def open? (threads : List Thread) : List Thread := threads.takeWhile fun thread => !thread.isEmpty

/-- Whether the match that is found reaches the end, from a place on: `threads` are those of the
place, and `searching` tells whether a match may still begin there. -/
def endsFrom (p : Pattern) : Option Char → List Char → List Thread → Bool → Bool
  | before, [], threads, searching =>
    let threads := threads ++ if searching then [[p]] else []
    (settled p before none threads).any List.isEmpty
  | before, c :: rest, threads, searching =>
    let threads := settled p before (some c) (threads ++ if searching then [[p]] else [])
    let matched := threads.any List.isEmpty
    endsFrom p (some c) rest ((open? threads).filterMap (accept? c)) (searching && !matched)

/-- Whether the first match in a text, if there is one, reaches its end. -/
def reachesEnd (p : Pattern) (text : String) : Bool := endsFrom p none text.toList [] true

end Expansion.Pattern
