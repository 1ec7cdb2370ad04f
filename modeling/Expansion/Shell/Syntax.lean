import Expansion.Shell.Octets

/-!
# The commands of a shell

What a script says: words with what is put into them, redirections, and commands made of commands.

* A word is a row of parts. **Quotation marks stay visible** as parts of their own, since a word of
  which nothing but marks is left is still a word.
* The text of a here-document stands behind the line that asks for it, so a redirection has only its
  number; the reader hands the texts out beside the commands.
-/

namespace Expansion.Shell

/-- What is asked of a parameter between braces. Most operations tell a parameter that is unset from
one that is set; with `emptyToo`, one that is empty counts as unset. -/
inductive Operation where
  | value
  | length
  /-- The operand if the parameter is unset. -/
  | default (emptyToo : Bool)
  /-- The operand if the parameter is set. -/
  | alternative (emptyToo : Bool)
  /-- A failure if the parameter is unset. -/
  | demand (emptyToo : Bool)
  /-- The operand, also as the new value, if the parameter is unset. -/
  | assign (emptyToo : Bool)
  /-- The value without an end that matches. -/
  | dropEnd (longest : Bool)
  /-- The value without a start that matches. -/
  | dropStart (longest : Bool)
  /-- Something that is no operation. -/
  | unknown
  deriving DecidableEq, Repr

/-- How a file is opened. -/
inductive Opening where
  | read
  | replace
  /-- As `replace`, whatever protects files from that. -/
  | overwrite
  | append
  | readWrite
  deriving DecidableEq, Repr

mutual

/-- A part of a word. -/
inductive Part where
  | text (quoted : Bool) (chars : Octets)
  /-- A quotation mark. -/
  | mark
  | parameter (name : Octets) (operation : Operation) (operand : List Part)
  /-- What commands print. -/
  | output (commands : Command)
  /-- The value of an arithmetic expression. -/
  | sum (expression : List Part)

/-- A stream led elsewhere. -/
inductive Redirection where
  | file (stream : Nat) (how : Opening) (target : List Part)
  /-- To or from where another stream leads. -/
  | stream (stream : Nat) (target : List Part)
  | document (stream : Nat) (number : Nat)

/-- A command. The commands that report a place know their line. -/
inductive Command where
  | nothing
  | simple (line : Nat) (assignments words : List (List Part)) (redirections : List Redirection)
  | redirected (line : Nat) (body : Command) (redirections : List Redirection)
  /-- One command after the other. -/
  | both (first second : Command)
  | andThen (first second : Command)
  | orElse (first second : Command)
  | negation (body : Command)
  | pipe (commands : List Command)
  /-- A command that runs beside those that follow. -/
  | background (body : Command)
  /-- A command that changes nothing of the shell. -/
  | separate (line : Nat) (body : Command) (redirections : List Redirection)
  | branch (condition body alternative : Command)
  /-- A command again and again, as long as a condition holds or, with `until`, does not. -/
  | loop (negated : Bool) (condition body : Command)
  | each (line : Nat) (name : Octets) (words : List (List Part)) (body : Command)
  | select (line : Nat) (subject : List Part) (cases : List (List (List Part) × Command))
  | define (line : Nat) (name : Octets) (body : Command)

end

/-- A word. -/
abbrev Word := List Part

instance : Inhabited Command := ⟨.nothing⟩

/-- The text of a word that has nothing but unquoted text. -/
def plainText? : Word → Option Octets
  | [.text false cs] => some cs
  | [] => some []
  | _ => none

/-- A text of a kind in front of a word, joined to the text of that kind that is there. -/
def consText (quoted : Bool) (cs : Octets) (word : Word) : Word :=
  match word with
  | .text quoted' cs' :: rest =>
    if quoted = quoted' then .text quoted (cs ++ cs') :: rest else .text quoted cs :: word
  | word => .text quoted cs :: word

/-- The name that a word assigns to, the equals sign behind it included, and the rest. -/
def splitAssignment? : Word → Option (Octets × Word)
  | .text false cs :: rest =>
    let name := cs.takeWhile isNameChar
    match cs.dropWhile isNameChar with
    | '=' :: value =>
      if isName name then some (name, if value.isEmpty then rest else .text false value :: rest)
      else none
    | _ => none
  | _ => none

/-- All parameters, each a word of its own. -/
def allArguments : Word := [.mark, .parameter ['@'] .value [], .mark]

end Expansion.Shell
