import Expansion.Disk.Access
import Expansion.Shell.Number

/-!
# Conditions

The language of `test`: conditions on texts, numbers and files, with `!`, `-a`, `-o` and
parentheses.

* **What a word is depends on its neighbours**: `-f` is an operand if it is the last word or has an
  operator of two sides behind it.
* With three words of which the second is such an operator, the first is an operand whatever it is.
-/

namespace Expansion.Shell.Condition

/-- What a word of a condition is. -/
inductive Kind where
  | stop
  | unary
  | binary
  | negation
  | conjunction
  | disjunction
  | opening
  | closing
  | operand
  deriving DecidableEq, Repr

/-- Why a condition has no answer. -/
abbrev Fault := Octets

/-- The operators on one operand. -/
def unaryOperators : List String :=
  ["-r", "-w", "-x", "-e", "-f", "-d", "-c", "-b", "-p", "-u", "-g", "-k", "-s", "-t", "-z", "-n",
    "-h", "-O", "-G", "-L", "-S"]

/-- The operators on two operands. -/
def binaryOperators : List String :=
  ["=", "!=", "<", ">", "-eq", "-ne", "-ge", "-gt", "-le", "-lt", "-nt", "-ot", "-ef"]

/-- What an operator is, if the word is one. -/
def operator? (word : Octets) : Option Kind :=
  let text := String.ofList word
  if unaryOperators.contains text then some .unary
  else if binaryOperators.contains text then some .binary
  else [("!", Kind.negation), ("-a", .conjunction), ("-o", .disjunction), ("(", .opening),
    (")", .closing)].lookup text

/-- What the first of some words is. -/
def kindOf : List Octets → Kind
  | [] => .stop
  | word :: rest =>
    match operator? word with
    | none => .operand
    | some .unary =>
      match rest with
      | [] => .operand
      | [_] => .unary
      | next :: _ => if operator? next = some .binary then .operand else .unary
    | some .opening => if rest.isEmpty then .operand else .opening
    | some kind => kind

/-- The files that are no part of a disk. -/
def devices : List Octets :=
  ["/dev/null", "/dev/stdin", "/dev/stdout", "/dev/stderr", "/dev/zero", "/dev/tty"].map
    String.toList

/-- Whether a condition on one operand holds. -/
def unary (d : Disk) (operator operand : Octets) : Bool :=
  let p : FilePath := ⟨Octets.toString operand⟩
  let isDevice := devices.contains operand
  match String.ofList operator with
  | "-z" => operand.isEmpty
  | "-n" => !operand.isEmpty
  | "-t" => false
  | "-f" => d.isFile p
  | "-d" => d.isDirectory p
  | "-c" => isDevice
  | "-s" => match d.find p true with
    | .ok (.present _ (.file content _)) => content.size != 0
    | .ok (.present _ _) => true
    | _ => false
  | "-x" => match d.find p true with
    | .ok (.present _ (.file _ runnable)) => runnable
    | .ok (.present _ _) => true
    | _ => false
  | "-h" | "-L" => match d.find p false with
    | .ok (.present _ (.link _)) => true
    | _ => false
  | "-e" | "-r" | "-w" | "-O" | "-G" => isDevice || d.leadsSomewhere p
  | _ => false

/-- The number that a word writes. -/
def numberOf (word : Octets) : Except Fault Int :=
  match wholeNumber? (some 10) word with
  | some n => .ok n
  | none => .error (Octets.ofString "Illegal number: " ++ word)

/-- Whether a condition on two operands holds. -/
def binary (d : Disk) (left operator right : Octets) : Except Fault Bool :=
  let numbers (f : Int → Int → Bool) : Except Fault Bool := do
    return f (← numberOf left) (← numberOf right)
  match String.ofList operator with
  | "=" => .ok (left == right)
  | "!=" => .ok (left != right)
  | "<" => .ok (decide (left < right))
  | ">" => .ok (decide (right < left))
  | "-eq" => numbers (· == ·)
  | "-ne" => numbers (· != ·)
  | "-ge" => numbers fun a b => decide (b ≤ a)
  | "-gt" => numbers fun a b => decide (b < a)
  | "-le" => numbers fun a b => decide (a ≤ b)
  | "-lt" => numbers fun a b => decide (a < b)
  | "-ef" =>
    match d.canonical? ⟨Octets.toString left⟩, d.canonical? ⟨Octets.toString right⟩ with
    | some a, some b => .ok (a == b)
    | _, _ => .ok false
  -- The times at which files change are not known.
  | _ => .ok false

/-- A fault about an operator. -/
def about (operator : Octets) (message : String) : Fault :=
  if operator.isEmpty then Octets.ofString message
  else operator ++ Octets.ofString (": " ++ message)

mutual

/-- Decides conditions of which one is enough. The last word of the condition is the first of those
that are left. -/
def anyOf (d : Disk) : Nat → Kind → List Octets → Except Fault (Bool × List Octets)
  | 0, _, _ => .error []
  | budget + 1, kind, words => do
    let (first, words) ← allOf d budget kind words
    if kindOf words.tail = .disjunction then
      let words := words.drop 2
      let (second, words) ← anyOf d budget (kindOf words) words
      return (first || second, words)
    else return (first, words)

/-- Decides conditions that are all needed. -/
def allOf (d : Disk) : Nat → Kind → List Octets → Except Fault (Bool × List Octets)
  | 0, _, _ => .error []
  | budget + 1, kind, words => do
    let (first, words) ← negated d budget kind words
    if kindOf words.tail = .conjunction then
      let words := words.drop 2
      let (second, words) ← allOf d budget (kindOf words) words
      return (first && second, words)
    else return (first, words)

/-- Decides a condition that may be negated. -/
def negated (d : Disk) : Nat → Kind → List Octets → Except Fault (Bool × List Octets)
  | 0, _, _ => .error []
  | budget + 1, kind, words => do
    if kind = .negation then
      let next := kindOf words.tail
      let (holds, words) ← negated d budget next (if next = .stop then words else words.tail)
      return (!holds, words)
    else primary d budget kind words

/-- Decides a condition without operators around it. -/
def primary (d : Disk) : Nat → Kind → List Octets → Except Fault (Bool × List Octets)
  | 0, _, _ => .error []
  | budget + 1, kind, words =>
    match kind with
    | .stop => .ok (false, words)
    | .opening =>
      let inner := words.tail
      if kindOf inner = .closing then .ok (false, inner)
      else do
        let (holds, words) ← anyOf d budget (kindOf inner) inner
        if kindOf words.tail = .closing then return (holds, words.tail)
        else .error (about [] "closing paren expected")
    | .unary =>
      match words with
      | operator :: operand :: rest => .ok (unary d operator operand, operand :: rest)
      | words => .error (about (words.headD []) "argument expected")
    | _ =>
      if kindOf words.tail = .binary then
        match words with
        | left :: operator :: right :: rest => do
          return (← binary d left operator right, right :: rest)
        | words => .error (about (words.tail.headD []) "argument expected")
      else .ok (words.head?.any fun word => !word.isEmpty, words)

end

/-- Decides the condition of some words of which the first is of a kind. -/
def decideFrom (d : Disk) (kind : Kind) (words : List Octets) : Except Fault Bool := do
  let (holds, rest) ← anyOf d (4 * words.length + 8) kind words
  match rest with
  | last :: _ :: _ => .error (about last "unexpected operator")
  | _ => return holds

/-- Decides the condition of some words. -/
def holds (d : Disk) (words : List Octets) : Except Fault Bool :=
  match words with
  | [] => .ok false
  | [_, operator, _] =>
    if operator? operator = some .binary then decideFrom d .operand words
    else special words
  | [_, _, _, _] => special words
  | words => decideFrom d (kindOf words) words
where
  /-- Decides a condition that a negation begins or parentheses enclose. -/
  special (words : List Octets) : Except Fault Bool :=
    if words.head? = some ['('] && words.getLast? = some [')'] then
      let inner := words.tail.dropLast
      decideFrom d (kindOf inner) inner
    else if words.head? = some ['!'] then do
      let inner := words.tail
      let direct := inner.length = 3 && operator? (inner.getD 1 []) = some .binary
      return !(← decideFrom d (if direct then .operand else kindOf inner) inner)
    else decideFrom d (kindOf words) words

end Expansion.Shell.Condition
