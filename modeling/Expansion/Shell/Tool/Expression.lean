import Expansion.Shell.Regex
import Expansion.Shell.Tool.Basic

/-!
# Expressions as arguments

`expr` computes an expression of which every argument is a token: alternatives, conditions, sums,
products, matches and functions of texts.

* **Every value is a text**; a text that writes a whole number can be counted with.
* The status tells whether the value is empty or zero.
-/

namespace Expansion.Shell.Tool.Expression

open Expansion.Shell

/-- Why an expression has no value. -/
inductive Fault where
  | missing (behind : Octets)
  | unexpected (word : Octets)
  | expected (wanted : Char) (behind : Octets)
  | expectedInstead (wanted : Char) (word : Octets)
  | notNumber
  | divisionByZero
  | regex (f : Regex.Fault)
  | empty

/-- A computation: the words that are left, and the last one that was taken. -/
structure Progress where
  words : List Octets
  last : Octets

/-- A computation of a value. -/
abbrev Computation (α : Type) := StateT Progress (Except Fault) α

/-- The number that a text writes. -/
def number? (cs : Octets) : Option Int :=
  let digits := if cs.head? = some '-' then cs.tail else cs
  if digits.isEmpty || !digits.all Char.isDigit then none
  else if cs.head? = some '-' then some (-(digitsValue digits)) else some (digitsValue digits)

/-- Whether a value counts as nothing. -/
def isNull (cs : Octets) : Bool :=
  cs.isEmpty || (number? cs = some 0)

/-- The next word, which stays. -/
def peek : Computation (Option Octets) := return (← get).words.head?

/-- Takes a word. -/
def take : Computation (Option Octets) := do
  let s ← get
  match s.words with
  | [] => return none
  | word :: rest =>
    set (⟨rest, word⟩ : Progress)
    return some word

/-- Takes one of some words. -/
def takeAny (texts : List String) : Computation (Option String) := do
  match ← peek with
  | none => return none
  | some word =>
    match texts.find? fun text => text.toList = word with
    | none => return none
    | some text =>
      let _ ← take
      return some text

/-- The value of a match at the start of a text: its group, or else its length. -/
def matchText (text pattern : Octets) : Except Fault Octets :=
  match Regex.parse ⟨false, false⟩ pattern with
  | .error f => .error (.regex f)
  | .ok r =>
    let hasGroup := countGroups r != 0
    match Regex.matchAt .plain r ⟨none, text, 0, []⟩ with
    | none => .ok (if hasGroup then [] else ['0'])
    | some q =>
      if hasGroup then .ok (((q.groups.lookup 1).map Prod.snd).getD [])
      else .ok (Octets.ofNat q.position)
where
  /-- The number of groups of an expression. -/
  countGroups : Regex → Nat
    | .seq a b | .either a b => countGroups a + countGroups b
    | .repeated turn _ _ => countGroups turn
    | .group _ part => countGroups part + 1
    | _ => 0

/-- The result of an operation on numbers. -/
def arithmetic (operation : String) (a b : Octets) : Except Fault Octets :=
  match number? a, number? b with
  | some x, some y =>
    match operation with
    | "+" => .ok (Octets.ofInt (x + y))
    | "-" => .ok (Octets.ofInt (x - y))
    | "*" => .ok (Octets.ofInt (x * y))
    | "/" => if y = 0 then .error .divisionByZero else .ok (Octets.ofInt (x.tdiv y))
    | _ => if y = 0 then .error .divisionByZero else .ok (Octets.ofInt (x.tmod y))
  | _, _ => .error .notNumber

/-- The result of a comparison. -/
def comparison (operation : String) (a b : Octets) : Octets :=
  let order : Ordering := match number? a, number? b with
    | some x, some y => compare x y
    | _, _ => if a = b then .eq else if a < b then .lt else .gt
  let holds : Bool := match operation with
    | "<" => order == .lt
    | "<=" => order != .gt
    | "=" | "==" => order == .eq
    | "!=" => order != .eq
    | ">=" => order != .lt
    | _ => order == .gt
  if holds then ['1'] else ['0']

/-- The position of the first character of a text that is one of some characters, from one. -/
def indexOf (text chars : Octets) : Nat :=
  match text.findIdx? chars.contains with
  | some i => i + 1
  | none => 0

mutual

/-- Computes alternatives. -/
def alternatives : Nat → Computation Octets
  | 0 => throw .empty
  | budget + 1 => do moreAlternatives budget (← conjunctions budget)

/-- Computes the alternatives behind a first one. -/
def moreAlternatives : Nat → Octets → Computation Octets
  | 0, first => return first
  | budget + 1, first => do
    if (← takeAny ["|"]).isSome then
      let second ← conjunctions budget
      let value := if !isNull first then first else if isNull second then ['0'] else second
      moreAlternatives budget value
    else return first

/-- Computes conditions that are all needed. -/
def conjunctions : Nat → Computation Octets
  | 0 => throw .empty
  | budget + 1 => do moreConjunctions budget (← comparisons budget)

/-- Computes the conditions behind a first one. -/
def moreConjunctions : Nat → Octets → Computation Octets
  | 0, first => return first
  | budget + 1, first => do
    if (← takeAny ["&"]).isSome then
      let second ← comparisons budget
      let value := if isNull first || isNull second then ['0'] else first
      moreConjunctions budget value
    else return first

/-- Computes comparisons. -/
def comparisons : Nat → Computation Octets
  | 0 => throw .empty
  | budget + 1 => do moreComparisons budget (← sums budget)

/-- Computes the comparisons behind a first value. -/
def moreComparisons : Nat → Octets → Computation Octets
  | 0, first => return first
  | budget + 1, first => do
    match ← takeAny ["<", "<=", "=", "==", "!=", ">=", ">"] with
    | some operation =>
      let second ← sums budget
      moreComparisons budget (comparison operation first second)
    | none => return first

/-- Computes sums. -/
def sums : Nat → Computation Octets
  | 0 => throw .empty
  | budget + 1 => do moreSums budget (← products budget)

/-- Computes the rest of a sum. -/
def moreSums : Nat → Octets → Computation Octets
  | 0, first => return first
  | budget + 1, first => do
    match ← takeAny ["+", "-"] with
    | some operation =>
      let second ← products budget
      match arithmetic operation first second with
      | .ok value => moreSums budget value
      | .error f => throw f
    | none => return first

/-- Computes products. -/
def products : Nat → Computation Octets
  | 0 => throw .empty
  | budget + 1 => do moreProducts budget (← matchings budget)

/-- Computes the rest of a product. -/
def moreProducts : Nat → Octets → Computation Octets
  | 0, first => return first
  | budget + 1, first => do
    match ← takeAny ["*", "/", "%"] with
    | some operation =>
      let second ← matchings budget
      match arithmetic operation first second with
      | .ok value => moreProducts budget value
      | .error f => throw f
    | none => return first

/-- Computes matches. -/
def matchings : Nat → Computation Octets
  | 0 => throw .empty
  | budget + 1 => do moreMatches budget (← primary budget)

/-- Computes the matches behind a first text. -/
def moreMatches : Nat → Octets → Computation Octets
  | 0, first => return first
  | budget + 1, first => do
    if (← takeAny [":"]).isSome then
      let pattern ← primary budget
      match matchText first pattern with
      | .ok value => moreMatches budget value
      | .error f => throw f
    else return first

/-- Computes a word, a function or what is in parentheses. -/
def primary : Nat → Computation Octets
  | 0 => throw .empty
  | budget + 1 => do
    let s ← get
    match ← take with
    | none => throw (.missing s.last)
    | some word =>
      match String.ofList word with
      | "(" =>
        let value ← alternatives budget
        let behind := (← get).last
        match ← take with
        | some [')'] => return value
        | some other => throw (.expectedInstead ')' other)
        | none => throw (.expected ')' behind)
      | ")" => throw (.unexpected word)
      | "+" =>
        match ← take with
        | some value => return value
        | none => throw (.missing word)
      | "length" =>
        let text ← primary budget
        return Octets.ofNat text.length
      | "match" =>
        let text ← primary budget
        let pattern ← primary budget
        match matchText text pattern with
        | .ok value => return value
        | .error f => throw f
      | "index" =>
        let text ← primary budget
        let chars ← primary budget
        return Octets.ofNat (indexOf text chars)
      | "substr" =>
        let text ← primary budget
        let start ← primary budget
        let count ← primary budget
        match number? start, number? count with
        | some i, some n =>
          if i ≤ 0 || n ≤ 0 then return []
          else return (text.drop (i.toNat - 1)).take n.toNat
        | _, _ => return []
      | _ => return word

end

/-- A fault in words. -/
def Fault.message : Fault → Octets
  | .missing behind =>
    Octets.ofString "syntax error: missing argument after " ++ quoteName behind
  | .unexpected word => Octets.ofString "syntax error: unexpected argument " ++ quoteName word
  | .expected wanted behind =>
    Octets.ofString "syntax error: expecting " ++ quoteName [wanted]
      ++ Octets.ofString " after " ++ quoteName behind
  | .expectedInstead wanted word =>
    Octets.ofString "syntax error: expecting " ++ quoteName [wanted]
      ++ Octets.ofString " instead of " ++ quoteName word
  | .notNumber => Octets.ofString "non-integer argument"
  | .divisionByZero => Octets.ofString "division by zero"
  | .regex f => Octets.ofString f.message
  | .empty => Octets.ofString "syntax error"

/-- Computes the expression of the arguments. -/
def tool : Tool := fun c =>
  let words := if c.arguments.head? = some ['-', '-'] then c.arguments.tail else c.arguments
  if words.isEmpty then c.missingOperand 2
  else
    match (alternatives (16 * words.length + 32)).run ⟨words, []⟩ with
    | .error f => c.fail 2 f.message
    | .ok (value, s) =>
      match s.words with
      | word :: _ => c.fail 2 (Fault.unexpected word).message
      | [] => { c.print (value ++ ['\n']) with status := if isNull value then 1 else 0 }

end Expansion.Shell.Tool.Expression
