import Expansion.Shell.Number

/-!
# Arithmetic expressions

The expressions between `$((` and `))`, on whole numbers of sixty-four bits. An expression is read
and computed in one go, from left to right.

* A side that is not needed is read but not computed: in `0 && 1/0` nothing is divided.
* Assignments change what later names stand for; `evaluate` gives them back in order, so that the
  shell can make them.
* Every step down takes one from a budget.
-/

namespace Expansion.Shell.Arithmetic

/-- A token of an expression. -/
inductive Token where
  | number (n : Int)
  | name (name : Octets)
  | sign (text : String)
  /-- An equals sign behind the sign of an operation, if there is one. -/
  | assign (operation : Option String)
  /-- A character that means nothing here. -/
  | bad
  deriving DecidableEq, Repr

/-- The signs of operations on two numbers, the higher ones first, each with its rank. -/
def ranks : List (String × Nat) :=
  [("*", 8), ("/", 8), ("%", 8), ("+", 7), ("-", 7), ("<<", 6), (">>", 6), ("<", 5), ("<=", 5),
    (">", 5), (">=", 5), ("==", 4), ("!=", 4), ("&", 3), ("^", 2), ("|", 1)]

/-- The signs, longer ones before those that they begin with. -/
def signs : List String :=
  ["<<", ">>", "<=", ">=", "==", "!=", "&&", "||", "*", "/", "%", "+", "-", "<", ">", "&", "^", "|",
    "(", ")", "?", ":", "!", "~"]

/-- The signs that an equals sign behind them makes assignments of. -/
def assigning : List String := ["*", "/", "%", "+", "-", "<<", ">>", "&", "^", "|"]

/-- The sign at the start of a text. -/
def sign? (cs : Octets) : Option (Token × Octets) :=
  match signs.findSome? fun s => (Text.afterPrefix? s.toList cs).map (s, ·) with
  | some (s, '=' :: rest) =>
    if assigning.contains s then some (.assign (some s), rest) else some (.sign s, '=' :: rest)
  | some (s, rest) => some (.sign s, rest)
  | none =>
    match cs with
    | '=' :: rest => some (.assign none, rest)
    | _ => none

/-- The tokens of an expression, up to a character that means nothing. -/
def tokens : Nat → Octets → List Token
  | 0, _ => []
  | _, [] => []
  | budget + 1, c :: rest =>
    if c = ' ' || c = '\t' || c = '\n' then tokens budget rest
    else if c.isDigit then
      match leadingNumber? none (c :: rest) with
      | some n => .number n.signed.1 :: tokens budget n.rest
      | none => [.bad]
    else if isNameStart c then
      let name := (c :: rest).takeWhile isNameChar
      .name name :: tokens budget (rest.drop (name.length - 1))
    else
      match sign? (c :: rest) with
      | some (token, rest) => token :: tokens budget rest
      | none => [.bad]

/-- The state of a computation. -/
structure Progress where
  tokens : List Token
  /-- The assignments so far, the last one first. -/
  assigned : List (Octets × Int)

/-- Why an expression has no value. -/
inductive Fault where
  | expected (what : String)
  | divisionByZero
  /-- A variable with this value is no number. -/
  | notNumber (value : Octets)
  deriving DecidableEq, Repr

/-- A computation. -/
abbrev Computation (α : Type) := StateT Progress (Except Fault) α

/-- The number of numbers of sixty-four bits. -/
def wordBound : Nat := Nat.pow 2 64

/-- A number of sixty-four bits. -/
def wrap (n : Int) : Int := n.bmod wordBound

/-- An operation on the bits of two numbers. -/
def onBits (f : Nat → Nat → Nat) (a b : Int) : Int :=
  wrap (f (a % wordBound).toNat (b % wordBound).toNat)

/-- The number for a condition. -/
def ofBool (b : Bool) : Int := if b then 1 else 0

/-- The result of an operation. -/
def operate (operation : String) (a b : Int) : Except Fault Int :=
  let shift := (b % 64).toNat
  match operation with
  | "*" => .ok (wrap (a * b))
  | "/" => if b = 0 then .error .divisionByZero else .ok (wrap (a.tdiv b))
  | "%" => if b = 0 then .error .divisionByZero else .ok (a.tmod b)
  | "+" => .ok (wrap (a + b))
  | "-" => .ok (wrap (a - b))
  | "<<" => .ok (wrap (a * Nat.pow 2 shift))
  | ">>" => .ok (a.fdiv (Nat.pow 2 shift))
  | "<" => .ok (ofBool (a < b))
  | "<=" => .ok (ofBool (a ≤ b))
  | ">" => .ok (ofBool (b < a))
  | ">=" => .ok (ofBool (b ≤ a))
  | "==" => .ok (ofBool (a = b))
  | "!=" => .ok (ofBool (a ≠ b))
  | "&" => .ok (onBits (· &&& ·) a b)
  | "^" => .ok (onBits (· ^^^ ·) a b)
  | _ => .ok (onBits (· ||| ·) a b)

/-- The next token, which stays. -/
def peek : Computation (Option Token) := return (← get).tokens.head?

/-- Takes the next token. -/
def take : Computation (Option Token) := do
  let s ← get
  set { s with tokens := s.tokens.tail }
  return s.tokens.head?

/-- Takes a sign. -/
def expect (text what : String) : Computation Unit := do
  if (← peek) = some (.sign text) then
    let _ ← take
    return ()
  else throw (.expected what)

/-- The number of a variable. -/
def valueOf (value? : Octets → Option Octets) (name : Octets) : Computation Int := do
  match (← get).assigned.lookup name with
  | some n => return n
  | none =>
    let text := (value? name).getD []
    match wholeNumber? none text with
    | some n => return n
    | none => throw (.notNumber text)

mutual

/-- Computes an assignment or what may stand to the right of one; with `idle`, it is only read. -/
def assignment (value? : Octets → Option Octets) : Nat → Bool → Computation Int
  | 0, _ => throw (.expected "primary")
  | budget + 1, idle => do
    match (← get).tokens with
    | .name name :: .assign operation :: rest =>
      modify fun s => { s with tokens := rest }
      let right ← assignment value? budget idle
      if idle then return right
      else
        let value ← match operation with
          | none => pure right
          | some operation => do
            match operate operation (← valueOf value? name) right with
            | .ok n => pure n
            | .error f => throw f
        modify fun s => { s with assigned := (name, value) :: s.assigned }
        return value
    | _ => conditional value? budget idle

/-- Computes a choice between two sides. -/
def conditional (value? : Octets → Option Octets) : Nat → Bool → Computation Int
  | 0, _ => throw (.expected "primary")
  | budget + 1, idle => do
    let condition ← disjunction value? budget idle
    if (← peek) = some (.sign "?") then
      let _ ← take
      let first ← assignment value? budget (idle || condition = 0)
      expect ":" "':'"
      let second ← conditional value? budget (idle || condition ≠ 0)
      return if condition ≠ 0 then first else second
    else return condition

/-- Computes conditions of which one is enough. -/
def disjunction (value? : Octets → Option Octets) : Nat → Bool → Computation Int
  | 0, _ => throw (.expected "primary")
  | budget + 1, idle => do
    let first ← conjunction value? budget idle
    if (← peek) = some (.sign "||") then
      let _ ← take
      let second ← disjunction value? budget (idle || first ≠ 0)
      return ofBool (first ≠ 0 || second ≠ 0)
    else return first

/-- Computes conditions of which all are needed. -/
def conjunction (value? : Octets → Option Octets) : Nat → Bool → Computation Int
  | 0, _ => throw (.expected "primary")
  | budget + 1, idle => do
    let first ← primary value? budget idle
    let first ← binary value? budget idle 0 first
    if (← peek) = some (.sign "&&") then
      let _ ← take
      let second ← conjunction value? budget (idle || first = 0)
      return ofBool (first ≠ 0 && second ≠ 0)
    else return first

/-- Computes the operations behind a number that rank above a rank. -/
def binary (value? : Octets → Option Octets) : Nat → Bool → Nat → Int → Computation Int
  | 0, _, _, _ => throw (.expected "primary")
  | budget + 1, idle, rank, first => do
    match ← peek with
    | some (.sign operation) =>
      match ranks.lookup operation with
      | some higher =>
        if rank < higher then
          let _ ← take
          let second ← primary value? budget idle
          let second ← binary value? budget idle higher second
          if idle then binary value? budget idle rank second
          else
            match operate operation first second with
            | .ok n => binary value? budget idle rank n
            | .error f => throw f
        else return first
      | none => return first
    | _ => return first

/-- Computes a number, a variable or what is in parentheses, with signs in front. -/
def primary (value? : Octets → Option Octets) : Nat → Bool → Computation Int
  | 0, _ => throw (.expected "primary")
  | budget + 1, idle => do
    match ← take with
    | some (.number n) => return n
    | some (.name name) => if idle then return 0 else valueOf value? name
    | some (.sign "(") =>
      let n ← assignment value? budget idle
      expect ")" "')'"
      return n
    | some (.sign "+") => primary value? budget idle
    | some (.sign "-") => return wrap (-(← primary value? budget idle))
    | some (.sign "!") => return ofBool ((← primary value? budget idle) = 0)
    | some (.sign "~") => return -(← primary value? budget idle) - 1
    | _ => throw (.expected "primary")

end

/-- The value of an expression and the assignments in it, where `value?` gives the values of
variables. -/
def evaluate (value? : Octets → Option Octets) (text : Octets) :
    Except Fault (Int × List (Octets × Int)) :=
  let budget := 8 * text.length + 16
  match (assignment value? budget false).run ⟨tokens (text.length + 1) text, []⟩ with
  | .error f => .error f
  | .ok (n, s) =>
    if s.tokens.isEmpty then .ok (n, s.assigned.reverse) else .error (.expected "EOF")

/-- A complaint about an expression. -/
def Fault.message (text : Octets) : Fault → Octets
  | .expected what =>
    Octets.ofString ("arithmetic expression: expecting " ++ what ++ ": \"") ++ text ++ ['"']
  | .divisionByZero =>
    Octets.ofString "arithmetic expression: division by zero: \"" ++ text ++ ['"']
  | .notNumber value => Octets.ofString "Illegal number: " ++ value

end Expansion.Shell.Arithmetic
