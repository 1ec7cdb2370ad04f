import Expansion.Shell.Tool.Lines

/-!
# Tools for names and numbers

Tools that print something about their arguments: parts of paths, rows of numbers, variables.
-/

namespace Expansion.Shell.Tool

open Expansion.Shell

/-- A text without the slashes at its end, of which one stays if there is nothing else. -/
def withoutLastSlashes (cs : Octets) : Octets :=
  let rest := (cs.reverse.dropWhile (· == '/')).reverse
  if rest.isEmpty && !cs.isEmpty then ['/'] else rest

/-- The last name of a path. -/
def lastName (cs : Octets) : Octets :=
  let cs := withoutLastSlashes cs
  if cs = ['/'] then cs else (cs.reverse.takeWhile (· != '/')).reverse

/-- The path without its last name. -/
def pathBefore (cs : Octets) : Octets :=
  let cs := withoutLastSlashes cs
  if cs = ['/'] then cs
  else
    let before := (cs.reverse.dropWhile (· != '/')).reverse
    if before.isEmpty then ['.'] else withoutLastSlashes before

/-- A name without an ending, unless it is nothing but that. -/
def withoutEnding (ending name : Octets) : Octets :=
  match Text.afterPrefix? ending.reverse name.reverse with
  | some (c :: rest) => (c :: rest).reverse
  | _ => name

/-- Prints the last names of paths. -/
def basename : Tool :=
  OptionTable.run ⟨['a', 'z'], ['s'], [("multiple", 'a'), ("suffix", 's'), ("zero", 'z')], 1⟩ true
    fun c a =>
    let ending : Octets := if a.has 'z' then ['\x00'] else ['\n']
    match a.operands with
    | [] => c.missingOperand 1
    | operands =>
      if a.has 'a' || a.has 's' then
        let suffix := (a.value? 's').getD []
        c.print (operands.flatMap fun p => withoutEnding suffix (lastName p) ++ ending)
      else
        match operands with
        | [p] => c.print (lastName p ++ ending)
        | [p, suffix] => c.print (withoutEnding suffix (lastName p) ++ ending)
        | operands => c.extraOperand (operands.getD 2 []) 1

/-- Prints paths without their last names. -/
def dirname : Tool :=
  OptionTable.run ⟨['z'], [], [("zero", 'z')], 1⟩ false fun c a =>
    let ending : Octets := if a.has 'z' then ['\x00'] else ['\n']
    if a.operands.isEmpty then c.missingOperand 1
    else c.print (a.operands.flatMap fun p => pathBefore p ++ ending)

/-- The numbers from one to another in steps, on a budget. -/
def numbersFrom (step last : Int) : Nat → Int → List Int
  | 0, _ => []
  | budget + 1, n =>
    if (0 < step && last < n) || (step < 0 && n < last) then []
    else n :: numbersFrom step last budget (n + step)

/-- Prints a row of numbers. -/
def seq : Tool := fun c =>
  let t : OptionTable :=
    ⟨['w'], ['s', 'f'], [("separator", 's'), ("equal-width", 'w'), ("format", 'f')], 1⟩
  -- A number below zero is no option.
  let isNumber (cs : Octets) : Bool := match cs with
    | '-' :: d :: _ => d.isDigit
    | _ => false
  let options := c.arguments.takeWhile fun argument => !isNumber argument
  let numbers := c.arguments.drop options.length
  match t.read true options with
  | .error message => c.misuse 1 message
  | .ok a =>
    let operands := a.operands ++ numbers
    let number? (cs : Octets) : Option Int := wholeNumber? (some 10) cs
    match operands.find? fun operand => (number? operand).isNone with
    | some bad =>
      c.misuse 1 (Octets.ofString "invalid floating point argument: " ++ quoteName bad)
    | none =>
      let row (first step last : Int) : ToolOutput :=
        let count := (last - first).natAbs / (max 1 step.natAbs) + 1
        let items := numbersFrom step last count first
        let texts := items.map Octets.ofInt
        let width := (texts.map List.length).foldl max 0
        let fill (cs : Octets) : Octets :=
          if !a.has 'w' then cs
          else match cs with
            | '-' :: digits => '-' :: List.replicate (width - cs.length) '0' ++ digits
            | digits => List.replicate (width - cs.length) '0' ++ digits
        let out := Octets.join ((a.value? 's').getD ['\n']) (texts.map fill)
        c.print (if out.isEmpty then [] else out ++ ['\n'])
      match operands.filterMap number? with
      | [] => c.missingOperand 1
      | [last] => row 1 1 last
      | [first, last] => row first 1 last
      | [first, step, last] =>
        if step = 0 then
          c.misuse 1 (Octets.ofString "invalid Zero increment value: " ++ quoteName ['0'])
        else row first step last
      | _ => c.extraOperand (operands.getD 3 []) 1

/-- Prints the values of variables. -/
def printenv : Tool := fun c =>
  match c.arguments with
  | [] => c.print (c.environment.flatMap fun (name, value) => name ++ '=' :: value ++ ['\n'])
  | names =>
    let values := names.map fun name => c.environment.lookup name
    let out := values.flatMap fun value? => (value?.map (· ++ ['\n'])).getD []
    { c.print out with status := if values.all Option.isSome then 0 else 1 }

/-- Prints the directory that paths start from. -/
def pwd : Tool := fun c =>
  let path : Octets := c.disk.home.flatMap fun name => '/' :: Octets.ofString name
  c.print ((if path.isEmpty then ['/'] else path) ++ ['\n'])

/-- Waits for some time, which is not told from no time at all. -/
def sleep : Tool := fun c =>
  let isTime (cs : Octets) : Bool :=
    let digits := cs.filter fun ch => ch.isDigit || ch = '.'
    let rest := cs.drop digits.length
    digits.any Char.isDigit && digits.count '.' ≤ 1 && digits.isPrefixOf cs
      && ["", "s", "m", "h", "d"].contains (String.ofList rest)
  match c.arguments.filter fun argument => !isTime argument with
  | [] => if c.arguments.isEmpty then c.missingOperand 1 else c.done 0
  | bad =>
    let lines := bad.flatMap fun argument =>
      c.complaint (Octets.ofString "invalid time interval " ++ quoteName argument)
    ⟨1, [], lines ++ c.hint, c.disk, 0⟩

/-- Tells about the one who runs programs. -/
def id : Tool := fun c =>
  match c.arguments.map String.ofList with
  | [] => c.print "uid=0(root) gid=0(root) groups=0(root)\n".toList
  | options =>
    if options.any fun option => (option.toList.contains 'n') then c.print "root\n".toList
    else c.print "0\n".toList

/-- Does nothing. -/
def idle (status : Nat) : Tool := fun c => c.done status

/-- Prints a fixed text. -/
def say (text : String) : Tool := fun c => c.print (Octets.ofString text)

end Expansion.Shell.Tool
