import Expansion.Shell.Regex
import Expansion.Shell.Tool.Lines

/-!
# Searching files for lines

`grep` prints the lines in which a pattern occurs, counts them, or only says that there are some.

* The status is 0 if a line was found, 1 if none was and 2 if anything went wrong, unless only the
  answer was asked for and a line was found.
-/

namespace Expansion.Shell.Tool.Grep

open Expansion.Shell

/-- The options. -/
def options : OptionTable :=
  ⟨['c', 'v', 'i', 'y', 'n', 'q', 's', 'l', 'L', 'h', 'H', 'o', 'w', 'x', 'E', 'F', 'G', 'P', 'a',
      'r', 'R', 'b', 'z', 'U', 'Z'],
    ['e', 'f', 'm', 'A', 'B', 'C'],
    [("count", 'c'), ("invert-match", 'v'), ("ignore-case", 'i'), ("line-number", 'n'),
      ("quiet", 'q'), ("silent", 'q'), ("no-messages", 's'), ("files-with-matches", 'l'),
      ("files-without-match", 'L'), ("no-filename", 'h'), ("with-filename", 'H'),
      ("only-matching", 'o'), ("word-regexp", 'w'), ("line-regexp", 'x'),
      ("extended-regexp", 'E'), ("fixed-strings", 'F'), ("basic-regexp", 'G'), ("text", 'a'),
      ("recursive", 'r'), ("regexp", 'e'), ("file", 'f'), ("max-count", 'm'),
      ("after-context", 'A'), ("before-context", 'B'), ("context", 'C')], 2⟩

/-- What is searched for. -/
structure Wanted where
  regexes : List Regex
  form : Regex.SearchForm
  inverted : Bool

/-- The first match of a line from a position on, the longest of those that begin there. -/
def Wanted.search (w : Wanted) (line : Octets) (position : Nat) : Option Regex.Match :=
  (w.regexes.filterMap fun r => Regex.search w.form r line position).foldl (fun best? m =>
    match best? with
    | none => some m
    | some best =>
      if m.start < best.start || (m.start = best.start && best.stop < m.stop) then some m
      else some best) none

/-- Whether a line is wanted. -/
def Wanted.holds (w : Wanted) (line : Octets) : Bool := (w.search line 0).isSome != w.inverted

/-- The parts of a line that match, none of them empty, on a budget. -/
def Wanted.parts (w : Wanted) (line : Octets) : Nat → Nat → List Octets
  | 0, _ => []
  | budget + 1, position =>
    match w.search line position with
    | none => []
    | some m =>
      if m.stop = m.start then w.parts line budget (m.start + 1)
      else (line.take m.stop).drop m.start :: w.parts line budget m.stop

/-- The numbers of the lines that are wanted, from zero, at most so many. -/
def wantedLines (w : Wanted) (most? : Option Nat) (lines : List Octets) : List Nat :=
  let all := lines.zipIdx.filterMap fun (line, i) => if w.holds line then some i else none
  match most? with
  | some n => all.take n
  | none => all

/-- The rows of a listing with context: the number of a line and whether it is wanted; `none` stands
for a gap. -/
def withContext (before after count : Nat) (wanted : List Nat) : List (Option (Nat × Bool)) :=
  let near (i : Nat) : Bool := wanted.any fun n => n ≤ i + before && i ≤ n + after
  let shown := (List.range count).filter near
  let rows := shown.map fun i => (i, wanted.contains i)
  rows.zipIdx.flatMap fun ((i, isWanted), k) =>
    let gap := match k with
      | 0 => false
      | k + 1 => match shown[k]? with
        | some j => j + 1 != i
        | none => false
    if gap then [none, some (i, isWanted)] else [some (i, isWanted)]

/-- What is printed about a text. -/
def report (a : Arguments) (w : Wanted) (named : Bool) (file text : Octets) : Octets × Bool :=
  let lines := (Octets.lines text).1
  let number? (letter : Char) : Option Nat := (a.value? letter).map digitsValue
  let wanted := wantedLines w (number? 'm') lines
  let found := !wanted.isEmpty
  let name := if file = ['-'] then "(standard input)".toList else file
  let label (mark : Char) (i : Nat) : Octets :=
    (if named then name ++ [mark] else [])
      ++ (if a.has 'n' then Octets.ofNat (i + 1) ++ [mark] else [])
  let out :=
    if a.has 'q' then []
    else if a.has 'l' then if found then name ++ ['\n'] else []
    else if a.has 'L' then if found then [] else name ++ ['\n']
    else if a.has 'c' then
      (if named then name ++ [':'] else []) ++ Octets.ofNat wanted.length ++ ['\n']
    else if a.has 'o' then
      if w.inverted then []
      else wanted.flatMap fun i =>
        let line := lines[i]?.getD []
        (w.parts line (line.length + 1) 0).flatMap fun part => label ':' i ++ part ++ ['\n']
    else
      let context := (number? 'C').getD 0
      let before := (number? 'B').getD context
      let after := (number? 'A').getD context
      let rows := if before = 0 && after = 0 then wanted.map fun i => some (i, true)
        else withContext before after lines.length wanted
      rows.flatMap fun
        | none => ['-', '-', '\n']
        | some (i, isWanted) =>
          label (if isWanted then ':' else '-') i ++ (lines[i]?.getD []) ++ ['\n']
  (out, found)

/-- The files below a directory, in order, on a budget of levels. -/
def filesBelow (d : Disk) : Nat → Octets → List Octets
  | 0, _ => []
  | budget + 1, file =>
    match d.find (pathOf file) true with
    | .ok (.present place .directory) =>
      let names := ((d.namesIn place).map Octets.ofString).mergeSort textLe
      names.flatMap fun name => filesBelow d budget (file ++ '/' :: name)
    | _ => [file]

/-- The patterns of a call and the files to search. -/
def patterns (c : Call) (a : Arguments) : Except Octets (Option (List Octets × List Octets)) :=
  let given := a.options.filter fun (letter, _) => letter = 'e' || letter = 'f'
  if given.isEmpty then
    match a.operands with
    | [] => .ok none
    | pattern :: files => .ok (some (Text.splitChars '\n' pattern, files))
  else do
    let lists ← given.mapM fun (letter, value) =>
      if letter = 'e' then .ok (Text.splitChars '\n' value)
      else
        match c.textOf value with
        | .ok text => .ok (Octets.lines text).1
        | .error e => .error (aboutFile value e)
    return some (lists.flatten, a.operands)

/-- Searches files for lines. -/
def run (c : Call) (a : Arguments) : ToolOutput :=
  let usage : Octets :=
    Octets.ofString "Usage: grep [OPTION]... PATTERNS [FILE]...\n" ++ c.hint
  match patterns c a with
  | .error message => c.fail 2 message
  | .ok none => ⟨2, [], usage, c.disk, 0⟩
  | .ok (some (texts, operands)) =>
    let ignoresCase := a.has 'i' || a.has 'y'
    let kind := a.lastOf? ['E', 'F', 'G', 'P']
    let extended := kind = some 'E' || kind = some 'P'
      || (c.name = "egrep".toList && kind.isNone)
    let fixed := kind = some 'F' || (c.name = "fgrep".toList && kind.isNone)
    let read (text : Octets) : Except Regex.Fault Regex :=
      if fixed then .ok (Regex.literal ignoresCase text)
      else Regex.parse ⟨extended, ignoresCase⟩ text
    match texts.mapM read with
    | .error f => c.fail 2 (Octets.ofString f.message)
    | .ok regexes =>
      let form : Regex.SearchForm := ⟨ignoresCase, false, a.has 'w', a.has 'x'⟩
      let w : Wanted := ⟨regexes, form, a.has 'v'⟩
      let deep := a.has 'r' || a.has 'R'
      let files := if operands.isEmpty then [if deep then ['.'] else ['-']] else operands
      let searched := if deep then files.flatMap fun file =>
          if file = ['-'] then [file] else filesBelow c.disk 40 file
        else files
      let named := !a.has 'h' && (a.has 'H' || 1 < files.length || deep)
      let (p, found) := searched.foldl (fun (p, found) file =>
        match c.textOf file with
        | .ok text =>
          let (out, here) := report a w named file text
          (p.print out, found || (here != a.has 'L'))
        | .error e =>
          if a.has 's' then ({ p with failed := true }, found)
          else (p.complain c (aboutFile file e), found)) (Progress.start, false)
      let status := if found && (a.has 'q' || !p.failed) then 0 else if p.failed then 2 else 1
      { p.finish c files 2 with status }

/-- Searches files for lines. -/
def tool : Tool := fun c =>
  -- A number by itself asks for so many lines of context.
  let arguments := c.arguments.map fun argument =>
    match argument with
    | '-' :: d :: rest => if (d :: rest).all Char.isDigit then '-' :: 'C' :: d :: rest else argument
    | argument => argument
  let arguments := arguments.filter fun argument =>
    !(Octets.startsWith "--color".toList argument || Octets.startsWith "--colour".toList argument)
  match options.read false arguments with
  | .ok a => run c a
  | .error message =>
    let usage := Octets.ofString "Usage: grep [OPTION]... PATTERNS [FILE]...\n" ++ c.hint
    ⟨2, [], c.complaint message ++ usage, c.disk, 0⟩

end Expansion.Shell.Tool.Grep
