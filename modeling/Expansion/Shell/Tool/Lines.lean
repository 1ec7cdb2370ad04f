import Expansion.Shell.Number
import Expansion.Shell.Tool.Basic

/-!
# Tools for whole lines

Tools that pass lines on: all of them, some of them, numbered, turned round, folded or counted.
-/

namespace Expansion.Shell.Tool

open Expansion.Shell

/-- Text with blanks in front up to a width. -/
def padLeft (width : Nat) (cs : Octets) : Octets := List.replicate (width - cs.length) ' ' ++ cs

/-- The lines of a text, each with the line feed that ends it. -/
def fullLines (text : Octets) : List Octets :=
  let (lines, ended) := Octets.lines text
  match lines.reverse with
  | last :: before =>
    before.reverse.map (· ++ ['\n']) ++
      (if ended then [last ++ ['\n']] else if last.isEmpty then [] else [last])
  | [] => []

/-! ## cat and tac -/

/-- Whether a line has nothing but its line feed. -/
def isEmptyLine (line : Octets) : Bool := line = ['\n']

/-- Lines without the empty ones that follow an empty one. -/
def squeezeLines : List Octets → List Octets
  | a :: b :: rest =>
    if isEmptyLine a && isEmptyLine b then squeezeLines (b :: rest)
    else a :: squeezeLines (b :: rest)
  | lines => lines

/-- Lines with their numbers; with `blank`, empty lines have none. -/
def numberLines (blank : Bool) : Nat → List Octets → List Octets
  | _, [] => []
  | n, line :: rest =>
    if blank && isEmptyLine line then line :: numberLines blank n rest
    else (padLeft 6 (Octets.ofNat n) ++ '\t' :: line) :: numberLines blank (n + 1) rest

/-- A character in a form that can be seen. -/
def showChar (c : Char) : Octets :=
  let below (n : Nat) : Octets :=
    if n = 127 then ['^', '?'] else if n < 32 then ['^', Char.ofNat (n + 64)] else [Char.ofNat n]
  if c = '\n' || c = '\t' then [c]
  else if c.toNat ≥ 128 then 'M' :: '-' :: below (c.toNat - 128)
  else below c.toNat

/-- Prints files. -/
def cat : Tool :=
  OptionTable.run
    ⟨['n', 'b', 's', 'E', 'T', 'v', 'A', 'e', 't', 'u'], [],
      [("number", 'n'), ("number-nonblank", 'b'), ("squeeze-blank", 's'), ("show-ends", 'E'),
        ("show-tabs", 'T'), ("show-nonprinting", 'v'), ("show-all", 'A')], 1⟩ false fun c a =>
    let any (letters : List Char) : Bool := letters.any a.has
    let change (text : Octets) : Octets :=
      if a.options.isEmpty then text
      else
        let lines := fullLines text
        let lines := if a.has 's' then squeezeLines lines else lines
        let shown (line : Octets) : Octets := line.flatMap fun ch =>
          if ch = '\t' && any ['T', 'A', 't'] then ['^', 'I']
          else if ch = '\n' && any ['E', 'A', 'e'] then ['$', '\n']
          else if any ['v', 'A', 'e', 't'] then showChar ch
          else [ch]
        let lines := if a.has 'b' then numberLines true 1 lines
          else if a.has 'n' then numberLines false 1 lines
          else lines
        if any ['T', 'E', 'v', 'A', 'e', 't'] then
          -- The tabulator behind a number is not part of the line.
          (lines.flatMap fun line =>
            if any ['b', 'n'] && !isEmptyLine line then line.take 7 ++ shown (line.drop 7)
            else shown line)
        else lines.flatten
    let files := filesOf a.operands
    let p := c.allTexts files
    { p with out := change p.out }.finish c files 1

/-- Prints the lines of files from the last to the first. -/
def tac : Tool :=
  OptionTable.run ⟨[], [], [], 1⟩ false fun c a =>
    let files := filesOf a.operands
    let p := files.foldl (fun p file =>
      match c.textOf file with
      | .ok text => p.print (fullLines text).reverse.flatten
      | .error e =>
        p.complain c (Octets.ofString "failed to open " ++ quoteName file
          ++ Octets.ofString (" for reading: " ++ errorText e))) Progress.start
    p.finish c files 1

/-- Prints each line of files from its last character to its first. -/
def rev : Tool :=
  OptionTable.run ⟨[], [], [], 1⟩ false fun c a =>
    let files := filesOf a.operands
    let turn (line : Octets) : Octets :=
      if line.getLast? = some '\n' then line.dropLast.reverse ++ ['\n'] else line.reverse
    let p := files.foldl (fun p file =>
      match c.textOf file with
      | .ok text => p.print ((fullLines text).flatMap turn)
      | .error e =>
        p.complain c (Octets.ofString "cannot open " ++ file
          ++ Octets.ofString (": " ++ errorText e))) Progress.start
    p.finish c files 1

/-! ## head and tail -/

/-- A count with what may stand in front of it. -/
structure Count where
  sign : Option Char
  value : Nat

/-- The factor of the letters behind a count. -/
def unit? (cs : Octets) : Option Nat :=
  [("", 1), ("b", 512), ("k", 1024), ("K", 1024), ("kB", 1000), ("m", 1024 * 1024),
    ("M", 1024 * 1024), ("MB", 1000 * 1000)].lookup (String.ofList cs)

/-- The count that a text writes. -/
def count? (cs : Octets) : Option Count :=
  let (sign, digits) : Option Char × Octets := match cs with
    | '-' :: rest => (some '-', rest)
    | '+' :: rest => (some '+', rest)
    | cs => (none, cs)
  let number := digits.takeWhile Char.isDigit
  if number.isEmpty then none
  else (unit? (digits.drop number.length)).map fun u => ⟨sign, digitsValue number * u⟩

/-- Arguments of which the first, if it is a count with nothing but one of the signs in front, is
written as a count of lines. -/
def withCount (signs : List Char) : List Octets → List Octets
  | (sign :: digits) :: rest =>
    if signs.contains sign && !digits.isEmpty && digits.all Char.isDigit then
      ('-' :: 'n' :: (if sign = '-' then digits else sign :: digits)) :: rest
    else (sign :: digits) :: rest
  | arguments => arguments

/-- The pieces that are counted: lines, or else bytes. -/
def countedPieces (byBytes : Bool) (text : Octets) : List Octets :=
  if byBytes then text.map (fun ch => [ch]) else fullLines text

/-- Prints a part of each file, with the name of the file in front if there are several. -/
def printParts (c : Call) (a : Arguments) (part : List Octets → List Octets) : ToolOutput :=
  let files := filesOf a.operands
  let titled := a.has 'v' || (1 < files.length && !a.has 'q')
  let p := files.zipIdx.foldl (fun p (file, i) =>
    match c.textOf file with
    | .ok text =>
      let name := if file = ['-'] then "standard input".toList else file
      let title : Octets :=
        if titled then
          (if i = 0 then [] else ['\n']) ++ Octets.ofString "==> " ++ name
            ++ Octets.ofString " <==\n"
        else []
      p.print (title ++ (part (countedPieces (a.has 'c') text)).flatten)
    | .error e =>
      let message := if e = .isDirectory then Octets.ofString "error reading " ++ quoteName file
          ++ Octets.ofString (": " ++ errorText e)
        else Octets.ofString "cannot open " ++ quoteName file
          ++ Octets.ofString (" for reading: " ++ errorText e)
      p.complain c message) Progress.start
  p.finish c files 1

/-- The options of tools that print a part of a file. -/
def partOptions : OptionTable :=
  ⟨['q', 'v', 'z', 'f'], ['n', 'c'],
    [("lines", 'n'), ("bytes", 'c'), ("quiet", 'q'), ("silent", 'q'), ("verbose", 'v')], 1⟩

/-- Complains about a count. -/
def badCount (c : Call) (a : Arguments) (text : Octets) : ToolOutput :=
  let what := if a.has 'c' then "bytes" else "lines"
  c.fail 1 (Octets.ofString ("invalid number of " ++ what ++ ": ") ++ quoteName text)

/-- The count that is asked for last, of bytes if that is asked for. -/
def countText (a : Arguments) : Octets :=
  ((a.value? 'c').orElse fun _ => a.value? 'n').getD "10".toList

/-- Prints the first lines of files. -/
def head : Tool := fun c =>
  partOptions.run false (fun c a =>
    match count? (countText a) with
    | none => badCount c a (countText a)
    | some n =>
      let part (pieces : List Octets) : List Octets :=
        if n.sign = some '-' then pieces.take (pieces.length - n.value) else pieces.take n.value
      let done := printParts c a part
      -- What is left of a file is there for those who read it next.
      if c.fromFile && a.operands.isEmpty then { done with used := done.out.length } else done)
    { c with arguments := withCount ['-'] c.arguments }

/-- Prints the last lines of files. -/
def tail : Tool := fun c =>
  partOptions.run false (fun c a =>
    match count? (countText a) with
    | none => badCount c a (countText a)
    | some n =>
      printParts c a fun pieces =>
        if n.sign = some '+' then pieces.drop (n.value - 1)
        else pieces.drop (pieces.length - n.value))
    { c with arguments := withCount ['-', '+'] c.arguments }

/-! ## wc -/

/-- The number of words of a text. -/
def wordCount (text : Octets) : Nat :=
  (text.foldl (fun (n, inside) ch =>
    if isSpace ch then (n, false) else (if inside then n else n + 1, true)) (0, false)).1

/-- The length of the longest line of a text. -/
def longestLine (text : Octets) : Nat :=
  ((Octets.lines text).1.map List.length).foldl max 0

/-- The counts of a text that are asked for. -/
def countsOf (a : Arguments) (text : Octets) : List Nat :=
  let all := !(['l', 'w', 'c', 'm', 'L'].any a.has)
  (if a.has 'l' || all then [text.count '\n'] else [])
    ++ (if a.has 'w' || all then [wordCount text] else [])
    ++ (if a.has 'm' then [text.length] else [])
    ++ (if a.has 'c' || all then [text.length] else [])
    ++ (if a.has 'L' then [longestLine text] else [])

/-- Counts the lines, words and bytes of files. -/
def wc : Tool :=
  OptionTable.run
    ⟨['l', 'w', 'c', 'm', 'L'], [],
      [("lines", 'l'), ("words", 'w'), ("bytes", 'c'), ("chars", 'm'), ("max-line-length", 'L')],
      1⟩ false fun c a =>
    let files := filesOf a.operands
    let texts := files.map fun file => (file, c.textOf file)
    let isPiped (file : Octets) : Bool := file = ['-'] && !c.fromFile
    let sizes := texts.map fun (_, text?) => (text?.toOption.map List.length).getD 0
    let digits := (Octets.ofNat (sizes.foldl (· + ·) 0)).length
    let single := files.length = 1 && (countsOf a []).length = 1
    let odd := texts.any fun (file, text?) =>
      isPiped file || (match text? with
        | .error .isDirectory => true
        | _ => false)
    let width := if single then 1 else if odd then max digits 7 else digits
    let row (counts : List Nat) (name : Octets) : Octets :=
      Octets.join [' '] (counts.map fun n => padLeft width (Octets.ofNat n))
        ++ (if name.isEmpty then [] else ' ' :: name) ++ ['\n']
    let p := texts.foldl (fun p (file, text?) =>
      let name := if a.operands.isEmpty then [] else file
      match text? with
      | .ok text => p.print (row (countsOf a text) name)
      | .error .isDirectory =>
        (p.complain c (aboutFile file .isDirectory)).print (row (countsOf a []) name)
      | .error e => p.complain c (aboutFile file e)) Progress.start
    let sum (counts : List (List Nat)) : List Nat :=
      counts.foldl (fun totals row => totals.zipWith (· + ·) row) (countsOf a [])
    let p := if 1 < files.length then
        p.print (row (sum (texts.filterMap fun (_, text?) => text?.toOption.map (countsOf a)))
          "total".toList)
      else p
    p.finish c files 1

/-! ## nl, fold and tee -/

/-- Numbers the lines of files. -/
def nl : Tool :=
  OptionTable.run
    ⟨['p'], ['b', 'w', 's', 'v', 'i', 'n', 'f', 'h', 'd', 'l'],
      [("body-numbering", 'b'), ("number-width", 'w'), ("number-separator", 's'),
        ("starting-line-number", 'v'), ("line-increment", 'i'), ("number-format", 'n')], 1⟩ false
    fun c a =>
    let number (letter : Char) (standard : Nat) : Nat :=
      ((a.value? letter).map digitsValue).getD standard
    let width := number 'w' 6
    let separator := (a.value? 's').getD ['\t']
    let body := ((a.value? 'b').getD ['t']).headD 't'
    let lay (n : Nat) : Octets :=
      let digits := Octets.ofNat n
      match String.ofList ((a.value? 'n').getD "rn".toList) with
      | "ln" => digits ++ List.replicate (width - digits.length) ' '
      | "rz" => List.replicate (width - digits.length) '0' ++ digits
      | _ => padLeft width digits
    let step (state : Nat × Octets) (line : Octets) : Nat × Octets :=
      let (n, out) := state
      let numbered := body = 'a' || (body = 't' && !isEmptyLine line)
      let line := if line.getLast? = some '\n' then line else line ++ ['\n']
      if numbered then (n + number 'i' 1, out ++ lay n ++ separator ++ line)
      else (n, out ++ List.replicate (width + separator.length) ' ' ++ line)
    let files := filesOf a.operands
    let p := c.allTexts files
    { p with out := ((fullLines p.out).foldl step (number 'v' 1, [])).2 }.finish c files 1

/-- The part of a line that a fold keeps, where one at a blank is wanted. -/
def foldEnd (atBlanks : Bool) (piece : Octets) : Nat :=
  let behind := piece.reverse.dropWhile fun ch => !(ch = ' ' || ch = '\t')
  if atBlanks && !behind.isEmpty then behind.length else piece.length

/-- Cuts a line into pieces of at most a width, on a budget. -/
def foldLine (atBlanks : Bool) (width : Nat) : Nat → Octets → Octets
  | 0, line => line
  | budget + 1, line =>
    let body := if line.getLast? = some '\n' then line.dropLast else line
    if body.length ≤ width then line
    else
      let n := max 1 (foldEnd atBlanks (body.take width))
      line.take n ++ '\n' :: foldLine atBlanks width budget (line.drop n)

/-- Folds long lines. -/
def fold : Tool :=
  OptionTable.run ⟨['s', 'b'], ['w'], [("width", 'w'), ("spaces", 's'), ("bytes", 'b')], 1⟩ false
    fun c a =>
    let width := max 1 (((a.value? 'w').map digitsValue).getD 80)
    let files := filesOf a.operands
    let p := c.allTexts files
    let out := (fullLines p.out).flatMap fun line => foldLine (a.has 's') width line.length line
    { p with out }.finish c files 1

/-- Prints the input and writes it to files. -/
def tee : Tool :=
  OptionTable.run ⟨['a', 'i', 'p'], [], [("append", 'a')], 1⟩ false fun c a =>
    let (disk, p) := a.operands.foldl (fun (disk, p) file =>
      if file = "/dev/null".toList then (disk, p)
      else
        let path := pathOf file
        let before := if a.has 'a' then (disk.readBytes path).toOption.getD ByteArray.empty
          else ByteArray.empty
        match Disk.writeFile disk path (before ++ c.input) with
        | .ok disk => (disk, p)
        | .error e => (disk, p.complain c (aboutFile file e))) (c.disk, Progress.start)
    { (p.print c.inputText).finish c [] 1 with disk }

end Expansion.Shell.Tool
