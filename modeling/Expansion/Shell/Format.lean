import Expansion.Shell.Decimal

/-!
# Formatted output

The texts that `printf` and `echo` print: escapes with a backslash, and the fields of a format.

* **A format is used again as long as it takes arguments** and some are left; a field for which no
  argument is left is empty or zero.
* An argument that is no number counts as the number at its start, with a complaint.
-/

namespace Expansion.Shell

/-- Whether the character is a digit in base eight. -/
def isOctal (c : Char) : Bool := '0' ≤ c && c ≤ '7'

/-- The character that a letter after a backslash stands for. -/
def escapedChar? (c : Char) : Option Char :=
  [('a', '\x07'), ('b', '\x08'), ('t', '\t'), ('n', '\n'), ('v', '\x0b'), ('f', '\x0c'),
    ('r', '\x0d'), ('e', '\x1b'), ('\\', '\\')].lookup c

/-- What stands behind a backslash: the character that it gives, and the rest. -/
def readEscape (cs : Octets) : Char × Octets :=
  match cs with
  | [] => ('\\', [])
  | c :: rest =>
    if isOctal c then
      let digits := (cs.take 3).takeWhile isOctal
      (Char.ofNat (valueIn 8 digits % 256), cs.drop digits.length)
    else
      match escapedChar? c with
      | some d => (d, rest)
      | none => ('\\', cs)

/-- A text in which a backslash has its meaning, and whether more may be printed, on a budget. -/
def unescapeFrom : Nat → Octets → Octets × Bool
  | 0, _ => ([], true)
  | _, [] => ([], true)
  | budget + 1, '\\' :: rest =>
    match rest with
    | 'c' :: _ => ([], false)
    | rest =>
      -- A zero in front of the digits does not count as one of them.
      let rest := match rest with
        | '0' :: d :: more => if isOctal d then d :: more else '0' :: d :: more
        | rest => rest
      let (c, after) := readEscape rest
      let (more, goesOn) := unescapeFrom budget after
      (c :: more, goesOn)
  | budget + 1, c :: rest =>
    let (more, goesOn) := unescapeFrom budget rest
    (c :: more, goesOn)

/-- A text in which a backslash has its meaning, and whether more may be printed. -/
def unescape (cs : Octets) : Octets × Bool := unescapeFrom (cs.length + 1) cs

/-- The texts of some arguments with blanks between them, up to one that ends all printing. -/
def echoWords : List Octets → Octets × Bool
  | [] => ([], true)
  | [word] => unescape word
  | word :: rest =>
    match unescape word with
    | (text, false) => (text, false)
    | (text, true) =>
      let (more, goesOn) := echoWords rest
      (text ++ ' ' :: more, goesOn)

/-- What `echo` prints. -/
def echoText (arguments : List Octets) : Octets :=
  match arguments with
  | ['-', 'n'] :: rest => (echoWords rest).1
  | arguments =>
    let (text, goesOn) := echoWords arguments
    if goesOn then text ++ ['\n'] else text

/-- How a field of a format is laid out. -/
structure Layout where
  left : Bool
  zeros : Bool
  plus : Bool
  blank : Bool
  marked : Bool
  width : Nat
  precision : Option Nat

namespace Layout

/-- A text with blanks up to the width. -/
def fill (f : Layout) (cs : Octets) : Octets :=
  let missing := List.replicate (f.width - cs.length) ' '
  if f.left then cs ++ missing else missing ++ cs

/-- A text cut to the precision, with blanks up to the width. -/
def text (f : Layout) (cs : Octets) : Octets :=
  f.fill (match f.precision with
    | some n => cs.take n
    | none => cs)

/-- The digits of a number behind its sign and mark; zeros may stand between them. -/
def number (f : Layout) (mark digits : Octets) (zeros : Bool) : Octets :=
  if zeros && f.zeros && !f.left then
    mark ++ List.replicate (f.width - mark.length - digits.length) '0' ++ digits
  else f.fill (mark ++ digits)

/-- The sign of a number. -/
def sign (f : Layout) (negative : Bool) : Octets :=
  if negative then ['-'] else if f.plus then ['+'] else if f.blank then [' '] else []

/-- Digits with as many zeros in front as the precision asks for. -/
def precise (f : Layout) (n : Nat) (digits : Octets) : Octets :=
  match f.precision with
  | none => digits
  | some places =>
    if places = 0 && n = 0 then [] else List.replicate (places - digits.length) '0' ++ digits

/-- A whole number with a sign. -/
def integer (f : Layout) (n : Int) : Octets :=
  f.number (f.sign (n < 0)) (f.precise n.natAbs (Octets.ofNat n.natAbs)) f.precision.isNone

/-- A whole number without a sign, in the base of a letter. -/
def natural (f : Layout) (letter : Char) (n : Nat) : Octets :=
  let (base, mark) : Nat × Octets := match letter with
    | 'o' => (8, [])
    | 'x' => (16, ['0', 'x'])
    | 'X' => (16, ['0', 'X'])
    | _ => (10, [])
  let digits := Nat.toDigits base n
  let digits := if letter = 'X' then digits.map Char.toUpper else digits
  let digits := f.precise n digits
  let digits :=
    if f.marked && letter = 'o' && digits.head? ≠ some '0' then '0' :: digits else digits
  f.number (if f.marked && n ≠ 0 then mark else []) digits f.precision.isNone

/-- A number with a fraction, in the form of a letter. -/
def real (f : Layout) (letter : Char) (x : Real) : Octets :=
  let upper := letter.isUpper
  let cased (cs : Octets) : Octets := if upper then cs.map Char.toUpper else cs
  match x with
  | .infinite negative => f.number (f.sign negative) (cased "inf".toList) false
  | .notANumber negative => f.number (f.sign negative) (cased "nan".toList) false
  | .finite d =>
    let places := f.precision.getD 6
    let exponent := if upper then 'E' else 'e'
    let body := match letter.toLower with
      | 'f' => d.fixed places f.marked
      | 'e' => d.scientific places f.marked exponent
      | _ => d.general places f.marked exponent
    f.number (f.sign d.negative) body true

end Layout

/-- What is left of a printing command. -/
structure Printed where
  out : Octets
  complaints : List Octets
  status : Nat
  arguments : List Octets
  /-- Whether more may be printed. -/
  goesOn : Bool
  /-- Why the rest of the format cannot be used. -/
  failure : Option Octets

namespace Printed

/-- Nothing printed yet. -/
def start (arguments : List Octets) : Printed := ⟨[], [], 0, arguments, true, none⟩

/-- Prints more. -/
def add (cs : Octets) (p : Printed) : Printed := { p with out := p.out ++ cs }

/-- Complains about an argument. -/
def complain (argument : Octets) (message : String) (p : Printed) : Printed :=
  { p with
    complaints := p.complaints ++ [argument ++ Octets.ofString (": " ++ message)]
    status := 1 }

/-- Takes an argument. -/
def argument (p : Printed) : Octets × Printed :=
  (p.arguments.headD [], { p with arguments := p.arguments.tail })

/-- Complains about what was read as a number, if there is reason to. -/
def judge (argument : Octets) (rest? : Option Octets) (overflow : Bool) (p : Printed) : Printed :=
  match rest? with
  | none => if argument.isEmpty then p else p.complain argument "expected numeric value"
  | some rest =>
    if !rest.isEmpty then p.complain argument "not completely converted"
    else if overflow then p.complain argument "Numerical result out of range"
    else p

/-- The code of the character behind a quotation mark. -/
def quotedCode? (argument : Octets) : Option Nat :=
  match argument with
  | c :: rest =>
    if c = '"' || c = singleQuote then some ((rest.head?.map Char.toNat).getD 0) else none
  | [] => none

/-- Takes an argument as a whole number, with a sign or without. -/
def integer (signed : Bool) (p : Printed) : Int × Printed :=
  let (argument, p) := p.argument
  match quotedCode? argument with
  | some n => (n, p)
  | none =>
    match leadingNumber? none argument with
    | none => (0, p.judge argument none false)
    | some n =>
      let (value, overflow) : Int × Bool :=
        if signed then n.signed else ((n.unsigned.1 : Int), n.unsigned.2)
      (value, p.judge argument (some n.rest) overflow)

/-- Takes an argument as a number with a fraction. -/
def real (p : Printed) : Real × Printed :=
  let (argument, p) := p.argument
  match quotedCode? argument with
  | some n => (.finite ⟨false, n, 1⟩, p)
  | none =>
    match Decimal.leading? argument with
    | none => (.finite ⟨false, 0, 1⟩, p.judge argument none false)
    | some ((x, outOfRange), rest) => (x, p.judge argument (some rest) outOfRange)

/-- Reads a width or a precision: digits, or a star for an argument. -/
def size (cs : Octets) (p : Printed) : Int × Octets × Printed :=
  match cs with
  | '*' :: rest =>
    let (n, p) := p.integer true
    (n, rest, p)
  | cs =>
    let digits := cs.takeWhile Char.isDigit
    (digitsValue digits, cs.drop digits.length, p)

/-- Reads a layout. -/
def layout (cs : Octets) (p : Printed) : Layout × Octets × Printed :=
  let flags := cs.takeWhile (['#', '-', '+', ' ', '0'].contains ·)
  let (width, cs, p) := p.size (cs.drop flags.length)
  let (precision, cs, p) : Option Int × Octets × Printed := match cs with
    | '.' :: rest =>
      let (n, rest, p) := p.size rest
      (some n, rest, p)
    | cs => (none, cs, p)
  let layout : Layout :=
    { left := flags.contains '-' || width < 0
      zeros := flags.contains '0'
      plus := flags.contains '+'
      blank := flags.contains ' '
      marked := flags.contains '#'
      width := width.natAbs
      precision := precision.bind fun n => if n < 0 then none else some n.toNat }
  (layout, cs, p)

/-- Prints the field that begins behind a percent sign; the rest of the format comes with it. -/
def field (cs : Octets) (p : Printed) : Octets × Printed :=
  let (f, rest, p) := p.layout cs
  match rest with
  | [] => ([], { p with failure := some (Octets.ofString "missing format character") })
  | letter :: rest =>
    if letter = 's' then
      let (argument, p) := p.argument
      (rest, p.add (f.text argument))
    else if letter = 'b' then
      let (argument, p) := p.argument
      let (text, goesOn) := unescape argument
      (rest, { p.add (f.text text) with goesOn })
    else if letter = 'c' then
      let (argument, p) := p.argument
      (rest, p.add (f.fill [argument.headD '\x00']))
    else if letter = 'd' || letter = 'i' then
      let (n, p) := p.integer true
      (rest, p.add (f.integer n))
    else if ['o', 'u', 'x', 'X'].contains letter then
      let (n, p) := p.integer false
      (rest, p.add (f.natural letter n.toNat))
    else if ['e', 'E', 'f', 'F', 'g', 'G'].contains letter then
      let (x, p) := p.real
      (rest, p.add (f.real letter x))
    else
      let written := '%' :: cs.take (cs.length - rest.length)
      ([], { p with failure := some (written ++ Octets.ofString ": invalid directive") })

/-- Prints with a format once, on a budget. -/
def once : Nat → Octets → Printed → Printed
  | 0, _, p => p
  | _, [], p => p
  | budget + 1, c :: rest, p =>
    if c = '\\' then
      let (d, rest) := readEscape rest
      once budget rest (p.add [d])
    else if c = '%' then
      match rest with
      | '%' :: rest => once budget rest (p.add ['%'])
      | rest =>
        let (rest, p) := p.field rest
        if p.goesOn && p.failure.isNone then once budget rest p else p
    else once budget rest (p.add [c])

/-- Prints with a format as often as there are arguments for it, on a budget. -/
def all (format : Octets) : Nat → Printed → Printed
  | 0, p => p
  | budget + 1, p =>
    let after := once (format.length + 1) format p
    let used := after.arguments.length < p.arguments.length
    if after.goesOn && after.failure.isNone && used && !after.arguments.isEmpty then
      all format budget after
    else after

end Printed

/-- What `printf` prints. -/
def printFormatted (format : Octets) (arguments : List Octets) : Printed :=
  Printed.all format (arguments.length + 1) (.start arguments)

end Expansion.Shell
