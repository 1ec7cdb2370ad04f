import Expansion.Shell.Tool.Lines

/-!
# Tools for ordered lines

`sort` puts lines in order, `uniq` drops repeated ones, and `comm` compares two ordered files.

* **Lines are compared byte by byte** where no key says otherwise.
* Keys are compared one after the other; lines whose keys do not tell them apart are compared as a
  whole, unless only the keys are to count.
-/

namespace Expansion.Shell.Tool

open Expansion.Shell

/-! ## Keys -/

/-- How the texts of a key are compared. -/
structure KeyOrder where
  blanks : Bool
  dictionary : Bool
  folded : Bool
  printing : Bool
  numeric : Bool
  reversed : Bool
  deriving DecidableEq

/-- The order of letters among options. -/
def KeyOrder.ofLetters (letters : Octets) : KeyOrder where
  blanks := letters.contains 'b'
  dictionary := letters.contains 'd'
  folded := letters.contains 'f'
  printing := letters.contains 'i'
  numeric := letters.any (['n', 'g', 'h'].contains ·)
  reversed := letters.contains 'r'

/-- The order that says nothing. -/
def KeyOrder.plain : KeyOrder := .ofLetters []

/-- An end of a key: a field and a character in it. -/
structure KeyPlace where
  field : Nat
  char : Nat
  skipsBlanks : Bool

/-- A key. -/
structure SortKey where
  start : KeyPlace
  stop : Option KeyPlace
  order : KeyOrder

/-- Whether the character is a blank. -/
def isTabOrSpace (c : Char) : Bool := c = ' ' || c = '\t'

/-- The place that a text writes, with the letters behind it. -/
def keyPlace? (standard : Nat) (cs : Octets) : Option (Nat × Nat × Octets) :=
  let field := cs.takeWhile Char.isDigit
  let rest := cs.drop field.length
  if field.isEmpty then none
  else
    match rest with
    | '.' :: rest =>
      let char := rest.takeWhile Char.isDigit
      some (digitsValue field, digitsValue char, rest.drop char.length)
    | rest => some (digitsValue field, standard, rest)

/-- The key that a text writes; `globals` is the order of keys that say nothing of their own. -/
def sortKey? (globals : KeyOrder) (cs : Octets) : Option SortKey := do
  let pieces := Text.splitChars ',' cs
  let (field, char, letters) ← keyPlace? 1 (pieces.headD [])
  let (stop?, stopLetters) ← match pieces[1]? with
    | none => some (none, [])
    | some text => (keyPlace? 0 text).map fun (field, char, letters) =>
      (some (field, char, letters.contains 'b'), letters)
  let own := KeyOrder.ofLetters (letters ++ stopLetters)
  let order := if own = .plain then globals else own
  let inherited := own = .plain && globals.blanks
  let key : SortKey :=
    { start := ⟨field - 1, char - 1, letters.contains 'b' || inherited⟩
      stop := stop?.map fun (field, char, blanks) =>
        ⟨if char = 0 then field else field - 1, char, blanks || inherited⟩
      -- The blanks in front have been passed over where the key starts.
      order := { order with blanks := false } }
  if field = 0 || char = 0 then none else some key

/-- A field of a line that blanks begin, and the rest of the line. -/
def blankField (line : Octets) : Octets × Octets :=
  let blanks := line.takeWhile isTabOrSpace
  let word := (line.drop blanks.length).takeWhile fun c => !isTabOrSpace c
  (blanks ++ word, line.drop (blanks.length + word.length))

/-- The text of a line from a field on. -/
def dropFields (separator? : Option Char) : Nat → Octets → Octets
  | 0, line => line
  | n + 1, line =>
    match separator? with
    | some c => dropFields separator? n ((line.dropWhile (· != c)).drop 1)
    | none => dropFields separator? n (blankField line).2

/-- Where a key ends in a line that begins behind `n` fields: with them, with a separator behind
each, or with characters of the next field. -/
def keyEnd (separator? : Option Char) (place : KeyPlace) (line : Octets) : Nat :=
  let rest := dropFields separator? place.field line
  let before := line.length - rest.length
  if place.char = 0 then
    -- The separator behind the last field does not belong to the key.
    let atSeparator := (line.take before).getLast? = separator?
    if separator?.isSome && before ≠ 0 && (!rest.isEmpty || atSeparator) then
      before - 1
    else before
  else
    let blanks := if place.skipsBlanks then (rest.takeWhile isTabOrSpace).length else 0
    min line.length (before + blanks + place.char)

/-- The text of a key in a line. -/
def SortKey.textIn (key : SortKey) (separator? : Option Char) (line : Octets) : Octets :=
  let rest := dropFields separator? key.start.field line
  let before := line.length - rest.length
  let blanks := if key.start.skipsBlanks then (rest.takeWhile isTabOrSpace).length else 0
  let start := min line.length (before + blanks + key.start.char)
  let stop := match key.stop with
    | some place => keyEnd separator? place line
    | none => line.length
  (line.take stop).drop start

/-! ## Comparing -/

/-- The number at the start of a text, as a numerator over a power of ten. -/
def leadingDecimal (cs : Octets) : Int × Nat :=
  let cs := cs.dropWhile isSpace
  let (negative, cs) := match cs with
    | '-' :: rest => (true, rest)
    | cs => (false, cs)
  let whole := cs.takeWhile Char.isDigit
  let fraction := match cs.drop whole.length with
    | '.' :: rest => rest.takeWhile Char.isDigit
    | _ => []
  let n : Int := digitsValue (whole ++ fraction)
  (if negative then -n else n, fraction.length)

/-- Compares two texts byte by byte. -/
def compareTexts (a b : Octets) : Ordering :=
  if a = b then .eq else if textLe a b then .lt else .gt

/-- Compares two texts by the numbers at their starts. -/
def compareNumbers (a b : Octets) : Ordering :=
  let (n, places) := leadingDecimal a
  let (m, places') := leadingDecimal b
  compare (n * Nat.pow 10 places') (m * Nat.pow 10 places)

/-- The text that an order looks at. -/
def KeyOrder.view (o : KeyOrder) (cs : Octets) : Octets :=
  let cs := if o.blanks then cs.dropWhile isTabOrSpace else cs
  let cs := if o.dictionary then cs.filter fun c => c.isAlphanum || isTabOrSpace c else cs
  let cs := if o.printing then cs.filter fun c => ' ' ≤ c && c ≤ '~' else cs
  if o.folded then cs.map Char.toUpper else cs

/-- Compares two texts. -/
def KeyOrder.compare (o : KeyOrder) (a b : Octets) : Ordering :=
  let result := if o.numeric then compareNumbers a b else compareTexts (o.view a) (o.view b)
  if o.reversed then result.swap else result

/-- How lines are compared. -/
structure LineOrder where
  separator : Option Char
  keys : List SortKey
  whole : KeyOrder
  /-- Whether lines with the same keys count as the same. -/
  keysOnly : Bool

/-- Compares two lines. -/
def LineOrder.compare (o : LineOrder) (a b : Octets) : Ordering :=
  let byKeys :=
    if o.keys.isEmpty then o.whole.compare a b
    else
      (o.keys.map fun key =>
        key.order.compare (key.textIn o.separator a) (key.textIn o.separator b)).foldl
          (fun first next => first.then next) .eq
  if o.keysOnly then byKeys
  else
    byKeys.then (if o.whole.reversed then (compareTexts a b).swap else compareTexts a b)

/-- Lines without those that are the same as the one before. -/
def dropRepeated (same : Octets → Octets → Bool) : List Octets → List Octets
  | a :: b :: rest =>
    if same a b then dropRepeated same (a :: rest) else a :: dropRepeated same (b :: rest)
  | lines => lines
termination_by lines => lines.length

/-- The first line that should stand before the line in front of it, with its number. -/
def disorder? (bad : Octets → Octets → Bool) : Nat → List Octets → Option (Nat × Octets)
  | n, a :: b :: rest => if bad a b then some (n, b) else disorder? bad (n + 1) (b :: rest)
  | _, _ => none

/-- Puts the lines of files in order. -/
def sort : Tool :=
  OptionTable.run
    ⟨['r', 'n', 'g', 'h', 'u', 'f', 'b', 'd', 'i', 's', 'c', 'C', 'm', 'z', 'V', 'M'],
      ['k', 't', 'o', 'S', 'T'],
      [("reverse", 'r'), ("numeric-sort", 'n'), ("unique", 'u'), ("ignore-case", 'f'),
        ("ignore-leading-blanks", 'b'), ("dictionary-order", 'd'), ("key", 'k'),
        ("field-separator", 't'), ("output", 'o'), ("stable", 's'), ("check", 'c'),
        ("merge", 'm'), ("general-numeric-sort", 'g'), ("human-numeric-sort", 'h')], 2⟩ false
    fun c a =>
    let letters := a.options.map Prod.fst
    let globals := KeyOrder.ofLetters letters
    let keyTexts := (a.options.filter fun (letter, _) => letter = 'k').map Prod.snd
    match keyTexts.mapM (sortKey? globals) with
    | none =>
      c.fail 2 (Octets.ofString "invalid number at field start: invalid count at start of "
        ++ quoteName (keyTexts.headD []))
    | some keys =>
      let order : LineOrder :=
        ⟨(a.value? 't').bind List.head?, keys, globals, a.has 's' || a.has 'u'⟩
      let same (x y : Octets) : Bool := order.compare x y == .eq
      let files := filesOf a.operands
      let texts := files.map fun file => (file, c.textOf file)
      match texts.find? fun (_, text?) => !text?.toBool with
      | some (file, .error e) =>
        let verb := if e = .isDirectory then "read failed: " else "cannot read: "
        c.fail 2 (Octets.ofString verb ++ aboutFile file e)
      | _ =>
        let lines := texts.flatMap fun (_, text?) => (Octets.lines (text?.toOption.getD [])).1
        let used := if readsInput files then c.input.size else 0
        if a.has 'c' || a.has 'C' then
          let bad (x y : Octets) : Bool :=
            let r := order.compare x y
            r == .gt || (a.has 'u' && r == .eq)
          match disorder? bad 2 lines with
          | some (n, line) =>
            let message := files.headD [] ++ [':'] ++ Octets.ofNat n
              ++ Octets.ofString ": disorder: " ++ line
            if a.has 'C' then { c.done 1 with used } else { c.fail 1 message with used }
          | none => { c.done 0 with used }
        else
          let ordered := lines.mergeSort fun x y => order.compare x y != .gt
          let ordered := if a.has 'u' then dropRepeated same ordered else ordered
          let out := Octets.unlines ordered
          match a.value? 'o' with
          | none => { c.print out with used }
          | some file =>
            match Disk.writeFile c.disk (pathOf file) (Octets.toBytes out) with
            | .ok disk => { c.done 0 with used, disk }
            | .error e => c.fail 2 (Octets.ofString "open failed: " ++ aboutFile file e)

/-! ## uniq and comm -/

/-- Runs of lines that are the same, each with its first line and its length. -/
def runsOf (same : Octets → Octets → Bool) : List Octets → List (Octets × Nat)
  | [] => []
  | line :: rest =>
    match runsOf same rest with
    | (next, n) :: runs =>
      if same line next then (line, n + 1) :: runs else (line, 1) :: (next, n) :: runs
    | [] => [(line, 1)]

/-- The text of a line without some fields. -/
def dropWords : Nat → Octets → Octets
  | 0, line => line
  | n + 1, line => dropWords n (blankField line).2

/-- Drops lines that repeat the one before. -/
def uniq : Tool :=
  OptionTable.run
    ⟨['c', 'd', 'u', 'i', 'D', 'z'], ['f', 's', 'w'],
      [("count", 'c'), ("repeated", 'd'), ("unique", 'u'), ("ignore-case", 'i'),
        ("skip-fields", 'f'), ("skip-chars", 's'), ("check-chars", 'w')], 1⟩ false fun c a =>
    let number (letter : Char) : Nat := ((a.value? letter).map digitsValue).getD 0
    let view (line : Octets) : Octets :=
      let line := (dropWords (number 'f') line).drop (number 's')
      let line := if a.has 'w' then line.take (number 'w') else line
      if a.has 'i' then line.map Char.toUpper else line
    match a.operands with
    | _ :: _ :: third :: _ => c.extraOperand third 1
    | operands =>
      let file := operands.headD ['-']
      match c.textOf file with
      | .error e => c.fail 1 (aboutFile file e)
      | .ok text =>
        let runs := runsOf (fun x y => view x == view y) (Octets.lines text).1
        let shown := runs.filter fun (_, n) => (n = 1 || !a.has 'u') && (1 < n || !a.has 'd')
        let out := shown.flatMap fun (line, n) =>
          (if a.has 'c' then padLeft 7 (Octets.ofNat n) ++ [' '] else []) ++ line ++ ['\n']
        let used := if readsInput (operands.take 1) then c.input.size else 0
        { c.print out with used }

/-- The rows of two ordered lists: which list a line is in, 1, 2 or 3 for both; on a budget. -/
def mergeRows : Nat → List Octets → List Octets → List (Nat × Octets)
  | 0, _, _ => []
  | _, [], right => right.map (2, ·)
  | _, left, [] => left.map (1, ·)
  | budget + 1, x :: left, y :: right =>
    match compareTexts x y with
    | .eq => (3, x) :: mergeRows budget left right
    | .lt => (1, x) :: mergeRows budget left (y :: right)
    | .gt => (2, y) :: mergeRows budget (x :: left) right

/-- Compares two files with ordered lines. -/
def comm : Tool :=
  OptionTable.run ⟨['1', '2', '3', 'z'], [], [], 1⟩ false fun c a =>
    match a.operands with
    | [] => c.missingOperand 1
    | [only] => c.missingBehind "operand" only 1
    | [left, right] =>
      match c.textOf left, c.textOf right with
      | .error e, _ => c.fail 1 (aboutFile left e)
      | _, .error e => c.fail 1 (aboutFile right e)
      | .ok x, .ok y =>
        let rows := mergeRows (x.length + y.length + 1) (Octets.lines x).1 (Octets.lines y).1
        let hides (n : Nat) : Bool := a.has (Char.ofNat ('0'.toNat + n))
        let out := rows.flatMap fun (n, line) =>
          if hides n then []
          else
            let shown := ([1, 2].filter fun k => k < n && !hides k).length
            List.replicate shown '\t' ++ line ++ ['\n']
        let used := if readsInput [left, right] then c.input.size else 0
        { c.print out with used }
    | _ :: _ :: third :: _ => c.extraOperand third 1

end Expansion.Shell.Tool
