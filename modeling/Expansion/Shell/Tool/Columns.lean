import Expansion.Pattern.CharSet
import Expansion.Shell.Tool.Lines

/-!
# Tools for columns and characters

Tools that look inside lines: `cut` takes parts of them, `paste` puts lines side by side, and `tr`
replaces characters.
-/

namespace Expansion.Shell.Tool

open Expansion.Shell

/-! ## cut -/

/-- Positions from one to another; without an end, all that follow. -/
structure Span where
  first : Nat
  last : Option Nat

/-- Whether the span has a position. -/
def Span.holds (s : Span) (n : Nat) : Bool := s.first ≤ n && s.last.all (n ≤ ·)

/-- Why a list of positions cannot be used. -/
inductive SpanFault where
  | zero
  | decreasing
  | malformed

/-- The span that a text writes. -/
def span? (cs : Octets) : Except SpanFault Span :=
  let number? (digits : Octets) : Except SpanFault Nat :=
    if !digits.all Char.isDigit then .error .malformed
    else if digitsValue digits = 0 then .error .zero
    else .ok (digitsValue digits)
  match Text.splitOnceChars ['-'] cs with
  | none => if cs.isEmpty then .error .zero else do
    let n ← number? cs
    return ⟨n, some n⟩
  | some ([], []) => .error .malformed
  | some ([], last) => return ⟨1, some (← number? last)⟩
  | some (first, []) => return ⟨← number? first, none⟩
  | some (first, last) => do
    let a ← number? first
    let b ← number? last
    if b < a then .error .decreasing else return ⟨a, some b⟩

/-- Takes parts of lines. -/
def cut : Tool :=
  OptionTable.run
    ⟨['s', 'n', 'C'], ['b', 'c', 'f', 'd', 'O'],
      [("bytes", 'b'), ("characters", 'c'), ("fields", 'f'), ("delimiter", 'd'),
        ("only-delimited", 's'), ("output-delimiter", 'O'), ("complement", 'C')], 1⟩ false
    fun c a =>
    let byFields := a.has 'f'
    match ['b', 'c', 'f'].filterMap a.value? with
    | [] =>
      c.misuse 1 (Octets.ofString "you must specify a list of bytes, characters, or fields")
    | _ :: _ :: _ => c.misuse 1 (Octets.ofString "only one list may be specified")
    | [list] =>
      let delimiter := (a.value? 'd').getD ['\t']
      let what := if byFields then "fields" else "byte or character positions"
      if a.has 'd' && !byFields then
        c.misuse 1
          (Octets.ofString "an input delimiter may be specified only when operating on fields")
      else if delimiter.length > 1 then
        c.misuse 1 (Octets.ofString "the delimiter must be a single character")
      else
        let blanksToo := list.map fun ch => if ch = ' ' || ch = '\t' then ',' else ch
        match (Text.splitChars ',' blanksToo).mapM span? with
        | .error .zero => c.misuse 1 (Octets.ofString (what ++ " are numbered from 1"))
        | .error .decreasing => c.misuse 1 (Octets.ofString "invalid decreasing range")
        | .error .malformed =>
          c.misuse 1 (Octets.ofString
            (if byFields then "invalid field value " else "invalid byte/character position ")
            ++ quoteName ((Text.splitChars (Char.ofNat 44) list).headD []))
        | .ok spans =>
          let wanted (n : Nat) : Bool := (spans.any fun s => s.holds n) != a.has 'C'
          let pick {α : Type} (items : List α) : List α :=
            items.zipIdx.filterMap fun (item, i) => if wanted (i + 1) then some item else none
          let mark := delimiter.headD '\x00'
          let between := (a.value? 'O').getD (if byFields then [mark] else [])
          let part (line : Octets) : Option Octets :=
            if !byFields then some (pick line)
            else if !line.contains mark then if a.has 's' then none else some line
            else some (Octets.join between (pick (Text.splitChars mark line)))
          let files := filesOf a.operands
          let p := files.foldl (fun p file =>
            match c.textOf file with
            | .ok text =>
              let lines := (Octets.lines text).1
              p.print (Octets.unlines (lines.filterMap part))
            | .error e => p.complain c (aboutFile file e)) Progress.start
          p.finish c files 1

/-! ## paste -/

/-- Texts side by side, with the marks in turn between them. -/
def beside (marks : List Octets) : Nat → List Octets → Octets
  | _, [] => []
  | _, [cs] => cs
  | n, cs :: rest => cs ++ (marks[n % marks.length]?.getD []) ++ beside marks (n + 1) rest

/-- The marks that a list writes: characters, some of them with a backslash. -/
def pasteMarks : Octets → List Octets
  | '\\' :: c :: rest =>
    (match c with
      | 'n' => ['\n']
      | 't' => ['\t']
      | '0' => []
      | c => [c]) :: pasteMarks rest
  | c :: rest => [c] :: pasteMarks rest
  | [] => []

/-- The lines of the operands in order, where each dash takes every so manieth line of the
input. -/
def pasteColumns (c : Call) (files : List Octets) : Except Octets (List (List Octets)) :=
  let dashes := (files.filter (· = ['-'])).length
  let inputLines := (Octets.lines c.inputText).1
  let columns := files.zipIdx.map fun (file, i) =>
    if file = ['-'] then
      let turn := ((files.take i).filter (· = ['-'])).length
      .ok (inputLines.zipIdx.filterMap fun (line, n) =>
        if n % dashes = turn then some line else none)
    else
      match c.textOf file with
      | .ok text => .ok (Octets.lines text).1
      | .error e => .error (aboutFile file e)
  columns.mapM id

/-- Puts the lines of files side by side. -/
def paste : Tool :=
  OptionTable.run ⟨['s', 'z'], ['d'], [("serial", 's'), ("delimiters", 'd')], 1⟩ false fun c a =>
    let files := filesOf a.operands
    let marks := match pasteMarks ((a.value? 'd').getD ['\t']) with
      | [] => [[]]
      | marks => marks
    match pasteColumns c files with
    | .error message => c.fail 1 message
    | .ok columns =>
      let rows :=
        if a.has 's' then columns
        else (List.range ((columns.map List.length).foldl max 0)).map fun i =>
          columns.map fun column => column[i]?.getD []
      (Progress.start.print (Octets.unlines (rows.map (beside marks 0)))).finish c files 1

/-! ## tr -/

/-- An item of a set of `tr`. -/
inductive TrItem where
  | chars (cs : Octets)
  /-- A class; the cases of letters go together in two sets. -/
  | named (name : String) (cs : Octets)
  /-- A character again and again, as often as the other set asks for if no count is given. -/
  | filling (c : Char) (count : Nat)

/-- The characters of a class, in order. -/
def classChars (name : String) : Octets :=
  match CharSet.named.lookup name with
  | some set => ((List.range 256).map Char.ofNat).filter set.contains
  | none => []

/-- The character at the start of a set, where a backslash may begin an escape. -/
def trChar (cs : Octets) : Option (Char × Octets) :=
  match cs with
  | [] => none
  | '\\' :: d :: rest =>
    if '0' ≤ d && d ≤ '7' then
      let digits := ((d :: rest).take 3).takeWhile fun c => '0' ≤ c && c ≤ '7'
      some (Char.ofNat (valueIn 8 digits % 256), (d :: rest).drop digits.length)
    else
      let c := ([('a', '\x07'), ('b', '\x08'), ('f', '\x0c'), ('n', '\n'), ('r', '\x0d'),
        ('t', '\t'), ('v', '\x0b')].lookup d).getD d
      some (c, rest)
  | c :: rest => some (c, rest)

/-- The class or repetition at the start of a set. -/
def trGroup? (cs : Octets) : Option (TrItem × Octets) :=
  match cs with
  | '[' :: ':' :: rest =>
    match Text.splitOnceChars [':', ']'] rest with
    | some (name, after) =>
      let text := String.ofList name
      if (CharSet.named.lookup text).isSome then some (.named text (classChars text), after)
      else none
    | none => none
  | '[' :: '=' :: c :: '=' :: ']' :: rest => some (.chars [c], rest)
  | '[' :: rest =>
    match trChar rest with
    | some (c, '*' :: after) =>
      let digits := after.takeWhile Char.isDigit
      match after.drop digits.length with
      | ']' :: rest =>
        let base := if digits.head? = some '0' then 8 else 10
        some (.filling c (valueIn base digits), rest)
      | _ => none
    | _ => none
  | _ => none

/-- The items of a set, on a budget, or the range that runs backwards. -/
def trItems : Nat → Octets → Except Octets (List TrItem)
  | 0, _ => .ok []
  | _, [] => .ok []
  | budget + 1, cs =>
    match trGroup? cs with
    | some (item, rest) => do return item :: (← trItems budget rest)
    | none =>
      match trChar cs with
      | none => .ok []
      | some (first, '-' :: after) =>
        match trChar after with
        | some (last, rest) =>
          if last < first then
            .error (Octets.ofString "range-endpoints of '" ++ [first, '-', last]
              ++ Octets.ofString "' are in reverse collating sequence order")
          else do
            let range := (List.range (last.toNat - first.toNat + 1)).map fun i =>
              Char.ofNat (first.toNat + i)
            return .chars range :: (← trItems budget rest)
        | none => do return .chars [first] :: (← trItems budget ('-' :: after))
      | some (c, rest) => do return .chars [c] :: (← trItems budget rest)

/-- The characters of items; a repetition without a count has as many as are missing to a size. -/
def trChars (size : Nat) (items : List TrItem) : Octets :=
  let size? : TrItem → Nat
    | .chars cs | .named _ cs => cs.length
    | .filling _ n => n
  let counted := items.foldl (fun n item => n + size? item) 0
  items.flatMap fun
    | .chars cs | .named _ cs => cs
    | .filling c n => List.replicate (if n = 0 then size - counted else n) c

/-- A text without characters of a set that follow themselves. -/
def squeezeChars (inSet : Char → Bool) : Octets → Octets
  | a :: b :: rest =>
    if a = b && inSet a then squeezeChars inSet (b :: rest) else a :: squeezeChars inSet (b :: rest)
  | cs => cs

/-- The characters that two sets put in each other's places. -/
def trPairs (first second : Octets) : List (Char × Char) :=
  let last := second.getLast?.getD '\x00'
  first.zipIdx.map fun (c, i) => (c, second[i]?.getD last)

/-- Replaces, drops or squeezes characters. -/
def tr : Tool :=
  OptionTable.run
    ⟨['d', 's', 'c', 'C', 't'], [],
      [("delete", 'd'), ("squeeze-repeats", 's'), ("complement", 'c'), ("truncate-set1", 't')], 1⟩
    true fun c a =>
    let complemented := a.has 'c' || a.has 'C'
    let deletes := a.has 'd'
    let squeezes := a.has 's'
    let wanted := if deletes = squeezes then 2 else 1
    let missing (operand : Octets) (why : String) : ToolOutput :=
      let start := Octets.ofString "missing operand after '" ++ operand ++ Octets.ofString "'\n"
      ⟨1, [], c.name ++ Octets.ofString ": " ++ start ++ Octets.ofString why ++ ['\n'] ++ c.hint,
        c.disk, 0⟩
    match a.operands with
    | [] => c.missingOperand 1
    | [only] =>
      if wanted = 2 then
        missing only (if deletes then
          "Two strings must be given when both deleting and squeezing repeats."
          else "Two strings must be given when translating.")
      else apply c a only none complemented deletes squeezes
    | [first, second] =>
      if deletes && !squeezes then
        ⟨1, [], c.complaint (Octets.ofString "extra operand " ++ quoteName second)
          ++ Octets.ofString
            "Only one string may be given when deleting without squeezing repeats.\n" ++ c.hint,
          c.disk, 0⟩
      else apply c a first (some second) complemented deletes squeezes
    | _ :: _ :: third :: _ => c.extraOperand third 1
where
  /-- Does the work on two sets. -/
  apply (c : Call) (a : Arguments) (first : Octets) (second? : Option Octets)
      (complemented deletes squeezes : Bool) : ToolOutput :=
    let items (cs : Octets) : Except Octets (List TrItem) := trItems (cs.length + 1) cs
    match items first, items (second?.getD []) with
    | .error message, _ | _, .error message => c.fail 1 message
    | .ok firstItems, .ok secondItems =>
      let listed := trChars 0 firstItems
      let first := if complemented then
          ((List.range 256).map Char.ofNat).filter fun ch => !listed.contains ch
        else listed
      let second := trChars first.length secondItems
      let text := c.inputText
      let out : Octets :=
        if deletes then
          let kept := text.filter fun ch => !first.contains ch
          if squeezes then squeezeChars second.contains kept else kept
        else
          match second? with
          | none => squeezeChars first.contains text
          | some _ =>
            let first := if a.has 't' then first.take second.length else first
            let pairs := trPairs first second
            -- Of several places of a character the last one counts.
            let pairs := pairs.reverse
            let changed := text.map fun ch => (pairs.lookup ch).getD ch
            if squeezes then squeezeChars second.contains changed else changed
      if second?.isSome && !deletes && second.isEmpty && !first.isEmpty then
        c.fail 1 (Octets.ofString "when not truncating set1, string2 must be non-empty")
      else { c.print out with used := c.input.size }

end Expansion.Shell.Tool
