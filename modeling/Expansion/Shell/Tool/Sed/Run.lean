import Expansion.Shell.Tool.Lines
import Expansion.Shell.Tool.Sed.Script

/-!
# Editing lines

The work of `sed`: every line of the input goes through the steps of a script. `Editing` is what the
steps read and change.

* A line that had no line end gets none, unless something is printed behind it. Whether it had one
  goes with the line when it is put on hold.
* Steps may jump, so a run takes from a budget with every step.
-/

namespace Expansion.Shell.Sed

open Expansion.Shell

/-- Whether a range of lines has not begun yet, is under way, up to which line if that is known, or is
over. -/
inductive RangeState where
  | ahead
  | open (last : Option Nat)
  | closed

/-- The state of an editor. -/
structure Editing where
  disk : Disk
  /-- The line in work. -/
  pattern : Octets
  hold : Octets
  /-- Whether the line that is on hold had a line end. -/
  holdEnded : Bool
  /-- The number of the line in work. -/
  lineNumber : Nat
  /-- Whether the line in work had a line end. -/
  ended : Bool
  /-- The lines that are still to come, each with whether it has a line end. -/
  rest : List (Octets × Bool)
  out : Octets
  /-- Whether the last line that was printed still lacks its line end. -/
  owesNewline : Bool
  /-- What is to be printed at the end of the turn. -/
  queue : List Octets
  replaced : Bool
  ranges : List (Nat × RangeState)
  /-- The expression that was used last. -/
  lastRegex : Option Regex
  quiet : Bool
  /-- The files that have been written. -/
  written : List (Octets × Octets)
  status : Nat

/-- How a turn goes on. -/
inductive Turn where
  /-- The line is done and may be printed. -/
  | over
  /-- The line is done and gone. -/
  | dropped
  /-- The steps begin again without a new line. -/
  | again
  /-- There is nothing more to do. -/
  | quits (prints : Bool)
  /-- There is nothing more to do, and the last line gets its line end. -/
  | stops

namespace Editing

/-- Prints a text behind the line end that is still owed. -/
def printRaw (text : Octets) (e : Editing) : Editing :=
  { e with out := e.out ++ (if e.owesNewline then ['\n'] else []) ++ text, owesNewline := false }

/-- Prints a line, with a line end if the line in work had one. -/
def printLine (text : Octets) (e : Editing) : Editing :=
  let e := e.printRaw text
  if e.ended then { e with out := e.out ++ ['\n'] } else { e with owesNewline := true }

/-- Prints what is to be printed at the end of a turn. -/
def flush (e : Editing) : Editing :=
  { e.queue.foldl (fun e text => e.printRaw text) e with queue := [] }

/-- Takes the next line. -/
def takeLine? (e : Editing) : Option (Octets × Editing) :=
  match e.rest with
  | [] => none
  | (line, ended) :: rest =>
    some (line, { e with rest, ended, lineNumber := e.lineNumber + 1 })

/-- The state of the range of a step. -/
def range (e : Editing) (step : Nat) : RangeState := (e.ranges.lookup step).getD .ahead

/-- The editor with a state for the range of a step. -/
def setRange (step : Nat) (state : RangeState) (e : Editing) : Editing :=
  { e with ranges := (step, state) :: e.ranges.filter fun (other, _) => other != step }

/-- Whether the line in work meets a condition. -/
def meets (e : Editing) (a : Address) : Bool × Editing :=
  match a with
  | .line n => (e.lineNumber = n, e)
  | .last => (e.rest.isEmpty, e)
  | .step first every =>
    if every = 0 then (e.lineNumber = first, e)
    else (first ≤ e.lineNumber && (e.lineNumber - first) % every = 0, e)
  | .regex r? ignoresCase byLines =>
    match r?.orElse fun _ => e.lastRegex with
    | none => (false, e)
    | some r =>
      let form : Regex.SearchForm := { Regex.SearchForm.plain with ignoresCase, byLines }
      ((Regex.search form r e.pattern 0).isSome, { e with lastRegex := some r })

/-- The editor after the first line of a range, which may be its last one too. -/
def beginRange (step : Nat) (stop : RangeEnd) (e : Editing) : Editing :=
  let n := e.lineNumber
  e.setRange step <| match stop with
    | .address (.line last) => if last ≤ n then .closed else .open (some last)
    | .address _ => .open none
    | .after lines => if lines = 0 then .closed else .open (some (n + lines))
    | .multiple m => if m = 0 || n % m = 0 then .closed else .open (some (n + (m - n % m)))

/-- Whether a range begins with the line in work. One that begins at a number begins behind it if
that line was never looked at, unless it would be over by then. -/
def begins (step : Nat) (first : Address) (stop : RangeEnd) (e : Editing) : Bool × Editing :=
  match first, e.range step with
  | .line n, .ahead =>
    let isLate := match stop with
      | .address (.line last) => last < e.lineNumber
      | _ => false
    (e.lineNumber = n || (n < e.lineNumber && !isLate), e)
  | first, _ => e.meets first

/-- Whether a step is for the line in work. -/
def selects (step : Nat) (s : Selector) (e : Editing) : Bool × Editing :=
  let (holds, e) : Bool × Editing := match s.first, s.stop with
    | none, _ => (true, e)
    | some a, none => e.meets a
    | some a, some stop =>
      match e.range step with
      | .open (some last) =>
        if e.lineNumber < last then (true, e)
        else if e.lineNumber = last then (true, e.setRange step .closed)
        else (e.setRange step .closed).meets a
      | .open none =>
        match stop with
        | .address a =>
          let (holds, e) := e.meets a
          (true, if holds then e.setRange step .closed else e)
        | _ => (true, e)
      | _ =>
        let (holds, e) := e.begins step a stop
        if holds then (true, e.beginRange step stop) else (false, e)
  (holds != s.negated, e)

/-! ## Substitutions -/

/-- A letter in a case. -/
def inCase (c : LetterCase) (d : Char) : Char :=
  match c with
  | .asWritten => d
  | .upper => d.toUpper
  | .lower => d.toLower

/-- A text in a case, its first character in another one if that is asked for. -/
def caseText (all : LetterCase) (first? : Option LetterCase) (cs : Octets) : Octets :=
  match first?, cs with
  | some first, c :: rest => inCase first c :: rest.map (inCase all)
  | _, cs => cs.map (inCase all)

/-- The text of a replacement for a match. -/
def replacementText (m : Regex.Match) (whole : Octets) :
    LetterCase → Option LetterCase → List Piece → Octets
  | _, _, [] => []
  | all, first?, piece :: rest =>
    let put (cs : Octets) : Octets :=
      caseText all first? cs
        ++ replacementText m whole all (if cs.isEmpty then first? else none) rest
    match piece with
    | .text cs => put cs
    | .group 0 => put whole
    | .group n => put (m.group n)
    | .letters c => replacementText m whole c none rest
    | .nextLetter c => replacementText m whole all (some c) rest

/-- The text from a position on with matches replaced, and whether any was; `count` matches have been
seen, and `lastEnd` is where the last one ended. Every step takes one from a budget. -/
def replaceFrom (form : Regex.SearchForm) (r : Regex) (s : Substitution) (text : Octets) :
    Nat → Nat → Nat → Option Nat → Octets × Bool
  | 0, position, _, _ => (text.drop position, false)
  | budget + 1, position, count, lastEnd =>
    match Regex.search form r text position with
    | none => (text.drop position, false)
    | some m =>
      let before := (text.take m.start).drop position
      let whole := (text.take m.stop).drop m.start
      let isEmpty := m.stop = m.start
      -- An empty match right behind another match does not count.
      if isEmpty && lastEnd = some m.start then
        match text[m.start]? with
        | none => (before, false)
        | some c =>
          let (rest, changed) := replaceFrom form r s text budget (m.start + 1) count none
          (before ++ c :: rest, changed)
      else
        let count := count + 1
        let replaces := count = s.which || (s.everywhere && s.which ≤ count)
        let put := if replaces then replacementText m whole .asWritten none s.replacement
          else whole
        if replaces && !s.everywhere then (before ++ put ++ text.drop m.stop, true)
        else if isEmpty then
          match text[m.stop]? with
          | none => (before ++ put, replaces)
          | some c =>
            let (rest, changed) := replaceFrom form r s text budget (m.stop + 1) count none
            (before ++ put ++ c :: rest, replaces || changed)
        else
          let (rest, changed) := replaceFrom form r s text budget m.stop count (some m.stop)
          (before ++ put ++ rest, replaces || changed)

/-- Writes a line to a file. -/
def writeTo (file line : Octets) (e : Editing) : Editing :=
  let line := if e.ended then line ++ ['\n'] else line
  if file = "/dev/stdout".toList then { e with out := e.out ++ line }
  else
    let before := (e.written.lookup file).getD []
    let gap : Octets := if before.isEmpty || before.getLast? = some '\n' then [] else ['\n']
    let others := e.written.filter fun (other, _) => other != file
    { e with written := (file, before ++ gap ++ line) :: others }

/-- Does a substitution. -/
def substitute (s : Substitution) (e : Editing) : Editing :=
  match s.regex.orElse fun _ => e.lastRegex with
  | none => e
  | some r =>
    let form : Regex.SearchForm :=
      { Regex.SearchForm.plain with ignoresCase := s.ignoresCase, byLines := s.byLines }
    let e := { e with lastRegex := some r }
    let (text, changed) := replaceFrom form r s e.pattern (2 * e.pattern.length + 4) 0 0 none
    if !changed then e
    else
      let e := { e with pattern := text, replaced := true }
      let e := if s.prints then e.printLine text else e
      match s.file with
      | some file => e.writeTo file text
      | none => e

/-- A text in a form that can be seen, in lines of at most seventy characters. -/
def visibleText (text : Octets) : Octets :=
  let octal (c : Char) : Octets :=
    let digits := Nat.toDigits 8 c.toNat
    '\\' :: List.replicate (3 - digits.length) '0' ++ digits
  let shown (c : Char) : Octets :=
    match [('\\', '\\'), ('\x07', 'a'), ('\x08', 'b'), ('\x0c', 'f'), ('\n', 'n'), ('\x0d', 'r'),
      ('\t', 't'), ('\x0b', 'v')].lookup c with
    | some letter => ['\\', letter]
    | none => if ' ' ≤ c && c ≤ '~' then [c] else octal c
  let (lines, last) := text.foldl (fun (out, line) c =>
    let piece := shown c
    if 69 < line.length + piece.length then (out ++ line ++ ['\\', '\n'], piece)
    else (out, line ++ piece)) (([], []) : Octets × Octets)
  lines ++ last ++ ['$']

/-! ## Steps -/

/-- The text up to the first line end. -/
def firstLine (text : Octets) : Octets := text.takeWhile (· != '\n')

/-- The place of the step behind a label. -/
def labelPlace? (steps : List Step) (name : Octets) : Option Nat :=
  steps.findIdx? fun step =>
    match step.action with
    | .label other => other = name
    | _ => false

/-- The place of the step that closes a group. -/
def groupEnd (steps : List Step) (number : Nat) : Nat :=
  steps.findIdx fun step =>
    match step.action with
    | .closeGroup other => other = number
    | _ => false

/-- Goes through the steps from a place on, on a budget. -/
def run (steps : List Step) : Nat → Nat → Editing → Turn × Editing
  | 0, _, e => (.over, e)
  | budget + 1, place, e =>
    match steps[place]? with
    | none => (.over, e)
    | some step =>
      let (selected, e) := e.selects place step.selector
      let next (e : Editing) : Turn × Editing := run steps budget (place + 1) e
      let jump (name : Octets) (e : Editing) : Turn × Editing :=
        if name.isEmpty then (.over, e)
        else run steps budget ((labelPlace? steps name).getD steps.length) e
      if !selected then
        match step.action with
        | .openGroup number => run steps budget (groupEnd steps number + 1) e
        | _ => next e
      else
        match step.action with
        | .openGroup _ | .closeGroup _ | .label _ => next e
        | .jump name => jump name e
        | .jumpIfReplaced name =>
          if e.replaced then jump name { e with replaced := false } else next e
        | .jumpUnlessReplaced name =>
          if e.replaced then next { e with replaced := false } else jump name e
        | .append text => next { e with queue := e.queue ++ [text] }
        | .insert text => next (e.printRaw text)
        | .change text =>
          -- The text stands for a range as a whole.
          let isInside := match step.selector.stop, e.range place with
            | some _, .open _ => !step.selector.negated
            | _, _ => false
          (.dropped, if isInside then e else e.printRaw text)
        | .delete => (.dropped, e)
        | .deleteLine =>
          if e.pattern.contains '\n' then
            (.again, { e with pattern := (e.pattern.dropWhile (· != '\n')).drop 1 })
          else (.dropped, e)
        | .print => next (e.printLine e.pattern)
        | .printLine =>
          if e.pattern.contains '\n' then next (e.printRaw (firstLine e.pattern ++ ['\n']))
          else next (e.printLine e.pattern)
        | .next =>
          match e.rest with
          | [] => (.quits true, e)
          | _ =>
            let e := if e.quiet then e else e.printLine e.pattern
            match e.flush.takeLine? with
            | some (line, e) => next { e with pattern := line }
            | none => (.quits true, e)
        | .appendNext =>
          match e.flush.takeLine? with
          | some (line, e) => next { e with pattern := e.pattern ++ '\n' :: line }
          | none => (.quits true, e)
        | .fetch => next { e with pattern := e.hold, ended := e.holdEnded }
        | .fetchAppend =>
          next { e with pattern := e.pattern ++ '\n' :: e.hold, ended := e.holdEnded }
        | .keep => next { e with hold := e.pattern, holdEnded := e.ended }
        | .keepAppend =>
          next { e with hold := e.hold ++ '\n' :: e.pattern, holdEnded := e.ended }
        | .exchange =>
          next { e with
            hold := e.pattern, pattern := e.hold, holdEnded := e.ended, ended := e.holdEnded }
        | .lineNumber => next (e.printRaw (Octets.ofNat e.lineNumber ++ ['\n']))
        | .list => next (e.printRaw (visibleText e.pattern ++ ['\n']))
        | .quit status prints => (if prints then .stops else .quits false, { e with status })
        | .readFile file =>
          let text := (fileText e.disk file).toOption.getD []
          next { e with queue := e.queue ++ [text] }
        | .writeFile file => next (e.writeTo file e.pattern)
        | .substitute s => next (e.substitute s)
        | .translate pairs =>
          next { e with pattern := e.pattern.map fun c => (pairs.lookup c).getD c }
        | .clear => next { e with pattern := [] }

/-- The number of steps that one line may take. -/
def stepLimit : Nat := 1000000

/-- Goes through all lines, on a budget; `fresh` asks for a new line. -/
def runAll (steps : List Step) : Nat → Bool → Editing → Editing
  | 0, _, e => e
  | budget + 1, fresh, e =>
    match (if fresh then e.takeLine? else some (e.pattern, e)) with
    | none => e
    | some (line, e) =>
      let e := { e with pattern := line, replaced := fresh.not && e.replaced }
      let (turn, e) := run steps stepLimit 0 e
      let printed (e : Editing) : Editing := if e.quiet then e else e.printLine e.pattern
      match turn with
      | .over => runAll steps budget true (printed e).flush
      | .dropped => runAll steps budget true e.flush
      | .again => runAll steps budget false e.flush
      | .quits prints => if prints then (printed e).flush else e
      | .stops => (printed e).flush.printRaw []

end Editing

/-- The options. -/
def options : OptionTable :=
  ⟨['n', 'E', 'r', 's', 'z', 'u'], ['e', 'f', 'i'],
    [("quiet", 'n'), ("silent", 'n'), ("expression", 'e'), ("file", 'f'), ("regexp-extended", 'E'),
      ("separate", 's'), ("null-data", 'z'), ("unbuffered", 'u')], 1⟩

/-- The lines of a text, each with whether it has a line end. -/
def linesOf (text : Octets) : List (Octets × Bool) :=
  let (lines, ended) := Octets.lines text
  lines.zipIdx.filterMap fun (line, i) =>
    let isLast := i + 1 = lines.length
    if isLast && !ended then if line.isEmpty then none else some (line, false)
    else some (line, true)

/-- Edits lines with steps. -/
def edit (steps : List Step) (quiet : Bool) (lines : List (Octets × Bool)) (d : Disk) : Editing :=
  -- A range that begins at line zero is under way from the start.
  let ranges := steps.zipIdx.filterMap fun (step, i) =>
    match step.selector.first, step.selector.stop with
    | some (.line 0), some _ => some (i, RangeState.open none)
    | _, _ => none
  let e : Editing :=
    { disk := d, pattern := [], hold := [], holdEnded := true, lineNumber := 0, ended := true
      rest := lines, out := [], owesNewline := false, queue := [], replaced := false, ranges
      lastRegex := none, quiet, written := [], status := 0 }
  e.runAll steps (100 * lines.length + 1000) true

/-- The disk with the files that an editor wrote. -/
def Editing.finalDisk (e : Editing) (d : Disk) : Disk :=
  e.written.foldl (fun d (file, text) =>
    match Disk.writeFile d (pathOf file) (Octets.toBytes text) with
    | .ok d => d
    | .error _ => d) d

/-- Runs a script on files. -/
def apply (c : Call) (a : Arguments) (inPlace : Option Octets) : ToolOutput :=
  let usage : Octets :=
    Octets.ofString "Usage: sed [OPTION]... \x7bscript-only-if-no-other-script\x7d "
      ++ Octets.ofString "[input-file]...\n\n"
  let given := a.options.filter fun (letter, _) => letter = 'e' || letter = 'f'
  let pieces : Except Octets (List Octets) := given.mapM fun (letter, value) =>
    if letter = 'e' then .ok value
    else
      match c.textOf value with
      | .ok text => .ok (if text.getLast? = some '\n' then text.dropLast else text)
      | .error e =>
        .error (Octets.ofString "couldn't open file " ++ aboutFile value e)
  let (script?, operands) : Option (Except Octets Octets) × List Octets :=
    if given.isEmpty then (a.operands.head?.map .ok, a.operands.tail)
    else (some (pieces.map (Octets.join ['\n'])), a.operands)
  match script? with
  | none => ⟨1, [], usage, c.disk, 0⟩
  | some (.error message) => c.fail 1 message
  | some (.ok script) =>
    match parse ⟨a.has 'E' || a.has 'r'⟩ script with
    | .error message => c.fail 1 message
    | .ok steps =>
      let quiet := a.has 'n' || Octets.startsWith "#n\n".toList script
      match inPlace with
      | some suffix =>
        let step (work : Disk × Progress) (file : Octets) : Disk × Progress :=
          let (d, p) := work
          match d.find (pathOf file) true with
          | .ok (.present _ (.file content _)) =>
            let e := edit steps quiet (linesOf (Octets.ofBytes content)) d
            let d := if suffix.isEmpty then d
              else match Disk.writeFile d (pathOf (file ++ suffix)) content with
                | .ok d => d
                | .error _ => d
            match Disk.writeFile (e.finalDisk d) (pathOf file) (Octets.toBytes e.out) with
            | .ok d => (d, p)
            | .error _ => (d, p)
          | .ok (.present _ _) =>
            (d, p.complain c (Octets.ofString "couldn't edit " ++ file
              ++ Octets.ofString ": not a regular file"))
          | .error e => (d, p.complain c (Octets.ofString "can't read " ++ aboutFile file e))
          | .ok (.absent _ _ _) =>
            (d, p.complain c (Octets.ofString "can't read " ++ aboutFile file .notFound))
        let (disk, p) := operands.foldl step (c.disk, Progress.start)
        ⟨if p.failed then 4 else 0, [], p.err, disk, 0⟩
      | none =>
        let files := filesOf operands
        let (lines, p) := files.foldl (fun (lines, p) file =>
          match c.textOf file with
          | .ok text => (lines ++ linesOf text, p)
          | .error .isDirectory =>
            (lines, p.complain c (Octets.ofString "couldn't edit " ++ file
              ++ Octets.ofString ": not a regular file"))
          | .error e =>
            (lines, p.complain c (Octets.ofString "can't read " ++ aboutFile file e)))
          (([], Progress.start) : List (Octets × Bool) × Progress)
        let e := edit steps quiet lines c.disk
        let done := (p.print e.out).finish c files 2
        { done with
          disk := e.finalDisk c.disk
          status := if e.status = 0 then done.status else e.status }

/-- Edits lines as a script says. -/
def tool : Tool := fun c =>
  -- A suffix may stand behind the letter that asks for files to be changed.
  let isInPlace (argument : Octets) : Bool :=
    Octets.startsWith ['-', 'i'] argument || Octets.startsWith "--in-place".toList argument
  let inPlace := c.arguments.find? isInPlace
  let suffix := inPlace.map fun argument =>
    if Octets.startsWith "--in-place".toList argument then argument.drop 11 else argument.drop 2
  match options.read false (c.arguments.filter fun argument => !isInPlace argument) with
  | .error message =>
    ⟨1, [], c.complaint message ++ Octets.ofString
      "Usage: sed [OPTION]... \x7bscript-only-if-no-other-script\x7d [input-file]...\n\n",
      c.disk, 0⟩
  | .ok a => apply c a suffix

end Expansion.Shell.Sed
