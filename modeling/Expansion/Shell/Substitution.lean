import Expansion.Shell.Arithmetic
import Expansion.Shell.Glob
import Expansion.Shell.State

/-!
# Putting values into words

What a word stands for: the values of parameters, the outputs of commands and the results of
arithmetic in their places, cut into fields, and patterns of paths replaced by the paths.

* **Quotes count twice**: what is put in between them is not split, and no character of it has a
  meaning in a pattern.
* An operand between braces is itself such a word. It is only looked at if it is needed, so nothing
  in an operand that is left out has an effect.
* The commands in a word are run by a function that is given (`Capture`); every step down takes one
  from a budget.
-/

namespace Expansion.Shell

/-- Runs commands for what they print. -/
abbrev Capture := Command → Act Octets

/-- What a word is put to use for. -/
structure Usage where
  /-- Whether it may become several fields. -/
  splits : Bool
  /-- Whether all of it stands between quotes. -/
  quoted : Bool
  /-- Whether it is an operand, so that text in it may be split as well. -/
  operand : Bool
  /-- Whether a tilde in front stands for a directory. -/
  tilde : Bool
  /-- Whether it is a value to be assigned, in which tildes may also stand behind colons. -/
  assigned : Bool
  deriving DecidableEq, Repr

/-- The use as an argument. -/
def Usage.argument : Usage := ⟨true, false, false, true, false⟩

/-- The use as one text. -/
def Usage.single : Usage := ⟨false, false, false, true, false⟩

/-- The use as a value that is assigned. -/
def Usage.value : Usage := ⟨false, false, false, true, true⟩

/-- The use as the text of a here-document. -/
def Usage.document : Usage := ⟨false, true, false, false, false⟩

/-- The use as an arithmetic expression. -/
def Usage.sum : Usage := ⟨false, false, false, false, false⟩

/-! ## Tildes -/

/-- The directory that a tilde and a name stand for. -/
def homeOf? (s : State) (name : Octets) : Option Octets :=
  if name.isEmpty then s.value? "HOME".toList
  else if name = "root".toList then some "/root".toList
  else none

/-- The cells of a text with the tilde in front replaced; `last` tells that nothing is behind the
text, so that a name may end with it. -/
def expandTilde (s : State) (assigned last : Bool) (cs : Octets) : List Cell :=
  match cs with
  | '~' :: rest =>
    let name := rest.takeWhile fun c => c != '/' && !(assigned && c == ':')
    let after := rest.drop name.length
    match (if after.isEmpty && !last then none else homeOf? s name) with
    | some home => cellsOf true home ++ cellsOf false after
    | none => cellsOf false cs
  | cs => cellsOf false cs

/-- The cells of a text with the tildes behind colons replaced, on a budget. -/
def expandTildes (s : State) (last : Bool) : Nat → Octets → List Cell
  | 0, cs => cellsOf false cs
  | _, [] => []
  | budget + 1, ':' :: '~' :: rest =>
    let piece := '~' :: rest.takeWhile (· != ':')
    let after := rest.dropWhile (· != ':')
    .char false ':' :: expandTilde s true (last || !after.isEmpty) piece
      ++ expandTildes s last budget after
  | budget + 1, c :: rest => .char false c :: expandTildes s last budget rest

/-- The cells of unquoted text. -/
def plainCells (s : State) (use : Usage) (first last : Bool) (cs : Octets) : List Cell :=
  let behindColons (cs : Octets) : List Cell :=
    if use.assigned then expandTildes s last (cs.length + 1) cs else cellsOf false cs
  if use.tilde && first && cs.head? = some '~' then
    let piece := if use.assigned then cs.takeWhile (· != ':') else cs
    let after := cs.drop piece.length
    expandTilde s use.assigned (last || !after.isEmpty) piece ++ behindColons after
  else behindColons cs

/-! ## Parameters -/

/-- Texts with a character between each two of them, or with nothing. -/
def joinArguments (separator : Option Char) (arguments : List Octets) : Octets :=
  Octets.join separator.toList arguments

/-- The value of a parameter, if it is set; `quoted` and `splits` tell what keeps the parameters of
the shell apart. -/
def parameterValue? (s : State) (quoted splits : Bool) (name : Octets) : Option Octets :=
  let joined : Octets :=
    let separator : Option Char := match s.value? "IFS".toList with
      | none => some ' '
      | some separators =>
        if splits && !quoted then some '\x00' else separators.head?
    joinArguments separator s.arguments
  match name with
  | ['?'] => some (Octets.ofNat s.status)
  | ['#'] => some (Octets.ofNat s.arguments.length)
  | ['$'] => some (Octets.ofNat processNumber)
  | ['!'] => s.lastBackground.map Octets.ofNat
  | ['-'] => some s.options
  | ['@'] =>
    if quoted && splits then some (joinArguments (some '\x00') s.arguments) else some joined
  | ['*'] => some joined
  | name =>
    if !name.isEmpty && name.all Char.isDigit then
      let number := digitsValue name
      if number = 0 then some s.name else s.arguments[number - 1]?
    else s.value? name

/-- The complaint about a parameter that is not set. -/
def unsetMessage (name : Octets) (emptyToo : Bool) : Octets :=
  name ++ Octets.ofString (": parameter not set" ++ if emptyToo then " or null" else "")

/-- The segments of a value. -/
def valueSegments (s : State) (quoted : Bool) (name value : Octets) : List Segment :=
  let splitting : Splitting :=
    if !quoted then .atSeparators
    else if name = ['@'] && !s.arguments.isEmpty then .atZeros
    else .nowhere
  [⟨splitting, cellsOf quoted value⟩]

/-- Computes an expression and makes the assignments in it. -/
def compute (text : Octets) : Act Int := do
  let s ← get
  match Arithmetic.evaluate s.value? text with
  | .error f => Act.fail (f.message text)
  | .ok (n, assigned) =>
    assigned.forM fun (name, value) => Act.assign name (Octets.ofInt value)
    return n

mutual

/-- The segments that parts stand for. `marked` tells whether the parts stand behind an odd number
of quotation marks, and `first` whether they stand at the start of their word. -/
def expandParts (capture : Capture) : Nat → Usage → Bool → Bool → List Part → Act (List Segment)
  | 0, _, _, _, _ => return []
  | _, _, _, _, [] => return []
  | budget + 1, use, marked, first, part :: rest => do
    let s ← get
    let quoted := use.quoted || marked
    let more (marked : Bool) (rest : List Part) (segments : List Segment) :
        Act (List Segment) :=
      return segments ++ (← expandParts capture budget use marked false rest)
    match part, rest with
    | .text isQuoted cs, rest =>
      let splitting : Splitting :=
        if use.operand && !quoted && !isQuoted then .atSeparators else .nowhere
      let cells := if isQuoted || quoted then cellsOf true cs
        else plainCells s use first rest.isEmpty cs
      more marked rest [⟨splitting, cells⟩]
    | .mark, .parameter ['@'] .value [] :: .mark :: rest =>
      if marked then more false (.parameter ['@'] .value [] :: .mark :: rest) [⟨.nowhere, [.mark]⟩]
      else
        -- All parameters between quotes of their own may be no field at all.
        let value := (parameterValue? s true use.splits ['@']).getD []
        more false rest (valueSegments s true ['@'] value)
    | .mark, rest => more (!marked) rest [⟨.nowhere, [.mark]⟩]
    | .parameter name operation operand, rest =>
      more marked rest (← expandParameter capture budget use quoted name operation operand)
    | .output command, rest =>
      let text := (Octets.withoutLastNewlines (← capture command)).filter (· != '\x00')
      let splitting : Splitting := if quoted then .nowhere else .atSeparators
      more marked rest [⟨splitting, cellsOf quoted text⟩]
    | .sum expression, rest =>
      let inner ← expandParts capture budget .sum false true expression
      let n ← compute (textOfCells (cellsOfSegments inner))
      let splitting : Splitting := if quoted then .nowhere else .atSeparators
      more marked rest [⟨splitting, cellsOf quoted (Octets.ofInt n)⟩]

/-- The segments that a parameter stands for. -/
def expandParameter (capture : Capture) : Nat → Usage → Bool → Octets → Operation → List Part →
    Act (List Segment)
  | 0, _, _, _, _, _ => return []
  | budget + 1, use, quoted, name, operation, operand => do
    let s ← get
    let value? := parameterValue? s quoted use.splits name
    let segments (value : Octets) : Act (List Segment) := do
      return valueSegments (← get) quoted name value
    let isMissing (emptyToo : Bool) : Bool :=
      match value? with
      | none => true
      | some value => emptyToo && value.isEmpty
    let operandSegments : Act (List Segment) :=
      expandParts capture budget { use with quoted, operand := true, tilde := true } false true
        operand
    let operandCells : Act (List Cell) := do
      return cellsOfSegments (← expandParts capture budget .single false true operand)
    let demanded : Act Octets :=
      match value? with
      | some value => return value
      | none => if s.has 'u' then Act.fail (unsetMessage name false) else return []
    match operation with
    | .unknown => Act.failWith "Bad substitution"
    | .value => segments (← demanded)
    | .length => do
      let joined := parameterValue? s quoted false name
      let _ ← demanded
      segments (Octets.ofNat (joined.getD []).length)
    | .default emptyToo =>
      if isMissing emptyToo then operandSegments else segments (value?.getD [])
    | .alternative emptyToo => if isMissing emptyToo then return [] else operandSegments
    | .demand emptyToo =>
      if isMissing emptyToo then
        let message := textOfCells (← operandCells)
        if operand.isEmpty then Act.fail (unsetMessage name emptyToo)
        else Act.fail (name ++ Octets.ofString ": " ++ message)
      else segments (value?.getD [])
    | .assign emptyToo =>
      if isMissing emptyToo then
        Act.assign name (textOfCells (← operandCells))
        segments ((parameterValue? (← get) quoted use.splits name).getD [])
      else segments (value?.getD [])
    | .dropEnd longest => do
      let value ← demanded
      let pattern := Glob.ofCells (← operandCells)
      segments (Glob.withoutEnd longest pattern value)
    | .dropStart longest => do
      let value ← demanded
      let pattern := Glob.ofCells (← operandCells)
      segments (Glob.withoutStart longest pattern value)

end

/-- The size of budget for the parts of a word. -/
def wordBudget : Nat := 1000000

/-- The segments that a word stands for. -/
def segmentsOf (capture : Capture) (use : Usage) (word : Word) : Act (List Segment) :=
  expandParts capture wordBudget use false true word

/-- The text that a word stands for. -/
def textOf (capture : Capture) (use : Usage) (word : Word) : Act Octets := do
  return textOfCells (cellsOfSegments (← segmentsOf capture use word))

/-- The pattern that a word stands for. -/
def patternOf (capture : Capture) (word : Word) : Act Glob := do
  return Glob.ofCells (cellsOfSegments (← segmentsOf capture .single word))

/-! ## Paths -/

/-- The cells between slashes. -/
def splitPath : List Cell → List (List Cell)
  | [] => [[]]
  | .mark :: rest => splitPath rest
  | .char quoted c :: rest =>
    if c = '/' then [] :: splitPath rest
    else
      match splitPath rest with
      | [] => [[.char quoted c]]
      | piece :: pieces => (.char quoted c :: piece) :: pieces

/-- The names in the directory of a path. -/
def namesAt (d : Disk) (path : Octets) : List Octets :=
  let p : FilePath := ⟨if path.isEmpty then "." else Octets.toString path⟩
  match d.find p true with
  | .ok (.present place .directory) =>
    ['.'] :: ['.', '.'] :: (d.namesIn place).map Octets.ofString
  | _ => []

/-- Whether a path leads to anything; a link at its end is not followed. -/
def isThere (d : Disk) (path : Octets) : Bool := d.isTaken ⟨Octets.toString path⟩

/-- The paths that begin with a text and go on as the pieces say. -/
def matchingPaths (d : Disk) : Octets → List (List Cell) → List Octets
  | start, [] => [start]
  | start, piece :: rest =>
    let behind (name : Octets) : List Octets :=
      let path := start ++ name
      if !rest.isEmpty then matchingPaths d (path ++ ['/']) rest
      else if isThere d path then [path]
      else []
    if Glob.isPattern piece then
      let pattern := Glob.ofCells piece
      let showsHidden := pattern.head? = some (.char '.')
      let names := (namesAt d start).filter fun name =>
        (name.head? ≠ some '.' || showsHidden) && pattern.holds name
      names.flatMap behind
    else behind (textOfCells (Glob.unescape piece))

/-- The texts that a field stands for: the paths that it matches, or itself. -/
def pathsOf (s : State) (cells : List Cell) : List Octets :=
  if s.has 'f' || !Glob.isPattern cells then [textOfCells cells]
  else
    match (matchingPaths s.disk [] (splitPath cells)).mergeSort textLe with
    | [] => [textOfCells cells]
    | paths => paths

/-- The arguments that a word becomes. -/
def fieldsOf (capture : Capture) (word : Word) : Act (List Octets) := do
  let segments ← segmentsOf capture .argument word
  let s ← get
  return (splitFields s.separators none segments).flatMap (pathsOf s)

/-- The arguments that words become. -/
def fieldsOfWords (capture : Capture) : List Word → Act (List Octets)
  | [] => return []
  | word :: rest => do
    let fields ← fieldsOf capture word
    return fields ++ (← fieldsOfWords capture rest)

end Expansion.Shell
