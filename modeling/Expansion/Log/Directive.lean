import Expansion.Log.Event
import Expansion.Pattern.Reader
import Expansion.Text.Blank
import Expansion.Text.WordTable

/-!
# Directives of a log filter

One rule of a filter: a level, and what it is for. Written in full a rule is
`target[span\x7bfield=value\x7d]=level`, and all but one part may be left out.

* `info` is a level for everything, `typexpand_engine` all of a part of the program, and
  `typexpand_engine=debug` a level for that part.
* **A directive is read from left to right by its shape alone** (`Stage`); only the end tells
  whether a first word was a level or a target.
* Blanks around a directive do not count while its parts are told apart, but the parts are cut out
  of the text as it stands. So a blank in front moves every part by one byte.
* A field may be given with a value. A word or a number is compared with words and numbers, and
  anything else is a pattern for texts.
-/

namespace Expansion.Log

/-- The gravest levels up to one, or nothing at all. -/
abbrev Threshold := Option Level

namespace Threshold

/-- The threshold as a number: the events whose level has no higher rank pass. -/
def rank : Threshold → Nat
  | none => 0
  | some level => level.rank

/-- Whether a level passes. -/
def passes (t : Threshold) (level : Level) : Bool := level.rank ≤ rank t

/-- The threshold that lets more pass. -/
def max (a b : Threshold) : Threshold := if rank a < rank b then b else a

/-- The threshold with a number from 0 to 5. -/
def ofRank? (n : Nat) : Option Threshold :=
  if n = 0 then some none else (Level.all.find? fun level => level.rank == n).map some

/-- The number that a text of digits writes, perhaps after a plus sign. -/
def number? (s : String) : Option Nat :=
  let digits := match s.toList with
    | '+' :: rest => rest
    | cs => cs
  if digits.isEmpty || !digits.all Char.isDigit then none
  else some (digits.foldl (fun n d => 10 * n + (d.toNat - '0'.toNat)) 0)

/-- The threshold that a word or a number names; letter case does not matter. -/
def parse? (s : String) : Option Threshold :=
  match (number? s).bind ofRank? with
  | some threshold => some threshold
  | none =>
    let word := String.ofList (s.toList.map Char.toLower)
    if word.isEmpty then some (some .error)
    else if word = "off" then some none
    else (Level.all.find? fun level => level.name == word).map some

end Threshold

/-- The value that a rule asks of a field. -/
inductive FieldRule where
  /-- A truth value or a number, as it is written. No text has it. -/
  | constant (text : String)
  /-- A text that the pattern matches to its end. -/
  | pattern (text : String) (p : Pattern)
  deriving DecidableEq, Repr

/-- One rule of a filter. -/
structure Directive where
  /-- How the targets begin that the rule is for; nothing for all targets. -/
  target : Option String
  /-- The name of the span inside which the rule holds; nothing for spans of all names. -/
  span : Option String
  /-- A field that there must be, and the value that it must have. -/
  field : Option (String × Option FieldRule)
  threshold : Threshold
  deriving DecidableEq, Repr

/-- Why a directive is not understood. -/
inductive DirectiveFault where
  | malformed
  | level
  | value (fault : Pattern.Fault)
  deriving DecidableEq, Repr

/-- The fault in words. -/
def DirectiveFault.message : DirectiveFault → String
  | .malformed => "invalid filter directive"
  | .level => "error parsing level filter: expected one of \"off\", \"error\", \"warn\", \"info\", "
      ++ "\"debug\", \"trace\", or a number 0-5"
  | .value .malformed => "invalid field filter: error building NFA"
  | .value .wideWordEdge => "invalid field filter: unsupported regex feature for DFAs: cannot build "
      ++ "DFAs for regexes with Unicode word boundaries; switch to ASCII word boundaries, or "
      ++ "heuristically enable Unicode word boundaries or use a different regex engine"

/-! ## Values of fields -/

/-- Whether digits, perhaps with a point before, behind or between them, make a number. -/
def isDecimal (cs : List Char) : Bool :=
  let whole := cs.takeWhile Char.isDigit
  match cs.dropWhile Char.isDigit with
  | [] => !whole.isEmpty
  | '.' :: fraction => fraction.all Char.isDigit && (!whole.isEmpty || !fraction.isEmpty)
  | _ => false

/-- The text without a sign in front. -/
def unsigned : List Char → List Char
  | '+' :: rest => rest
  | '-' :: rest => rest
  | cs => cs

/-- Whether a text writes a number: a decimal one, perhaps with an exponent, or the name of one that
is not finite. -/
def isNumber (s : String) : Bool :=
  let cs := (unsigned s.toList).map Char.toLower
  let mantissa := cs.takeWhile fun c => c != 'e'
  let exponentIsWell := match cs.dropWhile fun c => c != 'e' with
    | [] => true
    | _ :: exponent =>
      let digits := unsigned exponent
      !digits.isEmpty && digits.all Char.isDigit
  (isDecimal mantissa && exponentIsWell)
    || ["inf", "infinity", "nan"].contains (String.ofList cs)

/-- The value that a text asks of a field. -/
def FieldRule.parse (s : String) : Except DirectiveFault FieldRule :=
  if s == "true" || s == "false" || isNumber s then .ok (.constant s)
  else
    match Pattern.ofText s with
    | .ok p => .ok (.pattern s p)
    | .error fault => .error (.value fault)

/-- A field and the value that it must have, which stands behind an equals sign and in front of the
next one. -/
def fieldOf (s : String) : Except DirectiveFault (String × Option FieldRule) :=
  let cs := s.toList
  let name := String.ofList (cs.takeWhile fun c => c != '=')
  match cs.dropWhile fun c => c != '=' with
  | [] => .ok (name, none)
  | _ :: rest =>
    (FieldRule.parse (String.ofList (rest.takeWhile fun c => c != '='))).map fun rule =>
      (name, some rule)

/-! ## Reading -/

/-- Where in a directive a reader is. The numbers tell where the part began. -/
inductive Stage where
  | start
  /-- In a level or a target. -/
  | word (first : Nat)
  /-- In the name of a span, behind its opening bracket. -/
  | span (first : Nat)
  /-- In a field, behind its opening brace. -/
  | field (first : Nat)
  /-- Behind a field's closing brace. -/
  | afterField
  /-- Behind a span's closing bracket. -/
  | afterSpan
  /-- In a level, behind an equals sign. -/
  | level (first : Nat)
  deriving DecidableEq, Repr

namespace Directive

/-- Everything, at every level. -/
def all : Directive := ⟨none, none, none, some .trace⟩

/-- The characters of a text between two places, which are counted in bytes. -/
def between (first last : Nat) : Nat → List Char → List Char
  | _, [] => []
  | place, c :: rest =>
    let behind := between first last (place + c.utf8Size) rest
    if first ≤ place && place < last then c :: behind else behind

/-- The part of a text between two places. -/
def slice (s : String) (first last : Nat) : String :=
  String.ofList (between first last 0 s.toList)

/-- Whether a directive may begin with the character. -/
def mayStart (c : Char) : Bool := Text.isWordChar c || c == '-' || c == ':' || c == '_'

/-- The directive and the stage after one more character, which stands at the place `place`. -/
def step (s : String) (d : Directive) (stage : Stage) (place : Nat) (c : Char) :
    Except DirectiveFault (Directive × Stage) :=
  match stage with
  | .start =>
    if c = '[' then .ok (d, .span (place + 1))
    else if mayStart c then .ok (d, .word place)
    else .error .malformed
  | .word first =>
    let d' := { d with target := some (slice s first place) }
    if c = '=' then .ok (d', .level (place + 1))
    else if c = '[' then .ok (d', .span (place + 1))
    else .ok (d, stage)
  | .span first =>
    let name := slice s first place
    if c = ']' then .ok ({ d with span := some name }, .afterSpan)
    else if c = '\x7b' then
      -- A span without a name stands for all spans only where a field follows.
      .ok ({ d with span := if name.isEmpty then none else some name }, .field (place + 1))
    else .ok (d, stage)
  | .field first =>
    if c = '\x7d' then
      let text := slice s first place
      if text.isEmpty then .error .malformed
      else (fieldOf text).map fun field => ({ d with field := some field }, .afterField)
    else .ok (d, stage)
  | .afterField => if c = ']' then .ok (d, .afterSpan) else .error .malformed
  | .afterSpan => if c = '=' then .ok (d, .level (place + 1)) else .error .malformed
  | .level _ => .ok (d, stage)

/-- The directive and the stage at the end of characters that begin at a place. -/
def steps (s : String) : Directive → Stage → Nat → List Char →
    Except DirectiveFault (Directive × Stage)
  | d, stage, _, [] => .ok (d, stage)
  | d, stage, place, c :: rest =>
    match step s d stage place c with
    | .error fault => .error fault
    | .ok (d, stage) => steps s d stage (place + c.utf8Size) rest

/-- The directive whose text ends at a stage. -/
def finish (s : String) (d : Directive) : Stage → Except DirectiveFault Directive
  | .word first =>
    let word := slice s first s.utf8ByteSize
    match Threshold.parse? word with
    | some threshold => .ok { d with threshold }
    | none => .ok { d with target := some word }
  | .level first =>
    let word := slice s first s.utf8ByteSize
    if word.isEmpty then .ok d
    else
      match Threshold.parse? word with
      | some threshold => .ok { d with threshold }
      | none => .error .level
  | .afterSpan => .ok d
  | _ => .error .malformed

/-- Reads a directive. -/
def parse (s : String) : Except DirectiveFault Directive :=
  match steps s all .start 0 (Text.trim s).toList with
  | .error fault => .error fault
  | .ok (d, stage) => finish s d stage

/-! ## What a directive is for -/

/-- Whether the rule is for a target. -/
def covers (d : Directive) (target : String) : Bool :=
  match d.target with
  | none => true
  | some first => first.toList.isPrefixOf target.toList

/-- Whether the rule asks for the value of a field. -/
def asksValue (d : Directive) : Bool := d.field.any fun (_, rule?) => rule?.isSome

/-- Whether the rule holds wherever an event happens. -/
def isGlobal (d : Directive) : Bool := d.span.isNone && !d.asksValue

/-- Whether the rule opens spans. -/
def opensSpans (d : Directive) : Bool := d.span.isSome || d.field.isSome

/-- Whether two rules are for the same, so that the later one counts. -/
def sameScope (a b : Directive) : Bool :=
  a.target == b.target && a.span == b.span && a.field == b.field

end Directive

end Expansion.Log
