import Expansion.Log.Directive
import Expansion.Pattern.Search
import Expansion.Text.Split

/-!
# Log filters

A filter says which events and spans are logged. It is a list of directives with commas between
them, and those do two things.

* **The most specific global rule for an event decides** (`passesGlobally`): the one with the longer
  target, then the one that names a field, and of two for the same thing the later one.
* **A rule for a span opens the spans that it is for**, and within an open span everything up to the
  rule's level is logged, wherever it comes from. How far a span is open is decided when it begins,
  since only then its values are known (`opening?`).
* A span that no rule lets pass is left out, but so is one that no rule could need: nothing less
  grave than the highest level of all rules is even begun (`reach`), unless some rule asks for a
  value.
* A filter without directives lets errors pass and nothing else.
-/

namespace Expansion.Log

/-- The rules of a filter. -/
structure Filter where
  directives : List Directive
  deriving DecidableEq, Repr

namespace Filter

/-- The texts of the directives. -/
def pieces (s : String) : List String := (Text.splitOn ',' s).filter fun piece => !piece.isEmpty

/-- The filter of some directives; without any, it lets errors pass. -/
def ofDirectives (directives : List Directive) : Filter :=
  ⟨if directives.isEmpty then [{ Directive.all with threshold := some .error }] else directives⟩

/-- The filter that a text writes, if all of it is understood. -/
def parse? (s : String) : Option Filter :=
  ((pieces s).mapM fun piece => (Directive.parse piece).toOption).map ofDirectives

/-- The filter of the directives that are understood, and the others with their faults. -/
def parseKnown (s : String) : Filter × List (String × DirectiveFault) :=
  let parsed := (pieces s).map fun piece => (piece, Directive.parse piece)
  (ofDirectives (parsed.filterMap fun (_, directive) => directive.toOption),
    parsed.filterMap fun (piece, directive) =>
      match directive with
      | .ok _ => none
      | .error fault => some (piece, fault))

/-! ## Global rules -/

/-- Whether the first rule is at least as specific as the second. Rules without a target come behind
all others, and of two that differ in a field's name only the one with the later name comes first. -/
def atLeastAsSpecific (a b : Directive) : Bool :=
  let length (d : Directive) : Nat := (d.target.map fun t => t.utf8ByteSize + 1).getD 0
  let name (d : Directive) : Option String := d.field.map fun (name, _) => name
  if length a != length b then length b < length a
  else
    match name a, name b with
    | some x, some y => y ≤ x
    | none, some _ => false
    | _, none => true

/-- The more specific of two rules; of two that are alike the later one. -/
def closer (best : Option Directive) (d : Directive) : Option Directive :=
  match best with
  | some b => if atLeastAsSpecific d b then some d else some b
  | none => some d

/-- Whether the most specific of some rules lets a level pass. -/
def decides (rules : List Directive) (level : Level) : Bool :=
  match rules.foldl closer none with
  | some rule => rule.threshold.passes level
  | none => false

/-- The global rules for a target. -/
def globalRules (f : Filter) (target : String) : List Directive :=
  f.directives.filter fun d => d.isGlobal && d.covers target

/-- Whether the global rules let an event pass. A rule with a field is for events that have it. -/
def passesGlobally (f : Filter) (e : Event) : Bool :=
  let applies (d : Directive) : Bool := d.field.all fun (name, _) => e.fieldNames.contains name
  decides ((f.globalRules e.area.target).filter applies) e.level

/-- Whether the global rules let a span pass. Its fields do not matter to them. -/
def showsSpanGlobally (f : Filter) (s : Span) : Bool :=
  decides (f.globalRules s.area.target) s.level

/-! ## Rules for spans -/

/-- The rules for spans, of those for the same thing only the last. -/
def spanRules (f : Filter) : List Directive :=
  (f.directives.filter Directive.opensSpans).foldr
    (fun d later => if later.any d.sameScope then later else d :: later) []

/-- Whether a rule is for a span, whatever values that has. -/
def concerns (d : Directive) (s : Span) : Bool :=
  d.covers s.area.target && d.span.all (fun name => name == s.name)
    && d.field.all fun (name, _) => s.fieldNames.contains name

/-- Whether a value is what a rule asks for. -/
def satisfies (rule? : Option FieldRule) (value? : Option FieldValue) : Bool :=
  match rule?, value? with
  | none, _ => true
  | some (.pattern _ p), some (.text text) => p.reachesEnd text
  | _, _ => false

/-- Whether the values of a span are what a rule asks for. -/
def accepts (d : Directive) (s : Span) : Bool :=
  d.field.all fun (name, rule?) => satisfies rule? (s.fields.lookup name)

/-- How far the rules open a span, if any of them concerns it. -/
def opening? (f : Filter) (s : Span) : Option Threshold :=
  match f.spanRules.filter fun d => concerns d s with
  | [] => none
  | rules =>
    some ((rules.filter fun d => accepts d s).foldl (fun t d => t.max d.threshold) none)

/-- The highest level that the filter can let pass. A rule that asks for a value needs every span,
for only a span that has begun can have it. -/
def reach (f : Filter) : Threshold :=
  if f.directives.any Directive.asksValue then some .trace
  else f.directives.foldl (fun t d => t.max d.threshold) none

/-! ## What is logged -/

/-- The spans around an event that are logged, and how far those are open that a rule opens. -/
structure Scope where
  spans : List Span
  openings : List Threshold

/-- The scope inside one more span. -/
def enter (f : Filter) (scope : Scope) (s : Span) : Scope :=
  if !f.reach.passes s.level then scope
  else
    match f.opening? s with
    | some t => { spans := scope.spans ++ [s], openings := scope.openings ++ [t] }
    | none =>
      if f.showsSpanGlobally s || scope.openings.any (fun t => t.passes s.level) then
        { scope with spans := scope.spans ++ [s] }
      else scope

/-- The scope of an event. -/
def scopeOf (f : Filter) (e : Event) : Scope := e.spans.foldl f.enter ⟨[], []⟩

/-- The event with the spans that are logged, if it is logged itself. -/
def show? (f : Filter) (e : Event) : Option Event :=
  let scope := f.scopeOf e
  if f.passesGlobally e || scope.openings.any (fun t => t.passes e.level) then
    some { e with spans := scope.spans }
  else none

/-- The events that are logged, each with the spans that are. -/
def apply (f : Filter) (events : List Event) : List Event := events.filterMap f.show?

end Filter

end Expansion.Log
