import Expansion.Json.Printer

/-!
# Log events

What a build reports while it runs. An event has a level, the part of the program that it comes
from, a message, fields, and the spans of work that it happened in.

* **Milestones are the standard events**, by which a log can be searched: a build that begins or
  ends, an answer from the cache, an expander that gave up, a file that was written.
* `Event.toJson` is the line of a machine-readable log. In it the fields of an event stand beside
  its level and message, so a field named like one of these takes its place.
-/

namespace Expansion.Log

/-- How much an event matters. -/
inductive Level where
  | error
  | warn
  | info
  | debug
  | trace
  deriving DecidableEq, Repr

namespace Level

/-- The level as a number: the more it matters, the lower. -/
def rank : Level → Nat
  | error => 1
  | warn => 2
  | info => 3
  | debug => 4
  | trace => 5

/-- The word for a level. -/
def name : Level → String
  | error => "error"
  | warn => "warn"
  | info => "info"
  | debug => "debug"
  | trace => "trace"

/-- The word for a level in a log line. -/
def label : Level → String
  | error => "ERROR"
  | warn => "WARN"
  | info => "INFO"
  | debug => "DEBUG"
  | trace => "TRACE"

/-- The levels, the gravest first. -/
def all : List Level := [error, warn, info, debug, trace]

end Level

/-- The part of the program that an event or span comes from. -/
inductive Area where
  | start
  | rootSpan
  | toolchain
  | build
  | compiler
  | survey
  | expansion
  | delivery
  | cache
  deriving DecidableEq, Repr

/-- The dotted name by which a log filter selects a part of the program. -/
def Area.target : Area → String
  | start => "typexpand_telemetry"
  | rootSpan => "typexpand_telemetry::logging"
  | toolchain => "typexpand_lib::toolchain"
  | build => "typexpand_engine::engine"
  | compiler => "typexpand_engine::gateway"
  | survey => "typexpand_engine::scanner"
  | expansion => "typexpand_engine::matcher"
  | delivery => "typexpand_engine::dispatch"
  | cache => "typexpand_engine::cache"

/-- The value of a field. -/
inductive FieldValue where
  | text (value : String)
  | number (value : Nat)
  /-- A length of time. Nothing here measures one, so it has no value to show. -/
  | duration
  deriving DecidableEq, Repr

/-- The value as JSON, if there is one to show. -/
def FieldValue.toJson? : FieldValue → Option Json
  | .text value => some (.string value)
  | .number value => some (.natural value)
  | .duration => none

/-- Named values. -/
abbrev Fields := List (String × FieldValue)

/-- The members that the fields make in a log line. -/
def Fields.members (fields : Fields) : List (String × Json) :=
  fields.filterMap fun (name, value) => value.toJson?.map fun json => (name, json)

/-- A stretch of work that events happen in. -/
structure Span where
  level : Level
  area : Area
  name : String
  fields : Fields
  deriving DecidableEq, Repr

/-- The standard events. -/
inductive Milestone where
  | buildStarted
  | buildFinished
  | cacheHit
  | expanderFailed
  | outputWritten
  deriving DecidableEq, Repr

/-- The name of a standard event in the log. -/
def Milestone.name : Milestone → String
  | buildStarted => "build_started"
  | buildFinished => "build_finished"
  | cacheHit => "cache_hit"
  | expanderFailed => "expander_failed"
  | outputWritten => "output_written"

/-- Something that happened. -/
structure Event where
  level : Level
  area : Area
  milestone : Option Milestone
  message : String
  fields : Fields
  /-- The spans that the event happened in, the outermost first. -/
  spans : List Span
  deriving DecidableEq, Repr

/-- The span as a member of a log line's list of spans. -/
def Span.toJson (s : Span) : Json :=
  .object (Fields.members s.fields ++ [("name", .string s.name)])

/-- The names of the span's fields. -/
def Span.fieldNames (s : Span) : List String := s.fields.map fun (name, _) => name

namespace Event

/-- The names of all that an event says, its message among them. -/
def fieldNames (e : Event) : List String :=
  "message" :: (e.milestone.map fun _ => "event").toList ++ e.fields.map fun (name, _) => name

/-- What is said about the event itself, fields included. -/
def ownMembers (e : Event) : List (String × Json) :=
  let fields := Fields.members e.fields
  let standing : List (String × Json) :=
    [("level", .string e.level.label), ("message", .string e.message)]
  standing.filter (fun (name, _) => (fields.lookup name).isNone)
    ++ (e.milestone.map fun milestone => ("event", Json.string milestone.name)).toList ++ fields

/-- The event as a line of a machine-readable log. -/
def toJson (e : Event) : Json :=
  .object (e.ownMembers
    ++ if e.spans.isEmpty then [] else [("spans", .array (e.spans.map Span.toJson))])

end Event

end Expansion.Log
