import Expansion.Compiler.Request
import Expansion.Disk.Access
import Expansion.Failure
import Expansion.Log.Event

/-!
# What a build acts on

A machine is all that a build can read and change: the disk, the log, and the list of requests that
a compiler has been sent. A build is a function from a machine to a machine, so what it did can be
read off the two.

* **The log and the requests only grow**, and each request is kept with the disk as it was when the
  request was sent.
* **Scratch files do not outlive the work that needs them**: `withScratchDirectory` and
  `withScratchFile` remove them whether the work succeeds or fails.
-/

namespace Expansion

/-- What a build acts on. -/
structure Machine where
  disk : Disk
  /-- The events so far, the first one first. -/
  events : List Log.Event
  /-- The spans of work that are under way, the outermost first. -/
  spans : List Log.Span
  /-- The requests so far, each with the disk at its time. -/
  requests : List (CompileRequest × Disk)

/-- Work on a machine that may fail. -/
abbrev Act (α : Type) := ExceptT Failure (StateM Machine) α

namespace Machine

/-- The machine of a disk on which nothing has happened. -/
def ofDisk (d : Disk) : Machine := ⟨d, [], [], []⟩

/-- The machine with one more event, in the spans that are under way. -/
def log (level : Log.Level) (area : Log.Area) (message : String) (fields : Log.Fields)
    (milestone : Option Log.Milestone) (m : Machine) : Machine :=
  { m with events := m.events ++ [⟨level, area, milestone, message, fields, m.spans⟩] }

/-- The machine with one more request. -/
def record (request : CompileRequest) (m : Machine) : Machine :=
  { m with requests := m.requests ++ [(request, m.disk)] }

/-- The standard events so far. -/
def milestones (m : Machine) : List Log.Milestone := m.events.filterMap Log.Event.milestone

end Machine

namespace Act

variable {α : Type}

/-- Changes the machine. -/
def modify (f : Machine → Machine) : Act Unit := fun m => (.ok (), f m)

/-- The disk. -/
def disk : Act Disk := fun m => (.ok m.disk, m)

/-- Fails. -/
def fail (f : Failure) : Act α := fun m => (.error f, m)

/-- Logs a detail. -/
def debug (area : Log.Area) (message : String) (fields : Log.Fields) : Act Unit :=
  modify (Machine.log .debug area message fields none)

/-- Logs a standard event. -/
def milestone (level : Log.Level) (area : Log.Area) (milestone : Log.Milestone) (message : String)
    (fields : Log.Fields) : Act Unit :=
  modify (Machine.log level area message fields (some milestone))

/-- An operation on the disk that may fail. -/
def onDisk (path? : Option FilePath) (f : Disk → Except Disk.Error Disk) : Act Unit := fun m =>
  match f m.disk with
  | .ok disk => (.ok (), { m with disk })
  | .error e => (.error (.disk e path?), m)

/-- An operation on the disk in several steps: what it has done when it fails stays done. -/
def attempt (path? : Option FilePath) (f : Disk → Disk.Attempt) : Act Unit := fun m =>
  match f m.disk with
  | (.ok (), disk) => (.ok (), { m with disk })
  | (.error e, disk) => (.error (.disk e path?), { m with disk })

/-- Work inside a span. -/
def within (span : Log.Span) (work : Act α) : Act α := fun m =>
  let (result, after) := work { m with spans := m.spans ++ [span] }
  (result, { after with spans := m.spans })

/-- Work at the end of which what is at a path goes away, whether the work succeeds or fails. -/
def removing (p : FilePath) (work : Act α) : Act α := fun m =>
  let (result, after) := work m
  -- What the work removed by itself is gone already, and that is no failure.
  match after.disk.remove p with
  | .ok disk => (result, { after with disk })
  | .error _ => (result, after)

/-- Work with a new directory in the scratch directory. -/
def withScratchDirectory (stem : String) (work : FilePath → Act α) : Act α := do
  let p := (← disk).freshScratch stem ""
  onDisk (some p) fun d => d.makeDirectory p
  removing p (work p)

/-- Work with a new file in the scratch directory. -/
def withScratchFile (stem suffix : String) (content : ByteArray) (work : FilePath → Act α) :
    Act α := do
  let p := (← disk).freshScratch stem suffix
  onDisk (some p) fun d => d.writeFile p content
  removing p (work p)

end Act

end Expansion
