import TimeShare.Trace.Event

/-!
# The journal

Besides the events of the trace, the library gives notice of what it does. The
journal keeps both in the order in which they came up. `Entry.logLine` is the
line that an entry has in a log: a level, a message and named fields.
-/

namespace TimeShare

/-- A notice of the library about its own work. -/
inductive Notice
  /-- The log was set up, perhaps to write records. -/
  | logStarted (records : Bool)
  | sessionStarted (capacity sliceMillis : Nat)
  /-- No program was given, so the demonstration runs. -/
  | demonstration
  | programLoaded (path : String) (instructions : Nat)
  | schedulerReady (capacity sliceMicros : Nat)
  | taskRegistered (task : TaskId) (priority : Int32)
  /-- A task was admitted whose program has no `HALT`. -/
  | noHalt (task : TaskId)
  | programsDropped (admitted rejected capacity : Nat)
  | sweepLimitReached (limit remaining : Nat)
  | eventUnwritten (reason : String)
  deriving DecidableEq, Repr

/-- A line of a log. -/
structure LogLine where
  level : Level
  message : String
  fields : List (String × String)
  deriving DecidableEq, Repr

namespace LogLine

def brief (line : LogLine) : String :=
  s!"{line.level.tag} {line.message}"

def text (line : LogLine) : String :=
  line.fields.foldl (fun text (name, value) => s!"{text} {name}={value}") line.brief

end LogLine

/-- The line that a notice has in a log. -/
def Notice.logLine : Notice → LogLine
  | logStarted true => ⟨.info, "Structured tracing initialized with JSON output", []⟩
  | logStarted false => ⟨.info, "Structured tracing initialized", []⟩
  | sessionStarted capacity sliceMillis =>
    ⟨.info, "Virtual CPU simulator starting",
      [("capacity", toString capacity), ("slice_ms", toString sliceMillis)]⟩
  | demonstration => ⟨.info, "No program files given, running demo workload", []⟩
  | programLoaded path instructions =>
    ⟨.info, "Loaded program", [("path", path), ("instructions", toString instructions)]⟩
  | schedulerReady capacity sliceMicros =>
    ⟨.info, "Scheduler initialized: policy=round_robin",
      [("capacity", toString capacity), ("slice_micros", toString sliceMicros)]⟩
  | taskRegistered task priority =>
    ⟨.debug, "Task admitted",
      [("task", toString task.toNat), ("priority", toString priority.toInt)]⟩
  | noHalt task =>
    ⟨.warn, "Program has no HALT; it will stop by running past its last instruction",
      [("task", toString task.toNat)]⟩
  | programsDropped admitted rejected capacity =>
    ⟨.warn, "Task queue full, extra programs dropped",
      [("admitted", toString admitted), ("rejected", toString rejected),
        ("capacity", toString capacity)]⟩
  | sweepLimitReached limit remaining =>
    ⟨.warn, "Sweep limit reached",
      [("limit", toString limit), ("remaining", toString remaining)]⟩
  | eventUnwritten reason => ⟨.warn, "Failed to write trace event", [("error", reason)]⟩

/-- The task of an event as a field of a log line. -/
def taskField : Option TaskId → String
  | some task => s!"Some({task.toNat})"
  | none => "None"

/-- The line that an event has in a log. -/
def Event.logLine (event : Event) : LogLine :=
  ⟨event.level, event.text, [("task", taskField event.task?)]⟩

inductive Entry
  | event (event : Event)
  | notice (notice : Notice)
  deriving DecidableEq, Repr

namespace Entry

/-- The line that an entry has in a log. -/
def logLine : Entry → LogLine
  | .event e => e.logLine
  | .notice n => n.logLine

/-- The event of an entry, if it is one of the trace. -/
def event? : Entry → Option Event
  | .event e => some e
  | .notice _ => none

end Entry

/-- The lines of a log that shows some levels. -/
def logLines (filter : LevelFilter) (entries : List Entry) : List LogLine :=
  (entries.map Entry.logLine).filter fun line => filter.shows line.level

end TimeShare
