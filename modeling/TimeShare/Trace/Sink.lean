import TimeShare.Record.Event
import TimeShare.Trace.Journal

/-!
# Where events go

A sink takes the events of a trace in order. It may write them as records, one to
a line; put them into the log; keep them; or drop them. An event that cannot be
written is given notice of in the log, and the one that recorded it never learns.
-/

namespace TimeShare

/-- A place that takes events. -/
inductive Sink
  /-- Writes each event as a record on a line of its own. -/
  | records
  /-- Would write records, but every write fails for the given reason. -/
  | unwritable (reason : String)
  | log
  | discard
  deriving DecidableEq, Repr

namespace Sink

/-- What is written of some events. -/
def written : Sink → List Event → List Char
  | records, events => Event.jsonLines events
  | _, _ => []

/-- What the journal says about some events. -/
def logged : Sink → List Event → List Entry
  | log, events => events.map Entry.event
  | unwritable reason, events => events.map fun _ => .notice (.eventUnwritten reason)
  | _, _ => []

end Sink

/-- A store of events in the order in which they were recorded. -/
structure EventStore where
  events : List Event
  deriving DecidableEq, Repr

namespace EventStore

def empty : EventStore :=
  ⟨[]⟩

def record (store : EventStore) (event : Event) : EventStore :=
  ⟨store.events ++ [event]⟩

def size (store : EventStore) : Nat :=
  store.events.length

def isEmpty (store : EventStore) : Bool :=
  store.events.isEmpty

def drain (store : EventStore) : List Event × EventStore :=
  (store.events, empty)

end EventStore

end TimeShare
