import TimeShare.Json.Token
import TimeShare.Trace.Event

/-!
# Events as records

An event stands in a record as an object that begins with its name. Registers and
instructions stand in it in their written form, and a result that is missing is
left out. `jsonLine` is the line that an event has in a trace of records.
-/

namespace TimeShare

open Json

def Processor.Event.name : Processor.Event → String
  | executed .. => "executed"
  | pushed .. => "pushed"
  | popped .. => "popped"
  | stackOverflow _ => "stack_overflow"
  | stackUnderflow _ => "stack_underflow"
  | unknownOpcode .. => "unknown_opcode"
  | halted _ => "halted"
  | exhausted _ => "program_exhausted"

/-- The members of a processor's event after its name and task. -/
def Processor.Event.members : Processor.Event → List (String × List Token)
  | executed pc instruction result =>
    [("pc", natural pc), ("instruction", [.string instruction.text])] ++
      optional "result" (fun value => [.integer value.toInt]) result
  | pushed register value sp =>
    [("register", [.string register.text]), ("value", [.integer value.toInt]),
      ("sp", [.integer sp])]
  | popped register value sp =>
    [("register", [.string register.text]), ("value", [.integer value.toInt]),
      ("sp", [.integer sp])]
  | stackOverflow pc => [("pc", natural pc)]
  | stackUnderflow pc => [("pc", natural pc)]
  | unknownOpcode pc text => [("pc", natural pc), ("text", [.string text])]
  | halted pc => [("pc", natural pc)]
  | exhausted pc => [("pc", natural pc)]

namespace Event

def name : Event → String
  | taskAdmitted .. => "task_admitted"
  | admissionRejected _ => "admission_rejected"
  | schedulerStarted .. => "scheduler_started"
  | sweepStarted .. => "sweep_started"
  | taskDispatched .. => "task_dispatched"
  | taskPreempted .. => "task_preempted"
  | taskCompleted .. => "task_completed"
  | allCompleted _ => "all_completed"
  | ran _ event => event.name

/-- The members of an event after its name. -/
def members : Event → List (String × List Token)
  | taskAdmitted task priority instructions =>
    [("task", natural task.toNat), ("priority", [.integer priority.toInt]),
      ("instructions", natural instructions)]
  | admissionRejected capacity => [("capacity", natural capacity)]
  | schedulerStarted tasks sliceMicros =>
    [("tasks", natural tasks), ("slice_micros", natural sliceMicros)]
  | sweepStarted sweep incomplete =>
    [("sweep", natural sweep), ("incomplete", natural incomplete)]
  | taskDispatched task priority pc =>
    [("task", natural task.toNat), ("priority", [.integer priority.toInt]), ("pc", natural pc)]
  | taskPreempted task pc retired =>
    [("task", natural task.toNat), ("pc", natural pc), ("retired", natural retired)]
  | taskCompleted task pc retired =>
    [("task", natural task.toNat), ("pc", natural pc), ("retired", natural retired)]
  | allCompleted sweeps => [("sweeps", natural sweeps)]
  | ran task event => ("task", natural task.toNat) :: event.members

def tokens (event : Event) : List Token :=
  object (("event", [.string event.name]) :: event.members)

/-- The line of an event in a trace of records, with its newline. -/
def jsonLine (event : Event) : List Char :=
  compactChars event.tokens ++ ['\n']

def jsonLines (events : List Event) : List Char :=
  events.flatMap jsonLine

end Event

end TimeShare
