import TimeShare.Processor.Event
import TimeShare.Task.Basic
import TimeShare.Text.Align
import TimeShare.Trace.Level

/-!
# The trace

A scheduler leaves a trace of events: what it did itself, and what the processor
of each task recorded, marked with the task. `Event.text` words an event,
`Event.level` ranks it and `Event.task?` says which task it is about.
-/

namespace TimeShare

/-- An event of the trace. -/
inductive Event
  | taskAdmitted (task : TaskId) (priority : Int32) (instructions : Nat)
  /-- A task was refused because the registry was full. -/
  | admissionRejected (capacity : Nat)
  | schedulerStarted (tasks sliceMicros : Nat)
  /-- A sweep began; sweeps are numbered from one. -/
  | sweepStarted (sweep incomplete : Nat)
  | taskDispatched (task : TaskId) (priority : Int32) (pc : Nat)
  /-- A context came back with its task stopped by the flag. -/
  | taskPreempted (task : TaskId) (pc retired : Nat)
  /-- A context came back with its task done. -/
  | taskCompleted (task : TaskId) (pc retired : Nat)
  /-- A run of the scheduler left no task incomplete. -/
  | allCompleted (sweeps : Nat)
  /-- The processor of a task recorded an event. -/
  | ran (task : TaskId) (event : Processor.Event)
  deriving DecidableEq, Repr

/-- Positions are aligned to this width. -/
def positionWidth : Nat := 4

/-- Instructions that gave a result are aligned to this width. -/
def instructionWidth : Nat := 16

def Processor.Event.text : Processor.Event → String
  | executed pc instruction result =>
    let place := String.ofList (Text.padLeft positionWidth (Text.ofNat pc))
    match result with
    | some value =>
      let shown := String.ofList (Text.padRight instructionWidth instruction.chars)
      s!"{place}: {shown} ; {instruction.effect} -> {value.toInt}"
    | none => s!"{place}: {instruction.text}"
  | pushed register value sp => s!"Pushed {register.text} ({value.toInt}) to stack, sp={sp}"
  | popped register value sp => s!"Popped {value.toInt} to {register.text}, sp={sp}"
  | stackOverflow pc => s!"Stack Overflow! at pc {pc}"
  | stackUnderflow pc => s!"Stack Underflow! at pc {pc}"
  | unknownOpcode pc text => s!"Unknown instruction at pc {pc}: {text}"
  | halted pc => s!"Halting task execution at pc {pc}"
  | exhausted pc => s!"Ran past end of program at pc {pc} without HALT"

/-- The level of an event of a processor. -/
def Processor.Event.level : Processor.Event → Level
  | executed .. => .trace
  | pushed .. => .debug
  | popped .. => .debug
  | stackOverflow _ => .warn
  | stackUnderflow _ => .warn
  | unknownOpcode .. => .warn
  | halted _ => .debug
  | exhausted _ => .warn

namespace Event

def text : Event → String
  | taskAdmitted task priority instructions =>
    s!"Task {task.toNat} added with priority {priority.toInt} ({instructions} instructions)"
  | admissionRejected capacity => s!"Task queue full! ({capacity} tasks)"
  | schedulerStarted tasks sliceMicros =>
    s!"Starting task scheduler: {tasks} task(s), {sliceMicros}μs slice"
  | sweepStarted sweep incomplete => s!"Sweep {sweep}: {incomplete} incomplete task(s)"
  | taskDispatched task priority pc =>
    s!"Scheduling Task {task.toNat} (Priority: {priority.toInt}) at pc {pc}"
  | taskPreempted task pc retired =>
    s!"Task {task.toNat} preempted at pc {pc} after {retired} instruction(s)"
  | taskCompleted task pc retired =>
    s!"Task {task.toNat} completed at pc {pc} after {retired} instruction(s)"
  | allCompleted sweeps => s!"All tasks completed after {sweeps} sweep(s)"
  | ran task event => s!"[task {task.toNat}] {event.text}"

def level : Event → Level
  | admissionRejected _ => .warn
  | ran _ event => event.level
  | _ => .info

def task? : Event → Option TaskId
  | taskAdmitted task _ _ => some task
  | taskDispatched task _ _ => some task
  | taskPreempted task _ _ => some task
  | taskCompleted task _ _ => some task
  | ran task _ => some task
  | admissionRejected _ => none
  | schedulerStarted _ _ => none
  | sweepStarted _ _ => none
  | allCompleted _ => none

end Event

end TimeShare
