import TimeShare.Task.Basic

/-!
# Snapshots of tasks

What is reported about a task: its place in life and, while no context has it,
the visible part of its processor state. The numbers have the fixed widths of
the report.
-/

namespace TimeShare

/-- The report on one task. -/
structure Snapshot where
  id : TaskId
  priority : Int32
  phase : Phase
  completed : Bool
  exit : Option Exit
  dispatches : UInt64
  pc : Option UInt64
  stackPointer : Option Int64
  registers : Option RegisterFile
  deriving DecidableEq

def Task.snapshot (task : Task) : Snapshot :=
  { id := task.id
    priority := task.priority
    phase := task.phase
    completed := task.isCompleted
    exit := task.lastExit
    dispatches := UInt64.ofNat task.dispatches
    pc := task.processor.map fun processor => UInt64.ofNat processor.pc
    stackPointer := task.processor.map fun processor => Int64.ofInt processor.stackPointer
    registers := task.processor.map (·.registers) }

end TimeShare
