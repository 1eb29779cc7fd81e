import TimeShare.Processor.Run

/-!
# Tasks

A task is a program with a priority and a processor state of its own. While an
execution context runs the task, the context has the processor state; a task
whose context broke down never gets it back. The priority is only reported.
-/

namespace TimeShare

/-- The identifier of a task: its place in the order of admission. -/
abbrev TaskId := UInt32

/-- How many identifiers there are. -/
def taskIdCount : Nat := UInt32.size

/-- Where a task is in its life. -/
inductive Phase
  | admitted
  /-- A context has the processor state. -/
  | dispatched
  /-- Stopped by its flag; it goes on where it stopped. -/
  | preempted
  | completed
  deriving DecidableEq, Repr

/-- The phase of a task after a run with an exit. -/
def Phase.after (exit : Exit) : Phase :=
  if exit.isTerminal then completed else preempted

structure Task where
  id : TaskId
  priority : Int32
  program : Program
  phase : Phase
  raised : Bool
  /-- The processor state, unless a context has it. -/
  processor : Option Processor
  /-- Why the last run stopped. -/
  lastExit : Option Exit
  dispatches : Nat

namespace Task

def fresh (id : TaskId) (priority : Int32) (program : Program) : Task :=
  { id
    priority
    program
    phase := .admitted
    raised := false
    processor := some .fresh
    lastExit := none
    dispatches := 0 }

def isCompleted (task : Task) : Bool :=
  task.phase = .completed

/-- Hands out the processor state for a dispatch and clears the flag. -/
def begin? (task : Task) : Option (Processor × Task) :=
  task.processor.map fun processor =>
    (processor,
      { task with
        phase := .dispatched
        raised := false
        processor := none
        dispatches := task.dispatches + 1 })

/-- Takes the processor state back after a run with an exit. -/
def finish (task : Task) (processor : Processor) (exit : Exit) (raised : Bool) : Task :=
  { task with
    phase := .after exit
    raised
    processor := some processor
    lastExit := some exit }

/--
An upper bound on the further dispatches of a task: one for every instruction
left and one to find that none is left.
-/
def work (task : Task) : Nat :=
  if task.isCompleted then
    0
  else
    match task.processor with
    | some processor => task.program.size - processor.pc + 1
    | none => 1

theorem begin?_eq_some_iff {task begun : Task} {processor : Processor} :
    task.begin? = some (processor, begun) ↔
      task.processor = some processor ∧
        begun = { task with
          phase := .dispatched
          raised := false
          processor := none
          dispatches := task.dispatches + 1 } := by
  simp only [begin?, Option.map_eq_some_iff, Prod.mk.injEq]
  constructor
  · rintro ⟨_, held, rfl, rfl⟩
    exact ⟨held, rfl⟩
  · rintro ⟨held, rfl⟩
    exact ⟨processor, held, rfl, rfl⟩

end Task

end TimeShare
