import TimeShare.Program
import TimeShare.Processor.Basic
import TimeShare.Processor.Event

/-!
# One instruction

`Processor.execute` carries out one instruction and moves on to the next
position, whatever happened. A fault (a full or an empty stack, an instruction
outside the set) changes nothing else. `Processor.step` executes the instruction
that a program has at the processor's position and does nothing past the end.
-/

namespace TimeShare

/-- A fault that an instruction recovers from. -/
inductive Fault
  | unknownOpcode
  | stackOverflow
  | stackUnderflow
  deriving DecidableEq, Repr

namespace Fault

/-- The fault of an instruction whose stack operation failed. -/
def ofStack : StackFault → Fault
  | .overflow => stackOverflow
  | .underflow => stackUnderflow

/-- The event that reports a fault of an instruction at a position. -/
def event (pc : Nat) (instruction : Instruction) : Fault → Processor.Event
  | unknownOpcode => .unknownOpcode pc instruction.text
  | stackOverflow => .stackOverflow pc
  | stackUnderflow => .stackUnderflow pc

end Fault

namespace Processor

inductive Outcome
  | retired
  /-- The instruction had no effect but to be passed over. -/
  | faulted (fault : Fault)
  | halted
  | endOfProgram
  deriving DecidableEq, Repr

/-- The result of a step: how it ended, the state it left and what it recorded. -/
structure Effect where
  outcome : Outcome
  processor : Processor
  events : List Event

/-- The effect of an instruction that leaves the given state and result, after the events it
recorded on its way. -/
def retire (before : Processor) (instruction : Instruction) (after : Processor)
    (result : Option Int32) (events : List Event) : Effect :=
  ⟨.retired, after.advance, events ++ [.executed before.pc instruction result]⟩

/-- The effect of an instruction that faults. -/
def passOver (processor : Processor) (instruction : Instruction) (fault : Fault) : Effect :=
  ⟨.faulted fault, processor.advance,
    [fault.event processor.pc instruction, .executed processor.pc instruction none]⟩

/-- Carries out one instruction. Operands are read before the result is written. -/
def execute (processor : Processor) (instruction : Instruction) : Effect :=
  match instruction with
  | .load rd imm => processor.retire instruction (processor.write rd imm) (some imm) []
  | .arith op rd lhs rhs =>
    let value := op.apply (processor.read lhs) (processor.read rhs)
    processor.retire instruction (processor.write rd value) (some value) []
  | .push rs =>
    let value := processor.read rs
    match processor.push value with
    | .ok pushed =>
      processor.retire instruction pushed none [.pushed rs value pushed.stackPointer]
    | .error fault => processor.passOver instruction (.ofStack fault)
  | .pop rd =>
    match processor.pop with
    | .ok (value, popped) =>
      processor.retire instruction (popped.write rd value) (some value)
        [.popped rd value popped.stackPointer]
    | .error fault => processor.passOver instruction (.ofStack fault)
  | .halt =>
    ⟨.halted, processor.advance,
      [.halted processor.pc, .executed processor.pc instruction none]⟩
  | .unknown _ => processor.passOver instruction .unknownOpcode

/-- Executes the instruction at the processor's position. -/
def step (program : Program) (processor : Processor) : Effect :=
  match program.get? processor.pc with
  | some instruction => processor.execute instruction
  | none => ⟨.endOfProgram, processor, []⟩

/-- Every executed instruction moves the position on by one. -/
@[simp] theorem execute_pc (processor : Processor) (instruction : Instruction) :
    (processor.execute instruction).processor.pc = processor.pc + 1 := by
  cases instruction with
  | load rd imm => rfl
  | arith op rd lhs rhs => rfl
  | push rs =>
    simp only [execute, push]
    cases processor.stack.push (processor.read rs) <;> rfl
  | pop rd =>
    simp only [execute, pop]
    cases processor.stack.pop <;> rfl
  | halt => rfl
  | unknown text => rfl

/-- An executed instruction never reports the end of the program. -/
theorem execute_outcome_ne_endOfProgram (processor : Processor) (instruction : Instruction) :
    (processor.execute instruction).outcome ≠ .endOfProgram := by
  cases instruction with
  | load rd imm => nofun
  | arith op rd lhs rhs => nofun
  | push rs =>
    simp only [execute, push]
    cases processor.stack.push (processor.read rs) <;> nofun
  | pop rd =>
    simp only [execute, pop]
    cases processor.stack.pop <;> nofun
  | halt => nofun
  | unknown text => nofun

end Processor

end TimeShare
