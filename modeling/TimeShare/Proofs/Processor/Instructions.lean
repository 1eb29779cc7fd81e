import TimeShare.Processor.Step

/-!
# What instructions do

`Does` says, instruction by instruction, how it ends and what it leaves apart
from moving on; `execute_does` says that executing it does just that. Values are
those of the state before: an operand is read before the result is written, also
where both are in one register.
-/

namespace TimeShare

/-- The register that an instruction may change. -/
def Instruction.target? : Instruction → Option Register
  | load rd _ => some rd
  | arith _ rd _ _ => some rd
  | pop rd => some rd
  | _ => none

namespace Processor

/-- How an instruction ends and what it leaves, apart from moving on. -/
inductive Does (processor : Processor) : Instruction → Outcome → Processor → Prop
  | load (rd : Register) (imm : Int32) :
    Does processor (.load rd imm) .retired (processor.write rd imm)
  | arith (op : ArithOp) (rd lhs rhs : Register) :
    Does processor (.arith op rd lhs rhs) .retired
      (processor.write rd (op.apply (processor.read lhs) (processor.read rhs)))
  | push {rs : Register} {stack : Stack} :
    processor.stack.push (processor.read rs) = .ok stack →
    Does processor (.push rs) .retired { processor with stack }
  | overflow {rs : Register} : processor.stack.push (processor.read rs) = .error .overflow →
    Does processor (.push rs) (.faulted .stackOverflow) processor
  | pop {rd : Register} {value : Int32} {stack : Stack} :
    processor.stack.pop = .ok (value, stack) →
    Does processor (.pop rd) .retired ({ processor with stack }.write rd value)
  | underflow {rd : Register} : processor.stack.pop = .error .underflow →
    Does processor (.pop rd) (.faulted .stackUnderflow) processor
  | halt : Does processor .halt .halted processor
  | unknown (text : String) :
    Does processor (.unknown text) (.faulted .unknownOpcode) processor

variable {processor after : Processor} {instruction : Instruction} {outcome : Outcome}

/-- Executing an instruction does what the instruction does and moves on. -/
theorem execute_does (processor : Processor) (instruction : Instruction) :
    ∃ after, Does processor instruction (processor.execute instruction).outcome after ∧
      (processor.execute instruction).processor = after.advance := by
  cases instruction with
  | load rd imm => exact ⟨_, .load rd imm, rfl⟩
  | arith op rd lhs rhs => exact ⟨_, .arith op rd lhs rhs, rfl⟩
  | push rs =>
    simp only [execute, push]
    cases result : processor.stack.push (processor.read rs) with
    | error fault =>
      obtain ⟨_, rfl⟩ := Stack.push_eq_error_iff.1 result
      exact ⟨processor, .overflow result, rfl⟩
    | ok stack => exact ⟨_, .push result, rfl⟩
  | pop rd =>
    simp only [execute, pop]
    cases result : processor.stack.pop with
    | error fault =>
      obtain ⟨_, rfl⟩ := Stack.pop_eq_error_iff.1 result
      exact ⟨processor, .underflow result, rfl⟩
    | ok taken => exact ⟨_, .pop result, rfl⟩
  | halt => exact ⟨processor, .halt, rfl⟩
  | unknown text => exact ⟨processor, .unknown text, rfl⟩

theorem read_write_self (processor : Processor) (register : Register) (value : Int32) :
    (processor.write register value).read register = value :=
  Vector.getElem_set_self register.isLt

theorem read_write_of_ne {register other : Register} (ne : register ≠ other) (value : Int32) :
    (processor.write register value).read other = processor.read other := by
  have places : register.val ≠ other.val := fun same => ne (Fin.ext same)
  exact Vector.getElem_set_ne register.isLt other.isLt places

/-- An instruction changes no register but its target. -/
theorem Does.read_eq {register : Register} (does : Does processor instruction outcome after)
    (other : instruction.target? ≠ some register) :
    after.read register = processor.read register := by
  cases does with
  | load rd imm => exact read_write_of_ne (fun same => other (congrArg some same)) imm
  | arith op rd lhs rhs => exact read_write_of_ne (fun same => other (congrArg some same)) _
  | push _ => rfl
  | overflow _ => rfl
  | pop _ => exact read_write_of_ne (fun same => other (congrArg some same)) _
  | underflow _ => rfl
  | halt => rfl
  | unknown text => rfl

/-- An instruction that faults does nothing. -/
theorem Does.eq_of_faulted {fault : Fault}
    (does : Does processor instruction (.faulted fault) after) : after = processor := by
  cases does with
  | overflow _ => rfl
  | underflow _ => rfl
  | unknown text => rfl

/-- No instruction touches the memory. -/
theorem Does.memory (does : Does processor instruction outcome after) :
    after.memory = processor.memory := by
  cases does <;> rfl

end Processor

end TimeShare
