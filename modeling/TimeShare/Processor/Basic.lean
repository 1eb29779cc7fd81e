import TimeShare.Instruction.Basic
import TimeShare.Processor.Stack

/-!
# The processor's state

Eight registers, the position of the next instruction, a stack, and a scratch
memory that no instruction touches. A task owns one processor state, and a fresh
one is all zeros with an empty stack.
-/

namespace TimeShare

/-- The number of bytes of the scratch memory. -/
def memorySize : Nat := 1024

/-- The state of a processor. -/
structure Processor where
  registers : RegisterFile
  /-- The position of the next instruction. -/
  pc : Nat
  stack : Stack
  memory : Vector UInt8 memorySize
  deriving DecidableEq

namespace Processor

def fresh : Processor :=
  ⟨RegisterFile.zero, 0, Stack.empty, Vector.replicate memorySize 0⟩

def read (processor : Processor) (r : Register) : Int32 :=
  processor.registers[r]

def write (processor : Processor) (r : Register) (value : Int32) : Processor :=
  { processor with registers := processor.registers.set r value }

/-- Moves on to the next instruction. -/
def advance (processor : Processor) : Processor :=
  { processor with pc := processor.pc + 1 }

/-- The number of the slot that the next push fills. -/
def stackPointer (processor : Processor) : Int :=
  processor.stack.pointer

def push (processor : Processor) (value : Int32) : Except StackFault Processor :=
  (processor.stack.push value).map fun stack => { processor with stack }

def pop (processor : Processor) : Except StackFault (Int32 × Processor) :=
  processor.stack.pop.map fun (value, stack) => (value, { processor with stack })

end Processor

end TimeShare
