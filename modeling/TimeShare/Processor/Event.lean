import TimeShare.Instruction.Basic

/-!
# What a processor records

Each instruction that is executed leaves one `executed` event. An event about
the stack, a fault or the halt of that instruction stands directly before it.
Running past the end of a program leaves an `exhausted` event. Which task the
processor worked for is added by the trace, not here.
-/

namespace TimeShare.Processor

/-- An event of one processor; `pc` is the position of the instruction concerned. -/
inductive Event
  /-- An instruction was executed, with the value it put into a register, if it did. -/
  | executed (pc : Nat) (instruction : Instruction) (result : Option Int32)
  /-- A value was pushed; `sp` is the stack pointer afterwards. -/
  | pushed (register : Register) (value : Int32) (sp : Int)
  /-- A value was popped; `sp` is the stack pointer afterwards. -/
  | popped (register : Register) (value : Int32) (sp : Int)
  /-- A push found the stack full. -/
  | stackOverflow (pc : Nat)
  /-- A pop found the stack empty. -/
  | stackUnderflow (pc : Nat)
  /-- An instruction outside the set was met. -/
  | unknownOpcode (pc : Nat) (text : String)
  /-- A `HALT` was executed. -/
  | halted (pc : Nat)
  /-- The program ended without a `HALT`. -/
  | exhausted (pc : Nat)
  deriving DecidableEq, Repr

def Event.isExecuted : Event → Bool
  | executed .. => true
  | _ => false

end TimeShare.Processor
