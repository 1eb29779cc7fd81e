import Mathlib.Logic.Function.Basic
import TimeShare.Processor.Run

/-!
# The stack machine

A machine that says what instructions do and nothing of how a processor does it.
Its stack is a list of values, with none left over from earlier, and its
arithmetic is that of integers, wrapped around to words. A run of it ends with
the outcomes of all instructions, from which `Ending.report` counts.

The recursion of a run ends because every step inside a program moves on.
-/

namespace TimeShare

/-- The result of an arithmetic operation on integers. -/
def ArithOp.onIntegers : ArithOp → Int → Int → Int
  | add, a, b => a + b
  | sub, a, b => a - b
  | mul, a, b => a * b

/-- A machine with registers, a position and a stack of at most as many values as a processor has
slots for. -/
@[ext]
structure StackMachine where
  registers : Register → Int32
  /-- The position of the next instruction. -/
  pc : Nat
  /-- The values on the stack, the latest first. -/
  values : List Int32
  bounded : values.length ≤ stackSize

/-- What may be done to a machine: its registers and its stack may be used from outside, and it may
make a step of any program. -/
inductive Act
  | write (register : Register) (value : Int32)
  | push (value : Int32)
  | pop
  | step (program : Program)

namespace StackMachine

open Processor (Outcome Report)

def zero : StackMachine :=
  ⟨fun _ => 0, 0, [], Nat.zero_le _⟩

def write (machine : StackMachine) (register : Register) (value : Int32) : StackMachine :=
  { machine with registers := Function.update machine.registers register value }

/-- Moves on to the next instruction. -/
def advance (machine : StackMachine) : StackMachine :=
  { machine with pc := machine.pc + 1 }

/-- Puts a value on the stack, if it has room. -/
def push? (machine : StackMachine) (value : Int32) : Option StackMachine :=
  if room : machine.values.length < stackSize then
    some { machine with values := value :: machine.values, bounded := room }
  else
    none

/-- Takes the latest value off the stack, if there is one. -/
def pop? (machine : StackMachine) : Option (Int32 × StackMachine) :=
  match held : machine.values with
  | [] => none
  | value :: rest =>
    some (value,
      { machine with
        values := rest
        bounded := by
          have bounded := machine.bounded
          rw [held] at bounded
          exact Nat.le_of_succ_le bounded })

/-- Carries out one instruction. -/
def execute (machine : StackMachine) : Instruction → Outcome × StackMachine
  | .load rd imm => (.retired, (machine.write rd imm).advance)
  | .arith op rd lhs rhs =>
    let result := op.onIntegers (machine.registers lhs).toInt (machine.registers rhs).toInt
    (.retired, (machine.write rd (Int32.ofInt result)).advance)
  | .push rs =>
    match machine.push? (machine.registers rs) with
    | some pushed => (.retired, pushed.advance)
    | none => (.faulted .stackOverflow, machine.advance)
  | .pop rd =>
    match machine.pop? with
    | some (value, popped) => (.retired, (popped.write rd value).advance)
    | none => (.faulted .stackUnderflow, machine.advance)
  | .halt => (.halted, machine.advance)
  | .unknown _ => (.faulted .unknownOpcode, machine.advance)

/-- Executes the instruction at the machine's position. -/
def step (program : Program) (machine : StackMachine) : Outcome × StackMachine :=
  match program.get? machine.pc with
  | some instruction => machine.execute instruction
  | none => (.endOfProgram, machine)

/-- The machine after an act; a push or a pop that fails does nothing. -/
def act (machine : StackMachine) : Act → StackMachine
  | .write register value => machine.write register value
  | .push value => (machine.push? value).getD machine
  | .pop => machine.pop?.elim machine Prod.snd
  | .step program => (machine.step program).2

/-- The machine after some acts from zero. -/
def reached (acts : List Act) : StackMachine :=
  acts.foldl act zero

/-! ## Steps move on -/

theorem pc_of_push {machine pushed : StackMachine} {value : Int32}
    (h : machine.push? value = some pushed) : pushed.pc = machine.pc := by
  unfold push? at h
  split at h
  · obtain rfl := Option.some.inj h
    rfl
  · cases h

theorem pc_of_pop {machine popped : StackMachine} {value : Int32}
    (h : machine.pop? = some (value, popped)) : popped.pc = machine.pc := by
  unfold pop? at h
  split at h
  · cases h
  · obtain ⟨_, rfl⟩ := Prod.mk.inj (Option.some.inj h)
    rfl

theorem execute_pc (machine : StackMachine) (instruction : Instruction) :
    (machine.execute instruction).2.pc = machine.pc + 1 := by
  cases instruction with
  | load rd imm => rfl
  | arith op rd lhs rhs => rfl
  | push rs =>
    simp only [execute]
    split
    · rename_i pushed room
      exact congrArg (· + 1) (pc_of_push room)
    · rfl
  | pop rd =>
    simp only [execute]
    split
    · rename_i value popped held
      have kept := pc_of_pop held
      exact congrArg (· + 1) kept
    · rfl
  | halt => rfl
  | unknown text => rfl

/-- A step inside a program leaves less of it. -/
theorem left_step_lt {program : Program} {machine : StackMachine}
    (inside : (machine.step program).1 ≠ .endOfProgram) :
    program.size - (machine.step program).2.pc < program.size - machine.pc := by
  unfold step at inside ⊢
  cases reached : program.get? machine.pc with
  | none =>
    rw [reached] at inside
    exact absurd rfl inside
  | some instruction =>
    have below : machine.pc < program.size := (List.getElem?_eq_some_iff.1 reached).1
    simp only [execute_pc]
    omega

/-! ## Runs -/

/-- How a run of the machine ended. -/
structure Ending where
  exit : Exit
  /-- The outcomes of the instructions that were executed, in order. -/
  outcomes : List Outcome
  machine : StackMachine

/-- The ending of a run with one more instruction in front. -/
def Ending.after (outcome : Outcome) (ending : Ending) : Ending :=
  { ending with outcomes := outcome :: ending.outcomes }

/-- What a run reports: every outcome is that of a retired instruction, and each fault counts. -/
def Ending.report (ending : Ending) : Report where
  exit := ending.exit
  retired := ending.outcomes.length
  unknownOpcodes := ending.outcomes.count (.faulted .unknownOpcode)
  stackOverflows := ending.outcomes.count (.faulted .stackOverflow)
  stackUnderflows := ending.outcomes.count (.faulted .stackUnderflow)

/-- Runs a program until it ends, halts or the flag is seen raised; `executed` is the number of
instructions executed before. -/
def run (program : Program) (poll : Nat → Bool) (executed : Nat) (machine : StackMachine) :
    Ending :=
  if (machine.step program).1 = .endOfProgram then
    ⟨.exhausted, [], machine⟩
  else if (machine.step program).1 = .halted then
    ⟨.halted, [.halted], (machine.step program).2⟩
  else if poll (executed + 1) then
    ⟨.preempted, [(machine.step program).1], (machine.step program).2⟩
  else
    (run program poll (executed + 1) (machine.step program).2).after (machine.step program).1
termination_by program.size - machine.pc
decreasing_by exact left_step_lt (by assumption)

end StackMachine

end TimeShare
