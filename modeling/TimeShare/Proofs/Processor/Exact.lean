import Mathlib.Data.Int.ModEq
import TimeShare.Proofs.Processor.Refinement

/-!
# Arithmetic without bounds

`ExactMachine` executes programs as a processor does, but its registers and its
slots hold integers of any size, so that nothing wraps. `reduces_exact` says that
a processor that starts from the same values has, after every step, what the
machine has with each integer wrapped once: wrapping at every operation loses no
more than wrapping at the end. No instruction chooses what to do by a value, so
the two never part.

* `Reduces`: a processor holds the integers of a machine, wrapped to words.
  `Does.reduces`: every instruction keeps this; `Reduces.iterate`: so do steps.
* `isResidue_ofInt`: the word that an integer wraps to is the only one congruent to it.
-/

namespace TimeShare

/-- A machine with integers of any size in its registers and in the slots of its stack. -/
structure ExactMachine where
  registers : Register → Int
  /-- The position of the next instruction. -/
  pc : Nat
  slots : Fin stackSize → Int
  /-- The number of values on the stack. -/
  depth : Nat
  depth_le : depth ≤ stackSize

namespace ExactMachine

open Processor (Outcome)

/-- The machine that starts from the values of a processor. -/
def of (processor : Processor) : ExactMachine where
  registers register := (processor.read register).toInt
  pc := processor.pc
  slots slot := processor.stack.slots[slot].toInt
  depth := processor.stack.depth
  depth_le := processor.stack.depth_le

/-- The number of the slot that the next push fills. -/
def stackPointer (machine : ExactMachine) : Int :=
  (stackSize : Int) - 1 - machine.depth

def write (machine : ExactMachine) (register : Register) (value : Int) : ExactMachine :=
  { machine with registers := Function.update machine.registers register value }

/-- Moves on to the next instruction. -/
def advance (machine : ExactMachine) : ExactMachine :=
  { machine with pc := machine.pc + 1 }

/-- Fills the next slot, if there is one. -/
def push? (machine : ExactMachine) (value : Int) : Option ExactMachine :=
  if room : machine.depth < stackSize then
    some { machine with
      slots := Function.update machine.slots ⟨stackSize - 1 - machine.depth, by omega⟩ value
      depth := machine.depth + 1
      depth_le := room }
  else
    none

/-- Takes the value of the slot that was filled last, if there is one. -/
def pop? (machine : ExactMachine) : Option (Int × ExactMachine) :=
  have bound := machine.depth_le
  if held : 0 < machine.depth then
    some (machine.slots ⟨stackSize - machine.depth, by omega⟩,
      { machine with depth := machine.depth - 1, depth_le := by omega })
  else
    none

/-- Carries out one instruction. -/
def execute (machine : ExactMachine) : Instruction → Outcome × ExactMachine
  | .load rd imm => (.retired, (machine.write rd imm.toInt).advance)
  | .arith op rd lhs rhs =>
    let result := op.onIntegers (machine.registers lhs) (machine.registers rhs)
    (.retired, (machine.write rd result).advance)
  | .push rs =>
    match machine.push? (machine.registers rs) with
    | some pushed => (.retired, pushed.advance)
    | none => (.faulted .stackOverflow, machine.advance)
  | .pop rd =>
    match machine.pop? with
    | some (value, popped) => (.retired, (popped.write rd value).advance)
    | none => (.faulted .stackUnderflow, machine.advance)
  | .halt => (.halted, machine.advance)
  | .unknown _ => (.faulted .unknownOpcode, machine.advance)

/-- Executes the instruction at the machine's position. -/
def step (program : Program) (machine : ExactMachine) : Outcome × ExactMachine :=
  match program.get? machine.pc with
  | some instruction => machine.execute instruction
  | none => (.endOfProgram, machine)

/-- The machine that a step of a program leaves. -/
def next (program : Program) (machine : ExactMachine) : ExactMachine :=
  (machine.step program).2

end ExactMachine

/-! ## Residues -/

/-- A word is the residue of an integer: no other integer in the range of words is congruent to
it. -/
def IsResidue (word : Int32) (exact : Int) : Prop :=
  ∀ value : Int, value = word.toInt ↔
    Int32.minValue.toInt ≤ value ∧ value ≤ Int32.maxValue.toInt ∧ value ≡ exact [ZMOD Int32.size]

theorem isResidue_ofInt (exact : Int) : IsResidue (Int32.ofInt exact) exact := by
  intro value
  have low : Int32.minValue.toInt = -2147483648 := rfl
  have high : Int32.maxValue.toInt = 2147483647 := rfl
  have size : (Int32.size : Int) = 4294967296 := rfl
  have wrapped : (Int32.ofInt exact).toInt = exact.bmod Int32.size := Int32.toInt_ofInt
  rw [wrapped, low, high, size, Int.ModEq]
  have congruent : exact.bmod Int32.size % 4294967296 = exact % 4294967296 := Int.bmod_emod
  have least : -2147483648 ≤ exact.bmod Int32.size := Int.le_bmod (by decide)
  have greatest : exact.bmod Int32.size < 2147483648 := Int.bmod_lt (by decide)
  constructor
  · rintro rfl
    exact ⟨least, Int.le_of_lt_add_one greatest, congruent⟩
  · rintro ⟨above, below, same⟩
    omega

namespace Processor

/-- A processor is where a machine is, and holds the machine's integers wrapped to words. -/
structure Reduces (processor : Processor) (machine : ExactMachine) : Prop where
  pc : processor.pc = machine.pc
  depth : processor.stack.depth = machine.depth
  registers : ∀ register, processor.read register = Int32.ofInt (machine.registers register)
  /-- This holds of the slots in front of the pointer too, whose values were popped. -/
  slots : ∀ slot : Fin stackSize, processor.stack.slots[slot] = Int32.ofInt (machine.slots slot)

variable {program : Program} {processor after : Processor} {machine : ExactMachine}

theorem reduces_of (processor : Processor) : processor.Reduces (.of processor) where
  pc := rfl
  depth := rfl
  registers _ := (Int32.ofInt_toInt _).symm
  slots _ := (Int32.ofInt_toInt _).symm

namespace Reduces

theorem advance (reduces : processor.Reduces machine) : processor.advance.Reduces machine.advance :=
  { reduces with pc := congrArg (· + 1) reduces.pc }

theorem write (reduces : processor.Reduces machine) (register : Register) {value : Int32}
    {exact : Int} (wraps : value = Int32.ofInt exact) :
    (processor.write register value).Reduces (machine.write register exact) where
  pc := reduces.pc
  depth := reduces.depth
  slots := reduces.slots
  registers other := by
    dsimp only [ExactMachine.write]
    rw [Function.update_apply]
    split
    · rename_i same
      rw [same, read_write_self, wraps]
    · rename_i other_register
      rw [read_write_of_ne (Ne.symm other_register), reduces.registers]

/-- The machine has room for a push where the processor has. -/
theorem push {value : Int32} {exact : Int} {stack : Stack} (reduces : processor.Reduces machine)
    (wraps : value = Int32.ofInt exact) (pushed : processor.stack.push value = .ok stack) :
    ∃ machine', machine.push? exact = some machine' ∧
      Reduces { processor with stack } machine' := by
  unfold Stack.push at pushed
  split at pushed
  · rename_i room
    obtain rfl := Except.ok.inj pushed
    have room' : machine.depth < stackSize := reduces.depth ▸ room
    refine ⟨_, dif_pos room', reduces.pc, congrArg (· + 1) reduces.depth, reduces.registers, ?_⟩
    intro slot
    dsimp only
    rw [Fin.getElem_fin, Vector.getElem_set, Function.update_apply]
    by_cases here : slot.val = stackSize - 1 - machine.depth
    · rw [if_pos (by rw [reduces.depth, here]), if_pos (Fin.ext here)]
      exact wraps
    · rw [if_neg (by rw [reduces.depth]; exact Ne.symm here),
        if_neg fun same => here (congrArg Fin.val same)]
      exact reduces.slots slot
  · cases pushed

theorem overflow {value : Int32} {fault : StackFault} (exact : Int)
    (reduces : processor.Reduces machine) (fails : processor.stack.push value = .error fault) :
    machine.push? exact = none := by
  obtain ⟨full, _⟩ := Stack.push_eq_error_iff.1 fails
  rw [Stack.length_toList, reduces.depth] at full
  exact dif_neg (by omega)

/-- The machine has a value to pop where the processor has. -/
theorem pop {value : Int32} {stack : Stack} (reduces : processor.Reduces machine)
    (popped : processor.stack.pop = .ok (value, stack)) :
    ∃ exact machine', machine.pop? = some (exact, machine') ∧ value = Int32.ofInt exact ∧
      Reduces { processor with stack } machine' := by
  unfold Stack.pop at popped
  split at popped
  · rename_i held
    obtain ⟨rfl, rfl⟩ := Prod.mk.inj (Except.ok.inj popped)
    have held' : 0 < machine.depth := reduces.depth ▸ held
    have bound := processor.stack.depth_le
    have slot := reduces.slots ⟨stackSize - processor.stack.depth, by omega⟩
    refine ⟨_, _, dif_pos held', ?_, reduces.pc, congrArg (· - 1) reduces.depth,
      reduces.registers, reduces.slots⟩
    simpa only [Fin.getElem_fin, reduces.depth] using slot
  · cases popped

theorem underflow {fault : StackFault} (reduces : processor.Reduces machine)
    (fails : processor.stack.pop = .error fault) : machine.pop? = none := by
  obtain ⟨empty, _⟩ := Stack.pop_eq_error_iff.1 fails
  rw [← List.length_eq_zero_iff, Stack.length_toList, reduces.depth] at empty
  exact dif_neg (by omega)

end Reduces

/-- The machine does what an instruction does to the processor. -/
theorem Does.reduces {instruction : Instruction} {outcome : Outcome}
    (does : Does processor instruction outcome after) (reduces : processor.Reduces machine) :
    (machine.execute instruction).1 = outcome ∧
      after.advance.Reduces (machine.execute instruction).2 := by
  cases does with
  | load rd imm => exact ⟨rfl, (reduces.write rd (Int32.ofInt_toInt imm).symm).advance⟩
  | arith op rd lhs rhs =>
    refine ⟨rfl, (reduces.write rd ?_).advance⟩
    rw [reduces.registers, reduces.registers, op.apply_ofInt]
  | @push rs _ pushed =>
    obtain ⟨machine', room, reduces'⟩ := reduces.push (reduces.registers rs) pushed
    rw [ExactMachine.execute, room]
    exact ⟨rfl, reduces'.advance⟩
  | @overflow rs fails =>
    rw [ExactMachine.execute, reduces.overflow _ fails]
    exact ⟨rfl, reduces.advance⟩
  | @pop rd _ _ popped =>
    obtain ⟨exact', machine', held, wraps, reduces'⟩ := reduces.pop popped
    rw [ExactMachine.execute, held]
    exact ⟨rfl, (reduces'.write rd wraps).advance⟩
  | underflow fails =>
    rw [ExactMachine.execute, reduces.underflow fails]
    exact ⟨rfl, reduces.advance⟩
  | halt => exact ⟨rfl, reduces.advance⟩
  | unknown text => exact ⟨rfl, reduces.advance⟩

theorem Reduces.step (program : Program) (reduces : processor.Reduces machine) :
    (machine.step program).1 = (Processor.step program processor).outcome ∧
      (next program processor).Reduces (machine.next program) := by
  rw [next, ExactMachine.next, Processor.step, ExactMachine.step, ← reduces.pc]
  cases program.get? processor.pc with
  | none => exact ⟨rfl, reduces⟩
  | some instruction =>
    obtain ⟨after, does, left⟩ := execute_does processor instruction
    dsimp only
    rw [left]
    exact does.reduces reduces

theorem Reduces.iterate (program : Program) (steps : Nat) (reduces : processor.Reduces machine) :
    ((next program)^[steps] processor).Reduces ((ExactMachine.next program)^[steps] machine) := by
  induction steps generalizing processor machine with
  | zero => exact reduces
  | succ steps ih => exact ih (reduces.step program).2

/-- After any number of steps a processor is where the machine is that computes without bounds,
the next step has the same outcome, and every register and every slot holds the residue of what the
machine has there. -/
theorem reduces_exact (program : Program) (start : Processor) (steps : Nat) :
    let processor := (next program)^[steps] start
    let machine := (ExactMachine.next program)^[steps] (.of start)
    processor.pc = machine.pc ∧ processor.stackPointer = machine.stackPointer ∧
      (step program processor).outcome = (machine.step program).1 ∧
      (∀ register, IsResidue (processor.read register) (machine.registers register)) ∧
      ∀ slot : Fin stackSize, IsResidue processor.stack.slots[slot] (machine.slots slot) := by
  intro processor machine
  have reduces : processor.Reduces machine := (reduces_of start).iterate program steps
  refine ⟨reduces.pc, ?_, (reduces.step program).1.symm, fun register => ?_, fun slot => ?_⟩
  · rw [stackPointer, Stack.pointer, reduces.depth, ExactMachine.stackPointer]
  · rw [reduces.registers]
    exact isResidue_ofInt _
  · rw [reduces.slots]
    exact isResidue_ofInt _

end Processor

end TimeShare
