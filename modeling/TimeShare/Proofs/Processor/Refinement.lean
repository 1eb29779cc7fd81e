import TimeShare.Proofs.Processor.Instructions
import TimeShare.Proofs.Processor.Loop
import TimeShare.Proofs.Processor.StackMachine

/-!
# Processors refine the stack machine

`Processor.view` reads a processor as a stack machine: its stack holds the slots
behind the pointer, and what earlier values left in the other slots is not seen.
`refines_stackMachine` says that a processor does whatever it does as that
machine does.

* `Does.view`: the view goes along with what an instruction does.
  `view_reached`: it goes along with all acts from the fresh state.
* `Loop.view`: it goes along with runs, and the machine counts the same.
* `memory_reached`, `Loop.pc_le`: the memory is never touched, and no run goes
  past the end.
-/

namespace TimeShare

/-- Wrapping the operands first makes no difference to the wrapped result. -/
theorem ArithOp.apply_ofInt (op : ArithOp) (a b : Int) :
    op.apply (Int32.ofInt a) (Int32.ofInt b) = Int32.ofInt (op.onIntegers a b) := by
  cases op with
  | add => rw [apply, onIntegers, Int32.ofInt_add]
  | sub => rw [apply, onIntegers, Int32.ofInt_sub]
  | mul => rw [apply, onIntegers, Int32.ofInt_mul]

/-- The operations on words are those on integers, wrapped around. -/
theorem ArithOp.apply_eq (op : ArithOp) (a b : Int32) :
    op.apply a b = Int32.ofInt (op.onIntegers a.toInt b.toInt) := by
  rw [← apply_ofInt, Int32.ofInt_toInt, Int32.ofInt_toInt]

namespace Processor

/-- The processor after an act; a push or a pop that fails does nothing. -/
def act (processor : Processor) : Act → Processor
  | .write register value => processor.write register value
  | .push value => (processor.push value).toOption.getD processor
  | .pop => processor.pop.toOption.elim processor Prod.snd
  | .step program => next program processor

/-- The processor after some acts from the fresh state. -/
def reached (acts : List Act) : Processor :=
  acts.foldl act fresh

/-- The machine that a processor stands for. -/
def view (processor : Processor) : StackMachine where
  registers := processor.read
  pc := processor.pc
  values := processor.stack.slots.toList.drop (processor.stackPointer + 1).toNat
  bounded := by
    rw [List.length_drop, Vector.length_toList]
    exact Nat.sub_le _ _

variable {program : Program} {poll : Nat → Bool} {executed : Nat} {processor : Processor}
  {run : Run}

/-! ## The view -/

/-- The view has the values that the stack holds. -/
theorem values_view (processor : Processor) : processor.view.values = processor.stack.toList := by
  have bound := processor.stack.depth_le
  have first : (processor.stackPointer + 1).toNat = stackSize - processor.stack.depth := by
    rw [stackPointer, Stack.pointer]
    omega
  exact congrArg processor.stack.slots.toList.drop first

theorem view_fresh : fresh.view = .zero := by
  refine StackMachine.ext ?_ rfl ?_
  · funext register
    exact Vector.getElem_replicate register.isLt
  · rw [values_view]
    exact Stack.toList_empty

theorem view_write (processor : Processor) (register : Register) (value : Int32) :
    (processor.write register value).view = processor.view.write register value := by
  refine StackMachine.ext ?_ rfl rfl
  funext other
  change (processor.registers.set register value)[other] =
    Function.update processor.read register value other
  rw [Function.update_apply, Fin.getElem_fin, Vector.getElem_set]
  by_cases same : other = register
  · rw [if_pos same, if_pos (congrArg Fin.val same.symm)]
  · rw [if_neg same, if_neg fun equal => same (Fin.ext equal.symm)]
    rfl

/-- The view goes along with a push that finds room. -/
theorem view_push {value : Int32} {stack : Stack} (h : processor.stack.push value = .ok stack) :
    processor.view.push? value = some { processor with stack }.view := by
  have values := Stack.toList_push h
  have room : processor.view.values.length < stackSize := by
    have bound := stack.depth_le
    rw [← Stack.length_toList, values, List.length_cons, ← values_view] at bound
    exact bound
  rw [StackMachine.push?, dif_pos room]
  refine congrArg some (StackMachine.ext rfl rfl ?_)
  have held := congrArg (value :: ·) (values_view processor)
  exact held.trans (values.symm.trans (values_view { processor with stack }).symm)

/-- Where a push fails, the view has no room. -/
theorem view_overflow {value : Int32} {fault : StackFault}
    (h : processor.stack.push value = .error fault) : processor.view.push? value = none := by
  obtain ⟨full, _⟩ := Stack.push_eq_error_iff.1 h
  rw [← values_view] at full
  exact dif_neg (by omega)

/-- The view goes along with a pop that finds a value. -/
theorem view_pop {value : Int32} {stack : Stack} (h : processor.stack.pop = .ok (value, stack)) :
    processor.view.pop? = some (value, { processor with stack }.view) := by
  have values := Stack.toList_pop h
  rw [← values_view] at values
  unfold StackMachine.pop?
  split
  · rename_i held
    cases held.symm.trans values
  · rename_i first rest held
    obtain ⟨rfl, rfl⟩ := List.cons.inj (held.symm.trans values)
    refine congrArg some (Prod.ext rfl (StackMachine.ext rfl rfl ?_))
    exact (values_view { processor with stack }).symm

/-- Where a pop fails, the view has no value. -/
theorem view_underflow {fault : StackFault} (h : processor.stack.pop = .error fault) :
    processor.view.pop? = none := by
  obtain ⟨empty, _⟩ := Stack.pop_eq_error_iff.1 h
  rw [← values_view] at empty
  unfold StackMachine.pop?
  split
  · rfl
  · rename_i held
    cases held.symm.trans empty

/-! ## Instructions -/

/-- The view goes along with what an instruction does. -/
theorem Does.view {after : Processor} {instruction : Instruction} {outcome : Outcome}
    (does : Does processor instruction outcome after) :
    processor.view.execute instruction = (outcome, after.view.advance) := by
  cases does with
  | load rd imm => rw [StackMachine.execute, ← view_write]
  | arith op rd lhs rhs =>
    rw [StackMachine.execute, op.apply_eq, view_write]
    rfl
  | @push rs _ pushed =>
    have room : processor.view.push? (processor.view.registers rs) = _ := view_push pushed
    simp only [StackMachine.execute, room]
  | @overflow rs fails =>
    have full : processor.view.push? (processor.view.registers rs) = _ := view_overflow fails
    simp only [StackMachine.execute, full]
  | pop popped => simp only [StackMachine.execute, view_pop popped, view_write]
  | underflow fails => simp only [StackMachine.execute, view_underflow fails]
  | halt => rfl
  | unknown text => rfl

theorem view_step (program : Program) (processor : Processor) :
    processor.view.step program =
      ((step program processor).outcome, (next program processor).view) := by
  have place : processor.view.pc = processor.pc := rfl
  rw [StackMachine.step, next, step, place]
  cases program.get? processor.pc with
  | none => rfl
  | some instruction =>
    obtain ⟨after, does, left⟩ := execute_does processor instruction
    simp only [does.view, left]
    rfl

/-- The view goes along with every act. -/
theorem view_act (processor : Processor) (act : Act) :
    (processor.act act).view = processor.view.act act := by
  cases act with
  | write register value => exact view_write processor register value
  | push value =>
    rw [Processor.act, StackMachine.act, push]
    cases result : processor.stack.push value with
    | error fault =>
      rw [view_overflow result]
      rfl
    | ok stack =>
      rw [view_push result]
      rfl
  | pop =>
    rw [Processor.act, StackMachine.act, pop]
    cases result : processor.stack.pop with
    | error fault =>
      rw [view_underflow result]
      rfl
    | ok taken =>
      rw [view_pop result]
      rfl
  | step program => rw [StackMachine.act, view_step, Processor.act]

/-- The view goes along with all acts. -/
theorem view_reached (acts : List Act) : (reached acts).view = .reached acts := by
  have along : ∀ processor : Processor,
      (acts.foldl Processor.act processor).view = acts.foldl StackMachine.act processor.view := by
    induction acts with
    | nil => exact fun _ => rfl
    | cons act rest ih =>
      intro processor
      rw [List.foldl_cons, List.foldl_cons, ih, view_act]
  rw [reached, along, view_fresh, StackMachine.reached]

/-! ## Runs -/

/-- One more outcome in front of a run counts as one more instruction of its kind. -/
theorem report_after {outcome : Outcome} (inside : outcome ≠ .endOfProgram)
    (ending : StackMachine.Ending) :
    (ending.after outcome).report = ending.report.count outcome := by
  cases outcome with
  | retired => rfl
  | faulted fault =>
    cases fault <;> simp [StackMachine.Ending.report, StackMachine.Ending.after, Report.count]
  | halted => rfl
  | endOfProgram => exact absurd rfl inside

/-- The view goes along with runs, and the machine counts the same. -/
theorem Loop.view (loop : Loop program poll executed processor run) :
    (processor.view.run program poll executed).machine = run.processor.view ∧
      (processor.view.run program poll executed).report = run.report := by
  induction loop with
  | exhausted ended =>
    rw [StackMachine.run, view_step, if_pos ended]
    exact ⟨rfl, rfl⟩
  | halted halts =>
    rw [StackMachine.run, view_step, if_neg (by rw [halts]; nofun), if_pos halts]
    refine ⟨rfl, ?_⟩
    rw [Run.after, halts]
    rfl
  | preempted inside goes_on seen =>
    rw [StackMachine.run, view_step, if_neg inside, if_neg goes_on, if_pos seen]
    exact ⟨rfl, report_after inside ⟨_, [], _⟩⟩
  | round inside goes_on unseen _ ih =>
    rw [StackMachine.run, view_step, if_neg inside, if_neg goes_on, if_neg (by simp [unseen])]
    refine ⟨ih.1, ?_⟩
    rw [report_after inside, ih.2, Run.after]

/-! ## What stays as it was -/

/-- A step past the end does nothing. -/
theorem step_of_size_le (beyond : program.size ≤ processor.pc) :
    step program processor = ⟨.endOfProgram, processor, []⟩ := by
  have nothing : program.get? processor.pc = none := List.getElem?_eq_none beyond
  rw [step, nothing]

/-- A step inside a program does what the instruction at its position does, and moves on. -/
theorem step_does {instruction : Instruction} (here : program.get? processor.pc = some instruction) :
    ∃ after, Does processor instruction (step program processor).outcome after ∧
      next program processor = after.advance := by
  rw [next, step_of_get? here]
  exact execute_does processor instruction

theorem memory_next (program : Program) (processor : Processor) :
    (next program processor).memory = processor.memory := by
  cases here : program.get? processor.pc with
  | none => rw [next, step_of_size_le (List.getElem?_eq_none_iff.1 here)]
  | some instruction =>
    obtain ⟨after, does, left⟩ := step_does here
    rw [left]
    exact does.memory

theorem memory_iterate_next (program : Program) (steps : Nat) (processor : Processor) :
    ((next program)^[steps] processor).memory = processor.memory := by
  induction steps generalizing processor with
  | zero => rfl
  | succ steps ih => rw [Function.iterate_succ_apply, ih, memory_next]

theorem memory_act (processor : Processor) (act : Act) :
    (processor.act act).memory = processor.memory := by
  cases act with
  | write register value => rfl
  | push value =>
    rw [Processor.act, push]
    cases processor.stack.push value <;> rfl
  | pop =>
    rw [Processor.act, pop]
    cases processor.stack.pop <;> rfl
  | step program => exact memory_next program processor

/-- No act touches the memory. -/
theorem memory_reached (acts : List Act) : (reached acts).memory = .replicate memorySize 0 := by
  have kept : ∀ processor : Processor, (acts.foldl Processor.act processor).memory =
      processor.memory := by
    induction acts with
    | nil => exact fun _ => rfl
    | cons act rest ih =>
      intro processor
      rw [List.foldl_cons, ih, memory_act]
  rw [reached, kept, fresh]

/-- A run stops no further than the end of its program or where it started. -/
theorem Loop.pc_le (loop : Loop program poll executed processor run) :
    run.processor.pc ≤ max processor.pc program.size := by
  have course := loop.course
  cases exit : run.report.exit with
  | halted =>
    rw [exit] at course
    obtain ⟨halt, stop, _, halts, _⟩ := course.halted_inv
    have inside : halt < program.size := (List.getElem?_eq_some_iff.1 halts).1
    omega
  | preempted =>
    rw [exit] at course
    obtain ⟨_, inside, _⟩ := course.preempted_inv
    omega
  | exhausted =>
    rw [exit] at course
    exact Nat.le_of_eq course.exhausted_inv.1

/-! ## The refinement -/

/-- A processor runs a program as the stack machine does that it stands for, and leaves alone what
that machine does not have. -/
structure Refines (program : Program) (poll : Nat → Bool) (processor : Processor) : Prop where
  step : processor.view.step program =
    ((processor.step program).outcome, (next program processor).view)
  machine : (processor.view.run program poll 0).machine =
    (processor.run program poll).processor.view
  /-- The exit and the counts are those of the machine. -/
  report : (processor.view.run program poll 0).report = (processor.run program poll).report
  past_end : program.size ≤ processor.pc →
    processor.step program = ⟨.endOfProgram, processor, []⟩
  advances : processor.pc < program.size → (next program processor).pc = processor.pc + 1
  does : ∀ instruction, program.get? processor.pc = some instruction →
    ∃ after, Does processor instruction (processor.step program).outcome after ∧
      next program processor = after.advance
  /-- Only the position changes with an instruction that faults. -/
  faulted : ∀ fault, (processor.step program).outcome = .faulted fault →
    next program processor = processor.advance
  kept : ∀ instruction register, program.get? processor.pc = some instruction →
    instruction.target? ≠ some register →
    (next program processor).read register = processor.read register
  memory : processor.memory = .replicate memorySize 0 ∧
    (processor.run program poll).processor.memory = .replicate memorySize 0
  pc_le : (processor.run program poll).processor.pc ≤ max processor.pc program.size

/-- Whatever a processor has been through, it stands for the stack machine that has been through
the same, and runs every program as that machine does, whatever the flag does. -/
theorem refines_stackMachine (acts : List Act) (program : Program) (poll : Nat → Bool) :
    (reached acts).view = .reached acts ∧ Refines program poll (reached acts) := by
  refine ⟨view_reached acts, ?_⟩
  have memory := memory_reached acts
  generalize reached acts = processor at *
  have loop := loop_run program poll processor
  exact
    { step := view_step program processor
      machine := loop.view.1
      report := loop.view.2
      past_end := step_of_size_le
      advances := next_pc
      does := fun _ here => step_does here
      faulted := by
        intro fault faulted
        cases here : program.get? processor.pc with
        | none =>
          rw [step_of_size_le (List.getElem?_eq_none_iff.1 here)] at faulted
          cases faulted
        | some instruction =>
          obtain ⟨after, does, left⟩ := step_does here
          rw [faulted] at does
          rw [left, does.eq_of_faulted]
      kept := by
        intro instruction register here other
        obtain ⟨after, does, left⟩ := step_does here
        rw [left]
        exact does.read_eq other
      memory := ⟨memory, by rw [loop.state, memory_iterate_next, memory]⟩
      pc_le := loop.pc_le }

end Processor

end TimeShare
