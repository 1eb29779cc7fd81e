import TimeShare.Processor.Step

/-!
# Running a program

A run executes instructions one after another until one of three things happens,
looked for in this order after each instruction: the instruction was a `HALT`;
the preemption flag is seen raised; no instruction is left. As no instruction
branches, a run is a recursion on the instructions that are left.

The flag is polled once after every instruction that is no `HALT`. A run sees it
as a function from the number of instructions it has executed so far.
-/

namespace TimeShare

/-- Why a run stopped. -/
inductive Exit
  | halted
  /-- It saw the preemption flag raised. -/
  | preempted
  /-- It ran past the end of the program. -/
  | exhausted
  deriving DecidableEq, Repr

/-- Whether a task must not be run again after this exit. -/
def Exit.isTerminal : Exit → Bool
  | halted => true
  | preempted => false
  | exhausted => true

namespace Processor

/-- What a run reports: why it stopped, how many instructions it executed, how many faulted. -/
structure Report where
  exit : Exit
  retired : Nat
  unknownOpcodes : Nat
  stackOverflows : Nat
  stackUnderflows : Nat
  deriving DecidableEq, Repr

namespace Report

/-- The report of a run that stops without executing anything. -/
def stop (exit : Exit) : Report :=
  ⟨exit, 0, 0, 0, 0⟩

/-- The report with one more executed instruction in front. -/
def count (outcome : Outcome) (report : Report) : Report :=
  match outcome with
  | .endOfProgram => report
  | .retired => { report with retired := report.retired + 1 }
  | .halted => { report with retired := report.retired + 1 }
  | .faulted .unknownOpcode =>
    { report with
      retired := report.retired + 1
      unknownOpcodes := report.unknownOpcodes + 1 }
  | .faulted .stackOverflow =>
    { report with
      retired := report.retired + 1
      stackOverflows := report.stackOverflows + 1 }
  | .faulted .stackUnderflow =>
    { report with
      retired := report.retired + 1
      stackUnderflows := report.stackUnderflows + 1 }

@[simp] theorem count_exit (outcome : Outcome) (report : Report) :
    (report.count outcome).exit = report.exit := by
  rcases outcome with _ | fault | _ | _ <;> try rfl
  cases fault <;> rfl

end Report

/-- A finished run: the state it left, its report and what it recorded. -/
structure Run where
  processor : Processor
  report : Report
  events : List Event

/-- The run that stops at once with an exit. -/
def Run.stop (processor : Processor) (exit : Exit) : Run :=
  ⟨processor, .stop exit, []⟩

/-- The run with one more executed instruction in front. -/
def Run.after (effect : Effect) (run : Run) : Run :=
  ⟨run.processor, run.report.count effect.outcome, effect.events ++ run.events⟩

/--
Runs the instructions that are left. `poll n` tells whether the flag is seen
raised after the `n`-th instruction of the run, and `executed` is the number of
instructions executed before.
-/
def runFrom (poll : Nat → Bool) : List Instruction → Nat → Processor → Run
  | [], _, processor => ⟨processor, .stop .exhausted, [.exhausted processor.pc]⟩
  | instruction :: rest, executed, processor =>
    let effect := processor.execute instruction
    if effect.outcome = .halted then
      (Run.stop effect.processor .halted).after effect
    else if poll (executed + 1) then
      (Run.stop effect.processor .preempted).after effect
    else
      (runFrom poll rest (executed + 1) effect.processor).after effect

/-- Runs a program from the processor's position on. -/
def run (program : Program) (poll : Nat → Bool) (processor : Processor) : Run :=
  runFrom poll (program.instructions.drop processor.pc) 0 processor

def neverRaised : Nat → Bool :=
  fun _ => false

/-! ## Progress -/

theorem runFrom_pc_le (poll : Nat → Bool) (rest : List Instruction) (executed : Nat)
    (processor : Processor) :
    processor.pc ≤ (runFrom poll rest executed processor).processor.pc := by
  induction rest generalizing executed processor with
  | nil => exact Nat.le_refl _
  | cons instruction rest ih =>
    have here := execute_pc processor instruction
    simp only [runFrom]
    split
    · simp only [Run.after, Run.stop, here]
      omega
    · split
      · simp only [Run.after, Run.stop, here]
        omega
      · have later := ih (executed + 1) (processor.execute instruction).processor
        simp only [Run.after]
        omega

/-- A preempted run started before the end of the program and has moved on. -/
theorem run_pc_lt_of_preempted {program : Program} {poll : Nat → Bool} {processor : Processor}
    (preempted : (run program poll processor).report.exit = .preempted) :
    processor.pc < program.size ∧
      processor.pc < (run program poll processor).processor.pc := by
  unfold run at preempted ⊢
  cases left : program.instructions.drop processor.pc with
  | nil =>
    rw [left] at preempted
    cases preempted
  | cons instruction rest =>
    have inside : processor.pc < program.size := by
      apply Nat.lt_of_not_le
      intro beyond
      rw [List.drop_eq_nil_of_le beyond] at left
      cases left
    have here := execute_pc processor instruction
    refine ⟨inside, ?_⟩
    simp only [runFrom]
    split
    · simp only [Run.after, Run.stop, here]
      omega
    · split
      · simp only [Run.after, Run.stop, here]
        omega
      · have later := runFrom_pc_le poll rest (0 + 1) (processor.execute instruction).processor
        simp only [Run.after]
        omega

end Processor

end TimeShare
