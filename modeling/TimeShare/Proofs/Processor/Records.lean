import TimeShare.Proofs.Processor.Loop

/-!
# What a run reports and what it records

A run's report and its events are made side by side, one instruction after
another. `Loop.records` says that they tell the same: the report counts the
events. `Loop.positions` says that the executed instructions stand in the order
of the program text, as far as they go.
-/

namespace TimeShare.Processor

/-- The fault that an event reports. -/
def Event.fault? : Event → Option Fault
  | unknownOpcode .. => some .unknownOpcode
  | stackOverflow _ => some .stackOverflow
  | stackUnderflow _ => some .stackUnderflow
  | _ => none

/-- How many executed instructions had a fault, by a report. -/
def Report.faults (report : Report) : Fault → Nat
  | .unknownOpcode => report.unknownOpcodes
  | .stackOverflow => report.stackOverflows
  | .stackUnderflow => report.stackUnderflows

/-- How many executed instructions some events tell of. -/
def executedIn (events : List Event) : Nat :=
  events.countP Event.isExecuted

/-- How many times some events tell of a fault. -/
def faultsIn (fault : Fault) (events : List Event) : Nat :=
  events.countP fun event => event.fault? = some fault

@[simp] theorem executedIn_nil : executedIn [] = 0 := rfl

@[simp] theorem faultsIn_nil (fault : Fault) : faultsIn fault [] = 0 := rfl

theorem executedIn_append (first second : List Event) :
    executedIn (first ++ second) = executedIn first + executedIn second :=
  List.countP_append ..

theorem faultsIn_append (fault : Fault) (first second : List Event) :
    faultsIn fault (first ++ second) = faultsIn fault first + faultsIn fault second :=
  List.countP_append ..

/-! ## One instruction -/

/-- Whether an outcome is a fault, as a number. -/
def Outcome.faults (outcome : Outcome) (fault : Fault) : Nat :=
  if outcome = .faulted fault then 1 else 0

theorem Report.faults_count (outcome : Outcome) (report : Report) (fault : Fault) :
    (report.count outcome).faults fault = outcome.faults fault + report.faults fault := by
  cases outcome with
  | retired => cases fault <;> simp [Outcome.faults, count, faults]
  | halted => cases fault <;> simp [Outcome.faults, count, faults]
  | endOfProgram => simp [Outcome.faults, count]
  | faulted met =>
    cases met <;> cases fault <;> simp [Outcome.faults, count, faults, Nat.add_comm]

/-- An instruction that is passed over reports its fault. -/
theorem records_passOver (processor : Processor) (instruction : Instruction) (met : Fault) :
    executedIn (processor.passOver instruction met).events = 1 ∧
      ∀ fault, faultsIn fault (processor.passOver instruction met).events =
        (processor.passOver instruction met).outcome.faults fault := by
  constructor
  · cases met <;> rfl
  · intro fault
    cases met <;> cases fault <;> rfl

/-- An instruction is recorded as executed once, with the fault that it had. -/
theorem records_execute (processor : Processor) (instruction : Instruction) :
    executedIn (processor.execute instruction).events = 1 ∧
      ∀ fault, faultsIn fault (processor.execute instruction).events =
        (processor.execute instruction).outcome.faults fault := by
  cases instruction with
  | load rd imm => exact ⟨rfl, fun _ => rfl⟩
  | arith op rd lhs rhs => exact ⟨rfl, fun _ => rfl⟩
  | push rs =>
    cases pushed : processor.push (processor.read rs) with
    | ok after =>
      simp only [execute, pushed]
      exact ⟨rfl, fun _ => rfl⟩
    | error fault =>
      simp only [execute, pushed]
      exact records_passOver processor _ _
  | pop rd =>
    cases popped : processor.pop with
    | ok result =>
      simp only [execute, popped]
      exact ⟨rfl, fun _ => rfl⟩
    | error fault =>
      simp only [execute, popped]
      exact records_passOver processor _ _
  | halt => exact ⟨rfl, fun _ => rfl⟩
  | unknown text => exact records_passOver processor _ _

theorem records_step {program : Program} {processor : Processor}
    (inside : (step program processor).outcome ≠ .endOfProgram) :
    executedIn (step program processor).events = 1 ∧
      ∀ fault, faultsIn fault (step program processor).events =
        (step program processor).outcome.faults fault := by
  rw [ne_eq, outcome_eq_endOfProgram_iff, Nat.not_le] at inside
  have reached : program.get? processor.pc = some program.instructions[processor.pc] :=
    List.getElem?_eq_getElem inside
  rw [step_of_get? reached]
  exact records_execute processor _

/-- The position of the instruction that an event tells the execution of. -/
def Event.executedAt? : Event → Option Nat
  | executed pc .. => some pc
  | _ => none

theorem positions_passOver (processor : Processor) (instruction : Instruction) (met : Fault) :
    (processor.passOver instruction met).events.filterMap Event.executedAt? = [processor.pc] := by
  cases met <;> rfl

/-- An instruction is recorded as executed at the processor's position. -/
theorem positions_execute (processor : Processor) (instruction : Instruction) :
    (processor.execute instruction).events.filterMap Event.executedAt? = [processor.pc] := by
  cases instruction with
  | load rd imm => rfl
  | arith op rd lhs rhs => rfl
  | push rs =>
    cases pushed : processor.push (processor.read rs) with
    | ok after =>
      simp only [execute, pushed]
      rfl
    | error fault =>
      simp only [execute, pushed]
      exact positions_passOver processor _ _
  | pop rd =>
    cases popped : processor.pop with
    | ok result =>
      simp only [execute, popped]
      rfl
    | error fault =>
      simp only [execute, popped]
      exact positions_passOver processor _ _
  | halt => rfl
  | unknown text => exact positions_passOver processor _ _

theorem positions_step {program : Program} {processor : Processor}
    (inside : (step program processor).outcome ≠ .endOfProgram) :
    (step program processor).events.filterMap Event.executedAt? = [processor.pc] := by
  rw [ne_eq, outcome_eq_endOfProgram_iff, Nat.not_le] at inside
  have reached : program.get? processor.pc = some program.instructions[processor.pc] :=
    List.getElem?_eq_getElem inside
  rw [step_of_get? reached]
  exact positions_execute processor _

theorem length_positions (events : List Event) :
    (events.filterMap Event.executedAt?).length = executedIn events := by
  rw [List.length_filterMap_eq_countP, executedIn]
  congr 1
  funext event
  cases event <;> rfl

/-! ## Whole runs -/

section Loop

variable {program : Program} {poll : Nat → Bool} {executed : Nat} {processor : Processor}
  {run : Run}

/-- One more instruction in front adds to the report what it adds to the events. -/
theorem records_after (inside : (step program processor).outcome ≠ .endOfProgram)
    (before : run.report.retired = executedIn run.events ∧
      ∀ fault, run.report.faults fault = faultsIn fault run.events) :
    (run.after (step program processor)).report.retired =
        executedIn (run.after (step program processor)).events ∧
      ∀ fault, (run.after (step program processor)).report.faults fault =
        faultsIn fault (run.after (step program processor)).events := by
  obtain ⟨once, faulted⟩ := records_step inside
  refine ⟨?_, fun fault => ?_⟩
  · rw [Run.after, Report.retired_count inside, executedIn_append, once, before.1, Nat.add_comm]
  · rw [Run.after, Report.faults_count, faultsIn_append, faulted, before.2]

/-- The report of a run counts its events. -/
theorem Loop.records (loop : Loop program poll executed processor run) :
    run.report.retired = executedIn run.events ∧
      ∀ fault, run.report.faults fault = faultsIn fault run.events := by
  -- A run that stops at once reports nothing and records nothing.
  have stopped : ∀ (processor : Processor) (exit : Exit),
      (Run.stop processor exit).report.retired = executedIn (Run.stop processor exit).events ∧
        ∀ fault, (Run.stop processor exit).report.faults fault =
          faultsIn fault (Run.stop processor exit).events :=
    fun _ _ => ⟨rfl, fun fault => by cases fault <;> rfl⟩
  induction loop with
  | exhausted _ => exact ⟨rfl, fun fault => by cases fault <;> rfl⟩
  | halted halts =>
    refine records_after ?_ (stopped _ _)
    rw [halts]
    nofun
  | preempted inside _ _ => exact records_after inside (stopped _ _)
  | round inside _ _ _ ih => exact records_after inside ih

/-- A run executes the instructions from its start on in the order of the program text. -/
theorem Loop.positions (loop : Loop program poll executed processor run) :
    run.events.filterMap Event.executedAt? = List.range' processor.pc run.report.retired := by
  induction loop with
  | exhausted _ => rfl
  | @halted _ processor halts =>
    have inside : (step program processor).outcome ≠ .endOfProgram := by
      rw [halts]
      nofun
    simp only [Run.after, Run.stop, List.append_nil, Report.retired_count inside]
    exact positions_step inside
  | preempted inside _ _ =>
    simp only [Run.after, Run.stop, List.append_nil, Report.retired_count inside]
    exact positions_step inside
  | round inside _ _ _ ih =>
    have inside' := inside
    rw [ne_eq, outcome_eq_endOfProgram_iff, Nat.not_le] at inside'
    simp only [Run.after, List.filterMap_append, positions_step inside, ih,
      Report.retired_count inside, List.range'_succ, next_pc inside', List.singleton_append]

/-- So do the first events of a run. -/
theorem Loop.positions_of_first (loop : Loop program poll executed processor run)
    {recorded : List Event} (first : recorded <+: run.events) :
    recorded.filterMap Event.executedAt? = List.range' processor.pc (executedIn recorded) := by
  obtain ⟨rest, whole⟩ := first
  have positions := loop.positions
  rw [← whole, List.filterMap_append, eq_comm, List.range'_eq_append_iff] at positions
  obtain ⟨count, _, here, _⟩ := positions
  have length := congrArg List.length here
  rw [length_positions, List.length_range'] at length
  rw [here, length]

end Loop

end TimeShare.Processor
