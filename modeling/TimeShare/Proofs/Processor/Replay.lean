import TimeShare.Proofs.Processor.Records
import TimeShare.Proofs.Processor.Refinement
import TimeShare.Proofs.Processor.Transcript

/-!
# Replaying a run

What a run records is enough to follow it: `Image.replay` changes the bare fields
of a processor as an event says, and the events of a run lead from the fields of
the state where it began to those of the state that it left.

* `Tells` says what is recorded of one instruction: its result, and in front of it
  at most one event.
* `Loop.occurs`: every event of a run is one of these, in the state of as many steps
  as instructions are executed before it; or it is the last event, at the end of the
  program.
* `events_faithful` puts together what the events say of a run and of its report.
-/

namespace TimeShare.Processor

/-! ## Images -/

/-- The fields of a processor, with nothing that ties them together. -/
@[ext]
structure Image where
  registers : RegisterFile
  pc : Nat
  /-- The number of the slot that the next push fills. -/
  sp : Int
  slots : Vector Int32 stackSize
  memory : Vector UInt8 memorySize

def image (processor : Processor) : Image where
  registers := processor.registers
  pc := processor.pc
  sp := processor.stackPointer
  slots := processor.stack.slots
  memory := processor.memory

/-- The image after an event: a pushed value goes into the slot above the new pointer, and an
executed instruction moves on by one and puts its result, if it has one, into its register. -/
def Image.replay (image : Image) : Event → Image
  | .executed _ instruction result =>
    match instruction.target?, result with
    | some rd, some value =>
      { image with registers := image.registers.set rd value rd.isLt, pc := image.pc + 1 }
    | _, _ => { image with pc := image.pc + 1 }
  | .pushed _ value sp =>
    { image with sp, slots := image.slots.setIfInBounds (sp + 1).toNat value }
  | .popped _ _ sp => { image with sp }
  | _ => image

variable {program : Program} {poll : Nat → Bool} {executed steps : Nat}
  {processor before after : Processor} {run : Run} {instruction : Instruction}
  {aside : Option Event} {result : Option Int32} {event : Event} {earlier later : List Event}

/-- A processor has no more to it than its image. -/
theorem image_injective : Function.Injective image := by
  intro first second same
  obtain ⟨registers, pc, ⟨slots, depth, bound⟩, memory⟩ := first
  obtain ⟨registers', pc', ⟨slots', depth', bound'⟩, memory'⟩ := second
  simp only [image, stackPointer, Stack.pointer, Image.mk.injEq] at same
  obtain ⟨rfl, rfl, pointers, rfl, rfl⟩ := same
  obtain rfl : depth = depth' := by omega
  rfl

/-- A push fills the slot above the pointer that it leaves. -/
theorem slots_push {stack pushed : Stack} {value : Int32} (h : stack.push value = .ok pushed) :
    pushed.slots = stack.slots.setIfInBounds (pushed.pointer + 1).toNat value := by
  unfold Stack.push at h
  split at h
  · rename_i room
    injection h with h
    subst h
    have slot : (((stackSize : Int) - 1 - (stack.depth + 1 : Nat)) + 1).toNat =
        stackSize - 1 - stack.depth := by
      have below : stackSize = 256 := rfl
      omega
    refine Vector.ext fun i inside => ?_
    rw [Stack.pointer, slot, Vector.getElem_set, Vector.getElem_setIfInBounds]
  · cases h

theorem slots_pop {stack popped : Stack} {value : Int32} (h : stack.pop = .ok (value, popped)) :
    popped.slots = stack.slots := by
  unfold Stack.pop at h
  split at h
  · injection h with h
    obtain ⟨_, rfl⟩ := Prod.mk.inj h
    rfl
  · cases h

/-! ## One instruction -/

/-- What is recorded of an instruction that leaves some state, apart from moving on: the event that
stands in front, if there is one, and the result. -/
inductive Tells (before : Processor) : Instruction → Processor → Option Event → Option Int32 → Prop
  | load (rd : Register) (imm : Int32) :
    Tells before (.load rd imm) (before.write rd imm) none (some imm)
  | arith (op : ArithOp) (rd lhs rhs : Register) {value : Int32} :
    op.apply (before.read lhs) (before.read rhs) = value →
    Tells before (.arith op rd lhs rhs) (before.write rd value) none (some value)
  | push {rs : Register} {stack : Stack} : before.stack.push (before.read rs) = .ok stack →
    Tells before (.push rs) { before with stack }
      (some (.pushed rs (before.read rs) stack.pointer)) none
  | overflow {rs : Register} : before.stack.push (before.read rs) = .error .overflow →
    Tells before (.push rs) before (some (.stackOverflow before.pc)) none
  | pop {rd : Register} {value : Int32} {stack : Stack} : before.stack.pop = .ok (value, stack) →
    Tells before (.pop rd) ({ before with stack }.write rd value)
      (some (.popped rd value stack.pointer)) (some value)
  | underflow {rd : Register} : before.stack.pop = .error .underflow →
    Tells before (.pop rd) before (some (.stackUnderflow before.pc)) none
  | halt : Tells before .halt before (some (.halted before.pc)) none
  | unknown (text : String) :
    Tells before (.unknown text) before (some (.unknownOpcode before.pc text)) none

theorem execute_tells (processor : Processor) (instruction : Instruction) :
    ∃ after aside result, Tells processor instruction after aside result ∧
      (processor.execute instruction).processor = after.advance ∧
      (processor.execute instruction).events =
        aside.toList ++ [.executed processor.pc instruction result] := by
  cases instruction with
  | load rd imm => exact ⟨_, _, _, .load rd imm, rfl, rfl⟩
  | arith op rd lhs rhs => exact ⟨_, _, _, .arith op rd lhs rhs rfl, rfl, rfl⟩
  | push rs =>
    simp only [execute, push]
    cases pushed : processor.stack.push (processor.read rs) with
    | error fault =>
      obtain ⟨_, rfl⟩ := Stack.push_eq_error_iff.1 pushed
      exact ⟨_, _, _, .overflow pushed, rfl, rfl⟩
    | ok stack => exact ⟨_, _, _, .push pushed, rfl, rfl⟩
  | pop rd =>
    simp only [execute, pop]
    cases popped : processor.stack.pop with
    | error fault =>
      obtain ⟨_, rfl⟩ := Stack.pop_eq_error_iff.1 popped
      exact ⟨_, _, _, .underflow popped, rfl, rfl⟩
    | ok taken => exact ⟨_, _, _, .pop popped, rfl, rfl⟩
  | halt => exact ⟨_, _, _, .halt, rfl, rfl⟩
  | unknown text =>
    have written : (Instruction.unknown text).text = text := String.ofList_toList
    refine ⟨_, _, _, .unknown text, rfl, ?_⟩
    rw [execute, passOver, Fault.event, written]
    rfl

/-- The event in front and the executed instruction replay what the instruction did. -/
theorem Tells.replay (tells : Tells before instruction after aside result) :
    (aside.toList ++ [Event.executed before.pc instruction result]).foldl Image.replay
        before.image =
      after.advance.image := by
  cases tells with
  | load rd imm => rfl
  | arith op rd lhs rhs _ => rfl
  | push pushed => exact Image.ext rfl rfl rfl (slots_push pushed).symm rfl
  | overflow _ => rfl
  | pop popped => exact Image.ext rfl rfl rfl (slots_pop popped).symm rfl
  | underflow _ => rfl
  | halt => rfl
  | unknown text => rfl

/-- The event in front is not that of an executed instruction. -/
theorem Tells.executedIn_aside (tells : Tells before instruction after aside result) :
    executedIn aside.toList = 0 := by
  cases tells <;> rfl

/-! ## The result and the event in front -/

/-- The instructions that write a register: `LOAD`, arithmetic, and `POP` with a value on the
stack. -/
inductive Writes (before : Processor) : Instruction → Register → Int32 → Prop
  | load (rd : Register) (imm : Int32) : Writes before (.load rd imm) rd imm
  | arith (op : ArithOp) (rd lhs rhs : Register) :
    Writes before (.arith op rd lhs rhs) rd (op.apply (before.read lhs) (before.read rhs))
  | pop {rd : Register} {value : Int32} {rest : List Int32} :
    before.stack.toList = value :: rest → Writes before (.pop rd) rd value

/-- The result of an instruction between two states: the value that it wrote, and none if it wrote
no register. -/
inductive IsResult (before : Processor) (instruction : Instruction) (after : Processor) :
    Option Int32 → Prop
  | written {rd : Register} {value : Int32} : Writes before instruction rd value →
    after.registers = before.registers.set rd value rd.isLt →
    IsResult before instruction after (some value)
  | none : (∀ rd value, ¬ Writes before instruction rd value) →
    after.registers = before.registers → IsResult before instruction after none

/-- The events that stand in front of an executed instruction, which it had between two states. A
pushed value is that of the register pushed, and a popped value is what the register has after. -/
inductive Announces (before : Processor) : Event → Instruction → Processor → Prop
  | pushed {rs : Register} {after : Processor} :
    after.stack.toList = before.read rs :: before.stack.toList →
    Announces before (.pushed rs (before.read rs) after.stackPointer) (.push rs) after
  | popped {rd : Register} {after : Processor} :
    before.stack.toList = after.read rd :: after.stack.toList →
    Announces before (.popped rd (after.read rd) after.stackPointer) (.pop rd) after
  | stackOverflow {rs : Register} {after : Processor} : before.stack.toList.length = stackSize →
    Announces before (.stackOverflow before.pc) (.push rs) after
  | stackUnderflow {rd : Register} {after : Processor} : before.stack.toList = [] →
    Announces before (.stackUnderflow before.pc) (.pop rd) after
  | unknownOpcode {text : String} {after : Processor} :
    Announces before (.unknownOpcode before.pc text) (.unknown text) after
  | halted {after : Processor} : Announces before (.halted before.pc) .halt after

theorem Tells.isResult (tells : Tells before instruction after aside result) :
    IsResult before instruction after.advance result := by
  cases tells with
  | load rd imm => exact .written (.load rd imm) rfl
  | arith op rd lhs rhs value =>
    subst value
    exact .written (.arith op rd lhs rhs) rfl
  | push _ => exact .none nofun rfl
  | overflow _ => exact .none nofun rfl
  | pop popped => exact .written (.pop (Stack.toList_pop popped)) rfl
  | underflow fails =>
    obtain ⟨empty, _⟩ := Stack.pop_eq_error_iff.1 fails
    refine .none (fun rd value writes => ?_) rfl
    cases writes with
    | pop held => cases empty.symm.trans held
  | halt => exact .none nofun rfl
  | unknown text => exact .none nofun rfl

theorem Tells.announces (tells : Tells before instruction after (some event) result) :
    Announces before event instruction after.advance := by
  cases tells with
  | @push rs stack pushed =>
    exact @Announces.pushed before rs { before with stack }.advance (Stack.toList_push pushed)
  | overflow fails => exact .stackOverflow (Stack.push_eq_error_iff.1 fails).1
  | @pop rd value stack popped =>
    have read : ({ before with stack }.write rd value).advance.read rd = value :=
      read_write_self { before with stack } rd value
    have announces : Announces before (.popped rd _ stack.pointer) (.pop rd)
        ({ before with stack }.write rd value).advance :=
      .popped (by rw [read]; exact Stack.toList_pop popped)
    rwa [read] at announces
  | underflow fails => exact .stackUnderflow (Stack.pop_eq_error_iff.1 fails).1
  | halt => exact .halted
  | unknown text => exact .unknownOpcode

/-! ## Steps -/

theorem step_tells (inside : processor.pc < program.size) :
    ∃ instruction after aside result, program.get? processor.pc = some instruction ∧
      Tells processor instruction after aside result ∧ next program processor = after.advance ∧
      (step program processor).events =
        aside.toList ++ [.executed processor.pc instruction result] := by
  have here : program.get? processor.pc = some program.instructions[processor.pc] :=
    List.getElem?_eq_getElem inside
  obtain ⟨after, aside, result, tells, left, recorded⟩ := execute_tells processor _
  refine ⟨_, after, aside, result, here, tells, ?_, ?_⟩
  · rw [next, step_of_get? here]
    exact left
  · rw [step_of_get? here]
    exact recorded

theorem replay_step (program : Program) (processor : Processor) :
    (step program processor).events.foldl Image.replay processor.image =
      (next program processor).image := by
  rcases Nat.lt_or_ge processor.pc program.size with inside | beyond
  · obtain ⟨_, _, _, _, _, tells, left, recorded⟩ := step_tells inside
    rw [recorded, left]
    exact tells.replay
  · rw [next, step_of_size_le beyond]
    rfl

theorem replay_stepTranscript (program : Program) (steps : Nat) (processor : Processor) :
    (stepTranscript program steps processor).foldl Image.replay processor.image =
      ((next program)^[steps] processor).image := by
  induction steps generalizing processor with
  | zero => rfl
  | succ steps ih =>
    rw [stepTranscript, List.foldl_append, replay_step, ih, Function.iterate_succ_apply]

theorem pc_iterate_next (inside : processor.pc + steps ≤ program.size) :
    ((next program)^[steps] processor).pc = processor.pc + steps := by
  induction steps with
  | zero => rfl
  | succ steps ih =>
    have before := ih (by omega)
    rw [Function.iterate_succ_apply', next_pc (by omega), before, Nat.add_assoc]

/-- As many instructions are recorded as executed as there were steps inside the program. -/
theorem executedIn_stepTranscript (inside : processor.pc + steps ≤ program.size) :
    executedIn (stepTranscript program steps processor) = steps := by
  induction steps generalizing processor with
  | zero => rfl
  | succ steps ih =>
    have here : processor.pc < program.size := by omega
    have not_ended : (step program processor).outcome ≠ .endOfProgram := by
      rw [ne_eq, outcome_eq_endOfProgram_iff, Nat.not_le]
      exact here
    rw [stepTranscript, executedIn_append, (records_step not_ended).1,
      ih (by rw [next_pc here]; omega), Nat.add_comm]

/-- What steps record is what one of them records, between what earlier and later ones do. -/
theorem stepTranscript_split
    (split : stepTranscript program steps processor = earlier ++ event :: later) :
    ∃ k < steps, ∃ first second rest,
      (step program ((next program)^[k] processor)).events = first ++ event :: second ∧
        earlier = stepTranscript program k processor ++ first ∧ later = second ++ rest := by
  induction steps generalizing processor earlier with
  | zero => cases (List.append_eq_nil_iff.1 split.symm).2
  | succ steps ih =>
    -- The event is among the later steps once what is in front of it covers the first one.
    have among : ∀ front, earlier = (step program processor).events ++ front →
        stepTranscript program steps (next program processor) = front ++ event :: later →
        ∃ k < steps + 1, ∃ first second rest,
          (step program ((next program)^[k] processor)).events = first ++ event :: second ∧
            earlier = stepTranscript program k processor ++ first ∧ later = second ++ rest := by
      intro front before behind
      obtain ⟨k, below, first, second, rest, here, front_eq, later_eq⟩ := ih behind
      refine ⟨k + 1, Nat.succ_lt_succ below, first, second, rest, ?_, ?_, later_eq⟩
      · rw [Function.iterate_succ_apply]
        exact here
      · rw [before, front_eq, stepTranscript, List.append_assoc]
    rw [stepTranscript] at split
    rcases List.append_eq_append_iff.1 split with ⟨front, before, behind⟩ | ⟨tail, first, behind⟩
    · exact among front before behind
    · cases tail with
      | nil => exact among [] (by rw [first, List.append_nil, List.append_nil]) behind.symm
      | cons head second =>
        obtain ⟨rfl, rfl⟩ := List.cons.inj behind
        exact ⟨0, Nat.succ_pos _, earlier, second, _, first, rfl, rfl⟩

/-! ## Runs -/

/-- An event of a run, by the state in which it occurs and the events after it: that of an executed
instruction with its result; or one that stands directly in front of the executed instruction that
it is about; or the last one, at the end of the program. -/
inductive Occurs (program : Program) (before : Processor) (run : Run) : Event → List Event → Prop
  | executed {instruction : Instruction} {result : Option Int32} {later : List Event} :
    program.get? before.pc = some instruction →
    IsResult before instruction (next program before) result →
    Occurs program before run (.executed before.pc instruction result) later
  | announced {event : Event} {instruction : Instruction} {result : Option Int32}
    {later : List Event} : program.get? before.pc = some instruction →
    Announces before event instruction (next program before) →
    Occurs program before run event (.executed before.pc instruction result :: later)
  | exhausted : run.report.exit = .exhausted →
    Occurs program before run (.exhausted run.processor.pc) []

theorem aside_split {last : Event} {first second : List Event}
    (split : aside.toList ++ [last] = first ++ event :: second) :
    first = aside.toList ∧ event = last ∨ aside = some event ∧ first = [] ∧ second = [last] := by
  cases first with
  | nil =>
    cases aside with
    | none => exact .inl ⟨rfl, (List.cons.inj split).1.symm⟩
    | some announced =>
      obtain ⟨rfl, rfl⟩ := List.cons.inj split
      exact .inr ⟨rfl, rfl, rfl⟩
  | cons head first =>
    cases aside with
    | none => cases (List.append_eq_nil_iff.1 (List.cons.inj split).2.symm).2
    | some announced =>
      obtain ⟨rfl, rest⟩ := List.cons.inj split
      cases first with
      | nil => exact .inl ⟨rfl, (List.cons.inj rest).1.symm⟩
      | cons _ first => cases (List.append_eq_nil_iff.1 (List.cons.inj rest).2.symm).2

theorem exhaustion_split {exit : Exit} {pc : Nat} {first : List Event}
    (split : exhaustion (some exit) pc = first ++ event :: later) :
    exit = .exhausted ∧ event = .exhausted pc ∧ later = [] := by
  unfold exhaustion at split
  split at split
  · rename_i ended
    cases first with
    | nil =>
      obtain ⟨rfl, rfl⟩ := List.cons.inj split
      exact ⟨Option.some.inj ended, rfl, rfl⟩
    | cons _ first => cases (List.append_eq_nil_iff.1 (List.cons.inj split).2.symm).2
  · cases (List.append_eq_nil_iff.1 split.symm).2

section Loop

/-- The instructions that a run executes are in the program. -/
theorem Loop.inside (loop : Loop program poll executed processor run) {k : Nat}
    (below : k < run.report.retired) : processor.pc + k < program.size := by
  have stop := loop.pc_le
  rw [loop.pc] at stop
  omega

theorem Loop.replay (loop : Loop program poll executed processor run) :
    run.events.foldl Image.replay processor.image = run.processor.image := by
  rw [loop.transcript, List.foldl_append, replay_stepTranscript, ← loop.state, exhaustion]
  split <;> rfl

/-- An event of one of the steps of a run. -/
theorem Loop.occurs_step (loop : Loop program poll executed processor run)
    (split : stepTranscript program run.report.retired processor = earlier ++ event :: later)
    (behind : List Event) :
    Occurs program ((next program)^[executedIn earlier] processor) run event (later ++ behind) := by
  obtain ⟨k, below, first, second, rest, here, rfl, rfl⟩ := stepTranscript_split split
  have inside := loop.inside below
  have place : ((next program)^[k] processor).pc = processor.pc + k :=
    pc_iterate_next (Nat.le_of_lt inside)
  have count : executedIn (stepTranscript program k processor) = k :=
    executedIn_stepTranscript (Nat.le_of_lt inside)
  obtain ⟨instruction, after, aside, result, reached, tells, left, recorded⟩ :=
    step_tells (place ▸ inside)
  rw [executedIn_append, count]
  rcases aside_split (recorded.symm.trans here) with ⟨rfl, rfl⟩ | ⟨rfl, rfl, rfl⟩
  · rw [tells.executedIn_aside, Nat.add_zero]
    exact .executed reached (left ▸ tells.isResult)
  · rw [executedIn_nil, Nat.add_zero]
    exact .announced reached (left ▸ tells.announces)

theorem Loop.occurs (loop : Loop program poll executed processor run)
    (split : run.events = earlier ++ event :: later) :
    Occurs program ((next program)^[executedIn earlier] processor) run event later := by
  have atEnd : ∀ first,
      exhaustion (some run.report.exit) run.processor.pc = first ++ event :: later →
      Occurs program ((next program)^[executedIn earlier] processor) run event later := by
    intro first ends
    obtain ⟨ended, rfl, rfl⟩ := exhaustion_split ends
    exact .exhausted ended
  rw [loop.transcript] at split
  rcases List.append_eq_append_iff.1 split with ⟨front, _, ends⟩ | ⟨tail, whole, behind⟩
  · exact atEnd front ends
  · cases tail with
    | nil => exact atEnd [] behind.symm
    | cons head tail =>
      obtain ⟨rfl, rfl⟩ := List.cons.inj behind
      exact loop.occurs_step whole _

/-- A step records a halt if its instruction is `HALT`. -/
theorem halted_mem_step_iff (inside : (step program processor).outcome ≠ .endOfProgram) :
    (∃ pc, .halted pc ∈ (step program processor).events) ↔
      (step program processor).outcome = .halted := by
  rw [ne_eq, outcome_eq_endOfProgram_iff, Nat.not_le] at inside
  obtain ⟨instruction, after, aside, result, reached, tells, _, recorded⟩ := step_tells inside
  rw [outcome_eq_halted_iff, reached, recorded]
  cases tells <;> simp

theorem Loop.halted_mem_iff (loop : Loop program poll executed processor run) :
    (∃ pc, .halted pc ∈ run.events) ↔ run.report.exit = .halted := by
  induction loop with
  | exhausted _ => simp [Report.stop]
  | @halted _ processor halts =>
    have inside : (step program processor).outcome ≠ .endOfProgram := by
      rw [halts]
      nofun
    simp only [Run.after, Run.stop, List.append_nil, halted_mem_step_iff inside,
      Report.count_exit, Report.stop, halts]
  | preempted inside goes_on _ =>
    simp only [Run.after, Run.stop, List.append_nil, halted_mem_step_iff inside,
      Report.count_exit, Report.stop, goes_on, reduceCtorEq]
  | round inside goes_on _ _ ih =>
    have unheard := mt (halted_mem_step_iff inside).1 goes_on
    simp only [Run.after, List.mem_append, exists_or, unheard, false_or, Report.count_exit, ih]

theorem Loop.exhausted_mem_iff (loop : Loop program poll executed processor run) :
    (∃ pc, .exhausted pc ∈ run.events) ↔ run.report.exit = .exhausted := by
  constructor
  · rintro ⟨pc, mem⟩
    obtain ⟨earlier, later, split⟩ := List.append_of_mem mem
    cases loop.occurs split with
    | announced _ announces => cases announces
    | exhausted ended => exact ended
  · intro ended
    refine ⟨run.processor.pc, ?_⟩
    rw [loop.transcript, ended]
    exact List.mem_append_right _ List.mem_cons_self

end Loop

/-- What the events of a run from some state tell of it. -/
structure Faithful (program : Program) (processor : Processor) (run : Run) : Prop where
  /-- They lead from the fields of that state to those of the state that the run left. -/
  replay : ∀ after : Processor,
    run.events.foldl Image.replay processor.image = after.image ↔ after = run.processor
  /-- Each has its place, in the state of as many steps as instructions are executed before it. -/
  occurs : ∀ earlier event later, run.events = earlier ++ event :: later →
    Occurs program ((next program)^[executedIn earlier] processor) run event later
  retired : run.report.retired = executedIn run.events
  faults : ∀ fault, run.report.faults fault = faultsIn fault run.events
  halted : (∃ pc, .halted pc ∈ run.events) ↔ run.report.exit = .halted
  exhausted : (∃ pc, .exhausted pc ∈ run.events) ↔ run.report.exit = .exhausted

/-- The events of every run are faithful, whatever its program, its start and its flag. -/
theorem events_faithful (program : Program) (poll : Nat → Bool) (processor : Processor) :
    Faithful program processor (processor.run program poll) := by
  have loop := loop_run program poll processor
  have records := loop.records
  refine ⟨fun after => ?_, fun _ _ _ => loop.occurs, records.1, records.2, loop.halted_mem_iff,
    loop.exhausted_mem_iff⟩
  rw [loop.replay]
  exact ⟨fun same => (image_injective same).symm, fun same => same ▸ rfl⟩

end TimeShare.Processor
