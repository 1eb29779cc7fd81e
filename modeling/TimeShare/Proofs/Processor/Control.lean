import TimeShare.Preemption.Interruption
import TimeShare.Proofs.Processor.Straight

/-!
# Control without data

Where a processor goes and which faults it meets is decided by the kinds of the
instructions alone: arithmetic and loads never fault, and the stack is full or
empty whatever it holds.

* `Abreast`: two processors are at one position, with stacks of one depth.
  `execute_abreast`: instructions of one kind keep them so.
* `run_abreast`: so do runs of programs with the same kinds of instructions,
  with the same reports. `carryOut_abreast`: and contexts end alike.
-/

namespace TimeShare

/-- What control depends on in an instruction. -/
inductive Instruction.Kind
  /-- It changes a register and nothing else. -/
  | register
  | push
  | pop
  | halt
  | unknown
  deriving DecidableEq

def Instruction.kind : Instruction → Instruction.Kind
  | load _ _ => .register
  | arith _ _ _ _ => .register
  | push _ => .push
  | pop _ => .pop
  | halt => .halt
  | unknown _ => .unknown

/-- The kinds of the instructions of a program, in order. -/
def Program.kinds (program : Program) : List Instruction.Kind :=
  program.instructions.map Instruction.kind

namespace Processor

/-- An event without the instruction, the register, the value and the text that it tells of. -/
def Event.outline : Event → Event
  | executed pc _ _ => executed pc .halt none
  | pushed _ _ sp => pushed (Fin.last 7) 0 sp
  | popped _ _ sp => popped (Fin.last 7) 0 sp
  | unknownOpcode pc _ => unknownOpcode pc ""
  | event => event

/-- Two processors are at one position, with stacks of one depth. -/
structure Abreast (first second : Processor) : Prop where
  pc : first.pc = second.pc
  depth : first.stack.depth = second.stack.depth

/-- Two runs leave processors abreast, with one report, and record events that differ in data
only. -/
structure Run.Abreast (first second : Run) : Prop where
  processor : first.processor.Abreast second.processor
  report : first.report = second.report
  events : first.events.map Event.outline = second.events.map Event.outline

variable {processor processor' : Processor}

theorem Abreast.stackPointer (abreast : processor.Abreast processor') :
    processor.stackPointer = processor'.stackPointer := by
  rw [Processor.stackPointer, Stack.pointer, abreast.depth, Processor.stackPointer, Stack.pointer]

theorem Abreast.advance (abreast : processor.Abreast processor') :
    processor.advance.Abreast processor'.advance :=
  ⟨congrArg (· + 1) abreast.pc, abreast.depth⟩

end Processor

/-! ## The stack -/

namespace Stack

variable {stack stack' : Stack}

theorem depth_push {value : Int32} (h : stack.push value = .ok stack') :
    stack'.depth = stack.depth + 1 := by
  rw [← length_toList, toList_push h, List.length_cons, length_toList]

theorem depth_pop {value : Int32} (h : stack.pop = .ok (value, stack')) :
    stack.depth = stack'.depth + 1 := by
  rw [← length_toList, toList_pop h, List.length_cons, length_toList]

/-- Whether a push succeeds and how deep it leaves the stack depends on the depth only. -/
theorem push_cases (same : stack.depth = stack'.depth) (value value' : Int32) :
    (stack.push value = .error .overflow ∧ stack'.push value' = .error .overflow) ∨
      ∃ pushed pushed', stack.push value = .ok pushed ∧ stack'.push value' = .ok pushed' ∧
        pushed.depth = pushed'.depth := by
  cases here : stack.push value with
  | error fault =>
    obtain ⟨full, rfl⟩ := push_eq_error_iff.1 here
    rw [length_toList, same, ← length_toList] at full
    exact .inl ⟨rfl, push_eq_error_iff.2 ⟨full, rfl⟩⟩
  | ok pushed =>
    cases there : stack'.push value' with
    | error fault =>
      obtain ⟨full, rfl⟩ := push_eq_error_iff.1 there
      rw [length_toList, ← same, ← length_toList] at full
      cases here.symm.trans (push_eq_error_iff.2 ⟨full, rfl⟩)
    | ok pushed' =>
      exact .inr ⟨pushed, pushed', rfl, rfl, by rw [depth_push here, depth_push there, same]⟩

/-- Whether a pop succeeds and how deep it leaves the stack depends on the depth only. -/
theorem pop_cases (same : stack.depth = stack'.depth) :
    (stack.pop = .error .underflow ∧ stack'.pop = .error .underflow) ∨
      ∃ value value' popped popped', stack.pop = .ok (value, popped) ∧
        stack'.pop = .ok (value', popped') ∧ popped.depth = popped'.depth := by
  rw [← length_toList, ← length_toList] at same
  cases here : stack.pop with
  | error fault =>
    obtain ⟨empty, rfl⟩ := pop_eq_error_iff.1 here
    rw [empty, eq_comm, List.length_nil, List.length_eq_zero_iff] at same
    exact .inl ⟨rfl, pop_eq_error_iff.2 ⟨same, rfl⟩⟩
  | ok taken =>
    cases there : stack'.pop with
    | error fault =>
      obtain ⟨empty, rfl⟩ := pop_eq_error_iff.1 there
      rw [empty, List.length_nil, List.length_eq_zero_iff] at same
      cases here.symm.trans (pop_eq_error_iff.2 ⟨same, rfl⟩)
    | ok taken' =>
      refine .inr ⟨_, _, _, _, rfl, rfl, ?_⟩
      rw [length_toList, length_toList, depth_pop here, depth_pop there] at same
      exact Nat.succ_inj.1 same

end Stack

namespace Processor

variable {processor processor' : Processor}

/-! ## Instructions -/

/-- Two instructions end alike and leave processors abreast. -/
structure Effect.Abreast (first second : Effect) : Prop where
  outcome : first.outcome = second.outcome
  processor : first.processor.Abreast second.processor
  events : first.events.map Event.outline = second.events.map Event.outline

section Execute

variable {instruction instruction' : Instruction}

theorem retire_abreast {after after' : Processor} {result result' : Option Int32}
    {events events' : List Event} (abreast : processor.Abreast processor')
    (left : after.Abreast after')
    (same : events.map Event.outline = events'.map Event.outline) :
    (processor.retire instruction after result events).Abreast
      (processor'.retire instruction' after' result' events') where
  outcome := rfl
  processor := left.advance
  events := by
    rw [retire, retire, List.map_append, List.map_append, same, abreast.pc]
    rfl

theorem passOver_abreast (abreast : processor.Abreast processor') (fault : Fault) :
    (processor.passOver instruction fault).Abreast
      (processor'.passOver instruction' fault) where
  outcome := rfl
  processor := abreast.advance
  events := by
    rw [passOver, passOver, abreast.pc]
    cases fault <;> rfl

/-- An instruction of the register kind writes a value and does nothing else. -/
theorem execute_register (processor : Processor) (kind : instruction.kind = .register) :
    ∃ rd value, processor.execute instruction =
      processor.retire instruction (processor.write rd value) (some value) [] := by
  cases instruction with
  | load rd imm => exact ⟨rd, imm, rfl⟩
  | arith op rd lhs rhs => exact ⟨rd, _, rfl⟩
  | push rs => cases kind
  | pop rd => cases kind
  | halt => cases kind
  | unknown text => cases kind

/-- Instructions of one kind end alike and keep processors abreast. -/
theorem execute_abreast (abreast : processor.Abreast processor')
    (kind : instruction.kind = instruction'.kind) :
    (processor.execute instruction).Abreast (processor'.execute instruction') := by
  have writes : instruction.kind = .register →
      (processor.execute instruction).Abreast (processor'.execute instruction') := by
    intro register
    obtain ⟨rd, value, here⟩ := execute_register processor register
    obtain ⟨rd', value', there⟩ := execute_register processor' (kind.symm.trans register)
    rw [here, there]
    exact retire_abreast abreast ⟨abreast.pc, abreast.depth⟩ rfl
  cases instruction with
  | load rd imm => exact writes rfl
  | arith op rd lhs rhs => exact writes rfl
  | push rs =>
    cases instruction' with
    | push rs' =>
      rw [execute, execute]
      rcases Stack.push_cases abreast.depth (processor.read rs) (processor'.read rs') with
        ⟨full, full'⟩ | ⟨pushed, pushed', room, room', depth⟩
      · simp only [push, full, full']
        exact passOver_abreast abreast _
      · simp only [push, room, room']
        have left : Abreast { processor with stack := pushed } { processor' with stack := pushed' } :=
          ⟨abreast.pc, depth⟩
        refine retire_abreast abreast left ?_
        simp only [List.map_cons, List.map_nil, Event.outline]
        rw [left.stackPointer]
    | _ => cases kind
  | pop rd =>
    cases instruction' with
    | pop rd' =>
      rw [execute, execute]
      rcases Stack.pop_cases abreast.depth with
        ⟨empty, empty'⟩ | ⟨value, value', popped, popped', held, held', depth⟩
      · simp only [pop, empty, empty']
        exact passOver_abreast abreast _
      · simp only [pop, held, held']
        have left : Abreast { processor with stack := popped } { processor' with stack := popped' } :=
          ⟨abreast.pc, depth⟩
        refine retire_abreast abreast ⟨left.pc, left.depth⟩ ?_
        simp only [List.map_cons, List.map_nil, Event.outline]
        rw [left.stackPointer]
    | _ => cases kind
  | halt =>
    cases instruction' with
    | halt =>
      refine ⟨rfl, abreast.advance, ?_⟩
      simp only [execute, List.map_cons, List.map_nil, Event.outline, abreast.pc]
    | _ => cases kind
  | unknown text =>
    cases instruction' with
    | unknown text' => exact passOver_abreast abreast .unknownOpcode
    | _ => cases kind

end Execute

/-! ## Runs -/

theorem Run.Abreast.after {run run' : Run} {effect effect' : Effect}
    (abreast : run.Abreast run') (first : effect.Abreast effect') :
    (run.after effect).Abreast (run'.after effect') where
  processor := abreast.processor
  report := by rw [Run.after, Run.after, abreast.report, first.outcome]
  events := by
    rw [Run.after, Run.after, List.map_append, List.map_append, first.events, abreast.events]

theorem stop_abreast (abreast : processor.Abreast processor') (exit : Exit) :
    (Run.stop processor exit).Abreast (Run.stop processor' exit) :=
  ⟨abreast, rfl, rfl⟩

/-- Instructions of the same kinds, one after another, keep processors abreast. -/
theorem runFrom_abreast (poll : Nat → Bool) {rest rest' : List Instruction}
    (kinds : rest.map Instruction.kind = rest'.map Instruction.kind) (executed : Nat)
    (abreast : processor.Abreast processor') :
    (runFrom poll rest executed processor).Abreast (runFrom poll rest' executed processor') := by
  induction rest generalizing rest' executed processor processor' with
  | nil =>
    obtain rfl : rest' = [] := List.map_eq_nil_iff.1 kinds.symm
    refine ⟨abreast, rfl, ?_⟩
    rw [runFrom, runFrom, abreast.pc]
  | cons instruction rest ih =>
    cases rest' with
    | nil => cases kinds
    | cons instruction' rest' =>
      obtain ⟨kind, later⟩ := List.cons.inj kinds
      have first := execute_abreast abreast kind
      simp only [runFrom]
      rw [← first.outcome]
      split
      · exact (stop_abreast first.processor _).after first
      · split
        · exact (stop_abreast first.processor _).after first
        · exact (ih later _ first.processor).after first

/-- Runs of programs with the same kinds of instructions keep processors abreast. -/
theorem run_abreast {program program' : Program} (kinds : program.kinds = program'.kinds)
    (poll : Nat → Bool) (abreast : processor.Abreast processor') :
    (processor.run program poll).Abreast (processor'.run program' poll) := by
  refine runFrom_abreast poll ?_ 0 abreast
  rw [List.map_drop, List.map_drop, abreast.pc]
  exact congrArg (List.drop processor'.pc) kinds

/-- A step of programs with the same kinds of instructions keeps processors abreast. -/
theorem next_abreast {program program' : Program} (kinds : program.kinds = program'.kinds)
    (abreast : processor.Abreast processor') :
    (next program processor).Abreast (next program' processor') := by
  have here : (program.get? processor.pc).map Instruction.kind =
      (program'.get? processor'.pc).map Instruction.kind := by
    rw [Program.get?, Program.get?, ← List.getElem?_map, ← List.getElem?_map, abreast.pc]
    exact congrArg (·[processor'.pc]?) kinds
  rw [next, next, step, step]
  cases reached : program.get? processor.pc with
  | none =>
    rw [reached, Option.map_none, eq_comm, Option.map_eq_none_iff] at here
    rw [here]
    exact abreast
  | some instruction =>
    rw [reached, Option.map_some, eq_comm, Option.map_eq_some_iff] at here
    obtain ⟨instruction', reached', kind⟩ := here
    rw [reached']
    exact (execute_abreast abreast kind.symm).processor

/-- Programs with the same kinds of instructions are abreast after as many steps. -/
theorem stateAt_abreast {program program' : Program} (kinds : program.kinds = program'.kinds)
    (steps : Nat) : (program.stateAt steps).Abreast (program'.stateAt steps) := by
  induction steps with
  | zero => exact ⟨rfl, rfl⟩
  | succ steps ih =>
    rw [Program.stateAt, Program.stateAt, Function.iterate_succ_apply',
      Function.iterate_succ_apply']
    exact next_abreast kinds ih

end Processor

/-! ## Contexts -/

/-- Two contexts end alike, with runs that are abreast. -/
inductive ContextEnd.Abreast : ContextEnd → ContextEnd → Prop
  | joined {run run' : Processor.Run} (raised : Bool) : run.Abreast run' →
    Abreast (.joined run raised) (.joined run' raised)
  | lost {recorded recorded' : List Processor.Event} :
    recorded.map Processor.Event.outline = recorded'.map Processor.Event.outline →
    Abreast (.lost recorded) (.lost recorded')

namespace Interruption

/-- Where a breakdown comes depends on nothing but the outlines of the events. -/
theorem recordedBefore_map_outline (executed further : Nat) (events : List Processor.Event) :
    recordedBefore executed further (events.map Processor.Event.outline) =
      (recordedBefore executed further events).map (List.map Processor.Event.outline) := by
  have kept : ∀ event : Processor.Event, event.outline.isExecuted = event.isExecuted := by
    intro event
    cases event <;> rfl
  induction events generalizing executed further with
  | nil =>
    cases executed with
    | zero => cases further <;> rfl
    | succ executed => rfl
  | cons event rest ih =>
    cases executed with
    | zero =>
      cases further with
      | zero => rfl
      | succ further =>
        rw [List.map_cons, recordedBefore, recordedBefore, ih, Option.map_map, Option.map_map]
        rfl
    | succ executed =>
      rw [List.map_cons, recordedBefore, recordedBefore, ih, kept, Option.map_map, Option.map_map]
      rfl

/-- Contexts of programs with the same kinds of instructions end alike under every interruption. -/
theorem carryOut_abreast (interruption : Interruption) {program program' : Program}
    {processor processor' : Processor} (kinds : program.kinds = program'.kinds)
    (abreast : processor.Abreast processor') :
    (interruption.carryOut program processor).Abreast
      (interruption.carryOut program' processor') := by
  have runs := Processor.run_abreast kinds interruption.poll abreast
  cases interruption with
  | none => exact .joined false runs
  | expiry executed =>
    rw [carryOut, carryOut, runs.report]
    exact .joined _ runs
  | breakdown executed further =>
    have same := recordedBefore_map_outline executed further
      (processor.run program (breakdown executed further).poll).events
    rw [runs.events, recordedBefore_map_outline] at same
    rw [carryOut, carryOut]
    cases here : recordedBefore executed further
        (processor.run program (breakdown executed further).poll).events with
    | none =>
      rw [here, Option.map_none, Option.map_eq_none_iff] at same
      rw [same]
      exact .joined false runs
    | some recorded =>
      rw [here, Option.map_some, Option.map_eq_some_iff] at same
      obtain ⟨recorded', there, outlines⟩ := same
      rw [there]
      exact .lost outlines.symm

end Interruption

end TimeShare
