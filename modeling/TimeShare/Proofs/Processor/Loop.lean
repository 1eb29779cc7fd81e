import Mathlib.Logic.Function.Iterate
import TimeShare.Processor.Run

/-!
# Runs as loops over steps

`Processor.run` recurses on the instructions that are left. `Loop` is the same
run as a loop: step, look at the outcome, poll the flag, go round again. Its
rules put no bound on the number of rounds and assume nothing of the flag.

* `loop_run`: the loop comes to an end from every state, with the result of
  `Processor.run`; `Loop.unique`: it has no other result.
* `Loop.state`: the state left is that of as many steps as were executed.
* `Loop.course`: why the loop stopped and where, in terms of the program text.
-/

namespace TimeShare

/-- No `HALT` lies between two positions, the first included. -/
def Program.HaltFree (program : Program) (start stop : Nat) : Prop :=
  ∀ i, start ≤ i → i < stop → program.get? i ≠ some .halt

namespace Processor

/-- The state that a step of a program leaves. -/
def next (program : Program) (processor : Processor) : Processor :=
  (step program processor).processor

/-! ## One step and the program text -/

section Step

variable {program : Program} {processor : Processor}

theorem step_of_get? {instruction : Instruction}
    (reached : program.get? processor.pc = some instruction) :
    step program processor = processor.execute instruction := by
  simp only [step, reached]

theorem outcome_eq_endOfProgram_iff :
    (step program processor).outcome = .endOfProgram ↔ program.size ≤ processor.pc := by
  rw [Program.size, ← List.getElem?_eq_none_iff]
  change _ ↔ program.get? processor.pc = none
  cases reached : program.get? processor.pc with
  | none => simp [step, reached]
  | some instruction =>
    rw [step_of_get? reached]
    simp [execute_outcome_ne_endOfProgram]

/-- Only a `HALT` halts. -/
theorem execute_outcome_eq_halted_iff {instruction : Instruction} :
    (processor.execute instruction).outcome = .halted ↔ instruction = .halt := by
  cases instruction with
  | load rd imm => simp [execute, retire]
  | arith op rd lhs rhs => simp [execute, retire]
  | push rs =>
    simp only [execute, push]
    cases processor.stack.push (processor.read rs) <;> simp [Except.map, retire, passOver]
  | pop rd =>
    simp only [execute, pop]
    cases processor.stack.pop <;> simp [Except.map, retire, passOver]
  | halt => simp [execute]
  | unknown text => simp [execute, passOver]

theorem outcome_eq_halted_iff :
    (step program processor).outcome = .halted ↔ program.get? processor.pc = some .halt := by
  cases reached : program.get? processor.pc with
  | none => simp [step, reached]
  | some instruction =>
    rw [step_of_get? reached, execute_outcome_eq_halted_iff, Option.some.injEq]

/-- A step inside the program moves on by one position. -/
theorem next_pc (inside : processor.pc < program.size) :
    (next program processor).pc = processor.pc + 1 := by
  have reached : program.get? processor.pc = some program.instructions[processor.pc] :=
    List.getElem?_eq_getElem inside
  rw [next, step_of_get? reached, execute_pc]

end Step

/-! ## The loop -/

/-- A loop over steps, with its result; `executed` counts the rounds made before. -/
inductive Loop (program : Program) (poll : Nat → Bool) : Nat → Processor → Run → Prop
  | exhausted {executed : Nat} {processor : Processor} :
    (step program processor).outcome = .endOfProgram →
    Loop program poll executed processor
      ⟨processor, .stop .exhausted, [.exhausted processor.pc]⟩
  | halted {executed : Nat} {processor : Processor} :
    (step program processor).outcome = .halted →
    Loop program poll executed processor
      ((Run.stop (next program processor) .halted).after (step program processor))
  | preempted {executed : Nat} {processor : Processor} :
    (step program processor).outcome ≠ .endOfProgram →
    (step program processor).outcome ≠ .halted →
    poll (executed + 1) = true →
    Loop program poll executed processor
      ((Run.stop (next program processor) .preempted).after (step program processor))
  | round {executed : Nat} {processor : Processor} {run : Run} :
    (step program processor).outcome ≠ .endOfProgram →
    (step program processor).outcome ≠ .halted →
    poll (executed + 1) = false →
    Loop program poll (executed + 1) (next program processor) run →
    Loop program poll executed processor (run.after (step program processor))

section Loop

variable {program : Program} {poll : Nat → Bool} {executed : Nat} {processor : Processor}
  {run : Run}

theorem loop_runFrom {rest : List Instruction}
    (left : program.instructions.drop processor.pc = rest) :
    Loop program poll executed processor (runFrom poll rest executed processor) := by
  induction rest generalizing executed processor with
  | nil =>
    exact .exhausted (outcome_eq_endOfProgram_iff.2 (List.drop_eq_nil_iff.1 left))
  | cons instruction rest ih =>
    have reached : program.get? processor.pc = some instruction := by
      rw [Program.get?, ← List.head?_drop, left, List.head?_cons]
    have left' : program.instructions.drop (processor.execute instruction).processor.pc = rest := by
      rw [execute_pc, ← List.drop_drop, left, List.drop_one, List.tail_cons]
    have stepped := step_of_get? reached
    have state : next program processor = (processor.execute instruction).processor := by
      rw [next, stepped]
    have inside : (step program processor).outcome ≠ .endOfProgram := by
      rw [stepped]
      exact execute_outcome_ne_endOfProgram processor instruction
    simp only [runFrom, ← stepped]
    split
    · rename_i halts
      exact .halted halts
    · rename_i goes_on
      split
      · rename_i seen
        exact .preempted inside goes_on seen
      · rename_i unseen
        rw [← state] at left'
        exact .round inside goes_on (Bool.eq_false_iff.2 unseen) (ih left')

/-- The loop comes to an end from every state, whatever the flag does. -/
theorem loop_run (program : Program) (poll : Nat → Bool) (processor : Processor) :
    Loop program poll 0 processor (processor.run program poll) :=
  loop_runFrom rfl

/-- The loop has one result. -/
theorem Loop.unique {run' : Run} (loop : Loop program poll executed processor run)
    (loop' : Loop program poll executed processor run') : run = run' := by
  induction loop generalizing run' with
  | exhausted ended =>
    cases loop' with
    | exhausted _ => rfl
    | halted halts => cases ended.symm.trans halts
    | preempted inside _ _ => exact absurd ended inside
    | round inside _ _ _ => exact absurd ended inside
  | halted halts =>
    cases loop' with
    | exhausted ended => cases ended.symm.trans halts
    | halted _ => rfl
    | preempted _ goes_on _ => exact absurd halts goes_on
    | round _ goes_on _ _ => exact absurd halts goes_on
  | preempted inside goes_on seen =>
    cases loop' with
    | exhausted ended => exact absurd ended inside
    | halted halts => exact absurd halts goes_on
    | preempted _ _ _ => rfl
    | round _ _ unseen _ => cases seen.symm.trans unseen
  | round inside goes_on unseen _ ih =>
    cases loop' with
    | exhausted ended => exact absurd ended inside
    | halted halts => exact absurd halts goes_on
    | preempted _ _ seen => cases seen.symm.trans unseen
    | round _ _ _ later => rw [ih later]

/-! ## Where a loop stops -/

theorem Report.retired_count {outcome : Outcome} (inside : outcome ≠ .endOfProgram)
    (report : Report) : (report.count outcome).retired = report.retired + 1 := by
  cases outcome with
  | retired => rfl
  | faulted fault => cases fault <;> rfl
  | halted => rfl
  | endOfProgram => exact absurd rfl inside

/-- The state left by a loop is that of as many steps as were executed. -/
theorem Loop.state (loop : Loop program poll executed processor run) :
    run.processor = (next program)^[run.report.retired] processor := by
  induction loop with
  | exhausted _ => rfl
  | @halted _ processor halts =>
    have inside : (step program processor).outcome ≠ .endOfProgram := by
      rw [halts]
      nofun
    simp only [Run.after, Run.stop, Report.retired_count inside]
    rfl
  | preempted inside _ _ =>
    simp only [Run.after, Run.stop, Report.retired_count inside]
    rfl
  | round inside _ _ _ ih =>
    simp only [Run.after, Report.retired_count inside]
    rw [Function.iterate_succ_apply]
    exact ih

/-- A stretch of program text that is executed straight through, with why and where it stops. -/
inductive Course (program : Program) (start : Nat) : Exit → Nat → Prop
  /-- It stops behind the first `HALT`. -/
  | halted {halt : Nat} : start ≤ halt → program.get? halt = some .halt →
    program.HaltFree start halt → Course program start .halted (halt + 1)
  /-- It stops behind some instruction without having met a `HALT`. -/
  | preempted {stop : Nat} : start < stop → stop ≤ program.size →
    program.HaltFree start stop → Course program start .preempted stop
  /-- It stops at the end, or where it started if that is past the end. -/
  | exhausted : program.HaltFree start program.size →
    Course program start .exhausted (max start program.size)

theorem Course.halted_inv {start stop : Nat} (course : Course program start .halted stop) :
    ∃ halt, stop = halt + 1 ∧ start ≤ halt ∧ program.get? halt = some .halt ∧
      program.HaltFree start halt := by
  cases course with
  | halted above halts free => exact ⟨_, rfl, above, halts, free⟩

theorem Course.preempted_inv {start stop : Nat} (course : Course program start .preempted stop) :
    start < stop ∧ stop ≤ program.size ∧ program.HaltFree start stop := by
  cases course with
  | preempted above below free => exact ⟨above, below, free⟩

theorem Course.exhausted_inv {start stop : Nat} (course : Course program start .exhausted stop) :
    stop = max start program.size ∧ program.HaltFree start program.size := by
  cases course with
  | exhausted free => exact ⟨rfl, free⟩

/-- An instruction other than `HALT` may stand in front of a stretch. -/
theorem Course.before {start stop : Nat} {exit : Exit}
    (course : Course program (start + 1) exit stop) (inside : start < program.size)
    (goes_on : program.get? start ≠ some .halt) :
    Course program start exit stop := by
  have free : ∀ {stop}, program.HaltFree (start + 1) stop → program.HaltFree start stop := by
    intro stop later i from_start below
    rcases Nat.eq_or_lt_of_le from_start with rfl | beyond
    · exact goes_on
    · exact later i beyond below
  cases course with
  | halted above halts later => exact .halted (by omega) halts (free later)
  | preempted above below later => exact .preempted (by omega) below (free later)
  | exhausted later =>
    have ends : max (start + 1) program.size = max start program.size := by omega
    rw [ends]
    exact .exhausted (free later)

/-- Why a loop stopped and where. -/
theorem Loop.course (loop : Loop program poll executed processor run) :
    Course program processor.pc run.report.exit run.processor.pc := by
  induction loop with
  | @exhausted _ processor ended =>
    have beyond := outcome_eq_endOfProgram_iff.1 ended
    have course : Course program processor.pc .exhausted (max processor.pc program.size) :=
      .exhausted fun i above below => absurd below (by omega)
    rw [Nat.max_eq_left beyond] at course
    exact course
  | @halted _ processor halts =>
    have reached := outcome_eq_halted_iff.1 halts
    have inside : processor.pc < program.size := (List.getElem?_eq_some_iff.1 reached).1
    simp only [Run.after, Run.stop, Report.count_exit, next_pc inside]
    exact .halted (Nat.le_refl _) reached fun i above below => absurd below (by omega)
  | @preempted _ processor inside goes_on _ =>
    rw [ne_eq, outcome_eq_endOfProgram_iff, Nat.not_le] at inside
    rw [ne_eq, outcome_eq_halted_iff] at goes_on
    simp only [Run.after, Run.stop, Report.count_exit, next_pc inside]
    refine .preempted (Nat.lt_succ_self _) inside fun i above below => ?_
    rw [show i = processor.pc by omega]
    exact goes_on
  | round inside goes_on _ _ ih =>
    rw [ne_eq, outcome_eq_endOfProgram_iff, Nat.not_le] at inside
    rw [ne_eq, outcome_eq_halted_iff] at goes_on
    rw [next_pc inside] at ih
    simp only [Run.after, Report.count_exit]
    exact ih.before inside goes_on

/-- A loop started inside the program moves on by the number of executed instructions. -/
theorem Loop.pc (loop : Loop program poll executed processor run) :
    run.processor.pc = processor.pc + run.report.retired := by
  induction loop with
  | exhausted _ => rfl
  | @halted _ processor halts =>
    have inside : (step program processor).outcome ≠ .endOfProgram := by
      rw [halts]
      nofun
    have reached := outcome_eq_halted_iff.1 halts
    simp only [Run.after, Run.stop, Report.retired_count inside]
    exact next_pc (List.getElem?_eq_some_iff.1 reached).1
  | preempted inside _ _ =>
    simp only [Run.after, Run.stop, Report.retired_count inside]
    rw [ne_eq, outcome_eq_endOfProgram_iff, Nat.not_le] at inside
    exact next_pc inside
  | round inside _ _ _ ih =>
    simp only [Run.after, Report.retired_count inside]
    rw [ne_eq, outcome_eq_endOfProgram_iff, Nat.not_le] at inside
    rw [next_pc inside] at ih
    omega

end Loop

end Processor

end TimeShare
