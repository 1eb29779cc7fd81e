import TimeShare.Proofs.Processor.Straight

/-!
# Transcripts

A transcript is what the steps of a program record. `Program.transcript n` is
the transcript of the first `n` steps from the fresh state. A run adds one event
to the transcript of its steps when it goes past the end of the program.

* `Loop.transcript`: what a run records, and `Loop.resumed`: the transcript so
  far goes on with it, wherever the run was started.
* `undisturbed_split`: what an undisturbed run records is the transcript up to
  any position on its way and what an undisturbed run from there records.
-/

namespace TimeShare

namespace Processor

/-- What a number of steps record. -/
def stepTranscript (program : Program) : Nat → Processor → List Event
  | 0, _ => []
  | steps + 1, processor =>
    (step program processor).events ++ stepTranscript program steps (next program processor)

/-- The event, besides those of its steps, of a run with an exit. -/
def exhaustion (exit : Option Exit) (pc : Nat) : List Event :=
  if exit = some .exhausted then [.exhausted pc] else []

theorem stepTranscript_add (program : Program) (first second : Nat) (processor : Processor) :
    stepTranscript program (first + second) processor =
      stepTranscript program first processor ++
        stepTranscript program second ((next program)^[first] processor) := by
  induction first generalizing processor with
  | zero => rw [Nat.zero_add, stepTranscript, List.nil_append, Function.iterate_zero_apply]
  | succ first ih =>
    rw [Nat.succ_add, stepTranscript, ih, stepTranscript, List.append_assoc,
      Function.iterate_succ_apply]

end Processor

/-- What the first steps of a program record from the fresh state on. -/
def Program.transcript (program : Program) (steps : Nat) : List Processor.Event :=
  Processor.stepTranscript program steps .fresh

/-- What an undisturbed run of a program from the fresh state records. -/
def Program.undisturbed (program : Program) : List Processor.Event :=
  (Processor.fresh.run program Processor.neverRaised).events

variable {program : Program}

theorem Program.transcript_add (program : Program) (steps more : Nat) :
    program.transcript (steps + more) =
      program.transcript steps ++ Processor.stepTranscript program more (program.stateAt steps) :=
  Processor.stepTranscript_add program steps more .fresh

theorem Program.stateAt_succ (program : Program) (steps : Nat) :
    program.stateAt (steps + 1) = Processor.next program (program.stateAt steps) :=
  Function.iterate_succ_apply' _ _ _

/-- Inside the program the position is the number of steps. -/
theorem Program.stateAt_pc {steps : Nat} (inside : steps ≤ program.size) :
    (program.stateAt steps).pc = steps := by
  induction steps with
  | zero => rfl
  | succ steps ih =>
    have before := ih (Nat.le_of_succ_le inside)
    rw [Program.stateAt_succ, Processor.next_pc (by rw [before]; exact inside), before]

namespace Processor

/-! ## What a run records -/

section Loop

variable {poll : Nat → Bool} {executed : Nat} {processor : Processor} {run : Run}

/-- A run records what its steps record, and that no instruction was left if it found none. -/
theorem Loop.transcript (loop : Loop program poll executed processor run) :
    run.events = stepTranscript program run.report.retired processor ++
      exhaustion (some run.report.exit) run.processor.pc := by
  induction loop with
  | exhausted _ => rfl
  | @halted _ processor halts =>
    have inside : (step program processor).outcome ≠ .endOfProgram := by
      rw [halts]
      nofun
    simp only [Run.after, Run.stop, Report.retired_count inside, Report.count_exit]
    exact (List.append_nil _).symm
  | preempted inside _ _ =>
    simp only [Run.after, Run.stop, Report.retired_count inside, Report.count_exit]
    exact (List.append_nil _).symm
  | round inside _ _ _ ih =>
    simp only [Run.after, Report.retired_count inside, Report.count_exit, stepTranscript]
    rw [ih, List.append_assoc]

/-- The transcript up to where a run starts goes on with what the run records. -/
theorem Loop.resumed (loop : Loop program poll executed processor run)
    (straight : processor = program.stateAt processor.pc) :
    program.transcript processor.pc ++ run.events =
      program.transcript run.processor.pc ++
        exhaustion (some run.report.exit) run.processor.pc := by
  rw [loop.transcript, loop.pc, Program.transcript_add, ← straight, List.append_assoc]

end Loop

/-! ## Undisturbed runs -/

/-- Where its rounds are counted from does not matter to a run whose flag is never raised. -/
theorem Loop.recount {executed : Nat} {processor : Processor} {run : Run}
    (loop : Loop program neverRaised executed processor run) (executed' : Nat) :
    Loop program neverRaised executed' processor run := by
  induction loop generalizing executed' with
  | exhausted ended => exact .exhausted ended
  | halted halts => exact .halted halts
  | preempted _ _ seen => cases seen
  | round inside goes_on _ _ ih => exact .round inside goes_on rfl (ih _)

/-- An undisturbed run takes a step and goes on as one from the next state does. -/
theorem run_neverRaised_step {processor : Processor}
    (inside : (step program processor).outcome ≠ .endOfProgram)
    (goes_on : (step program processor).outcome ≠ .halted) :
    processor.run program neverRaised =
      ((next program processor).run program neverRaised).after (step program processor) := by
  have later := (loop_run program neverRaised (next program processor)).recount (0 + 1)
  exact (loop_run program neverRaised processor).unique (.round inside goes_on rfl later)

/-- What an undisturbed run records can be split at every position on its way. -/
theorem undisturbed_split {pc : Nat} (free : program.HaltFree 0 pc) (inside : pc ≤ program.size) :
    program.undisturbed =
      program.transcript pc ++ ((program.stateAt pc).run program neverRaised).events := by
  induction pc with
  | zero => rfl
  | succ pc ih =>
    have here : (program.stateAt pc).pc = pc := Program.stateAt_pc (Nat.le_of_succ_le inside)
    have not_ended : (step program (program.stateAt pc)).outcome ≠ .endOfProgram := by
      rw [ne_eq, outcome_eq_endOfProgram_iff, here, Nat.not_le]
      exact inside
    have goes_on : (step program (program.stateAt pc)).outcome ≠ .halted := by
      rw [ne_eq, outcome_eq_halted_iff, here]
      exact free pc (Nat.zero_le pc) (Nat.lt_succ_self pc)
    rw [ih (fun i above below => free i above (Nat.lt_succ_of_lt below))
        (Nat.le_of_succ_le inside),
      run_neverRaised_step not_ended goes_on, Program.transcript_add, Program.stateAt_succ,
      Run.after, stepTranscript, stepTranscript, List.append_nil, List.append_assoc]

/-- An undisturbed run records the transcript up to where its program stops. -/
theorem undisturbed_eq (program : Program) :
    program.undisturbed =
      program.transcript program.ending.2 ++
        exhaustion (some program.ending.1) program.ending.2 := by
  rw [← run_neverRaised_ending program]
  exact (loop_run program neverRaised fresh).resumed rfl

end Processor

end TimeShare
