import TimeShare.Proofs.Processor.Loop

/-!
# Straight execution

`Program.stateAt n` is the state after `n` steps of a program from the fresh
state. A program that runs alone stops at its first `HALT` or at its end,
whichever comes first, which is its `ending`; `run_neverRaised_ending` and
`run_neverRaised` say that an undisturbed run from the fresh state stops there,
in the state of as many steps.
-/

namespace TimeShare

namespace Program

/-- The state after a number of steps from the fresh state. -/
def stateAt (program : Program) (steps : Nat) : Processor :=
  (Processor.next program)^[steps] .fresh

/-- The position of the first `HALT`. -/
def firstHalt? (program : Program) : Option Nat :=
  program.instructions.findIdx? fun instruction => instruction = .halt

/-- Why and where a program stops that runs alone: behind its first `HALT`, or at its end without
one. -/
def ending (program : Program) : Exit × Nat :=
  match program.firstHalt? with
  | some halt => (.halted, halt + 1)
  | none => (.exhausted, program.size)

variable {program : Program}

theorem firstHalt?_eq_some_iff {halt : Nat} :
    program.firstHalt? = some halt ↔
      program.get? halt = some .halt ∧ program.HaltFree 0 halt := by
  simp only [firstHalt?, List.findIdx?_eq_some_iff_getElem, decide_eq_true_eq]
  constructor
  · rintro ⟨inside, halts, first⟩
    refine ⟨by rw [get?, List.getElem?_eq_getElem inside, halts], fun i _ below reached => ?_⟩
    have here : program.get? i = some program.instructions[i] := List.getElem?_eq_getElem _
    exact first i below (Option.some.inj (here.symm.trans reached))
  · rintro ⟨reached, free⟩
    obtain ⟨inside, halts⟩ := List.getElem?_eq_some_iff.1 reached
    refine ⟨inside, halts, fun i below halts_before => free i (Nat.zero_le i) below ?_⟩
    rw [get?, List.getElem?_eq_getElem (Nat.lt_trans below inside), halts_before]

theorem firstHalt?_eq_none_iff :
    program.firstHalt? = none ↔ program.HaltFree 0 program.size := by
  simp only [firstHalt?, List.findIdx?_eq_none_iff, decide_eq_false_iff_not]
  constructor
  · intro free i _ _ reached
    exact free .halt (List.mem_of_getElem? reached) rfl
  · rintro free instruction mem rfl
    obtain ⟨i, inside, halts⟩ := List.getElem_of_mem mem
    exact free i (Nat.zero_le i) inside (by rw [get?, List.getElem?_eq_getElem inside, halts])

/-- Stretches without `HALT` join. -/
theorem HaltFree.append {start middle stop : Nat} (left : program.HaltFree start middle)
    (right : program.HaltFree middle stop) : program.HaltFree start stop := by
  intro i above below
  rcases Nat.lt_or_ge i middle with before | after
  · exact left i above before
  · exact right i after below

/-- No `HALT` can be passed over. -/
theorem HaltFree.le_of_firstHalt? {stop halt : Nat} (free : program.HaltFree 0 stop)
    (first : program.firstHalt? = some halt) : stop ≤ halt := by
  obtain ⟨halts, _⟩ := firstHalt?_eq_some_iff.1 first
  exact Nat.le_of_not_lt fun below => free halt (Nat.zero_le halt) below halts

end Program

namespace Processor

variable {program : Program}

/-- A run whose flag is never raised is not preempted. -/
theorem Loop.exit_ne_preempted {executed : Nat} {processor : Processor} {run : Run}
    (loop : Loop program neverRaised executed processor run) : run.report.exit ≠ .preempted := by
  induction loop with
  | exhausted _ =>
    intro preempted
    cases preempted
  | halted _ =>
    rw [Run.after, Report.count_exit]
    intro preempted
    cases preempted
  | preempted _ _ seen => cases seen
  | round _ _ _ _ ih =>
    rw [Run.after, Report.count_exit]
    exact ih

/-- A loop from the state after some steps stops in the state after some more. -/
theorem Loop.straight {poll : Nat → Bool} {executed : Nat} {processor : Processor} {run : Run}
    (loop : Loop program poll executed processor run)
    (straight : processor = program.stateAt processor.pc) :
    run.processor = program.stateAt run.processor.pc := by
  rw [loop.pc, Nat.add_comm, Program.stateAt, Function.iterate_add_apply, ← Program.stateAt,
    ← straight]
  exact loop.state

/-- A stretch from the start that no flag ended stops as the program says. -/
theorem Course.eq_ending {exit : Exit} {stop : Nat} (course : Course program 0 exit stop)
    (undisturbed : exit ≠ .preempted) : (exit, stop) = program.ending := by
  cases exit with
  | halted =>
    obtain ⟨halt, rfl, _, halts, free⟩ := course.halted_inv
    rw [Program.ending, Program.firstHalt?_eq_some_iff.2 ⟨halts, free⟩]
  | preempted => exact absurd rfl undisturbed
  | exhausted =>
    obtain ⟨rfl, free⟩ := course.exhausted_inv
    rw [Program.ending, Program.firstHalt?_eq_none_iff.2 free, Nat.max_eq_right (Nat.zero_le _)]

/-- An undisturbed run from the fresh state stops as the program says. -/
theorem run_neverRaised_ending (program : Program) :
    ((fresh.run program neverRaised).report.exit, (fresh.run program neverRaised).processor.pc) =
      program.ending :=
  (loop_run program neverRaised fresh).course.eq_ending
    (loop_run program neverRaised fresh).exit_ne_preempted

/-- An undisturbed run from the fresh state leaves the state after as many steps as it takes to
where the program stops. -/
theorem run_neverRaised (program : Program) :
    (fresh.run program neverRaised).processor = program.stateAt program.ending.2 := by
  rw [← run_neverRaised_ending program]
  exact (loop_run program neverRaised fresh).straight rfl

end Processor

end TimeShare
