import TimeShare.Proofs.Processor.Loop

/-!
# When a run sees its flag

The flag is polled behind every instruction that is executed, before the run
looks whether another one is left. `Loop.preempted_iff` says after which
instruction a run is preempted: the first one at which the flag is seen raised,
if no `HALT` comes before. That may be the last one of the program.

* `Loop.unseen`: what a run saw of the flag before it stopped.
* `preempted_at_end_iff`: which runs are preempted with nothing left to run.
-/

namespace TimeShare.Processor

section Loop

variable {program : Program} {poll : Nat → Bool} {executed : Nat} {processor : Processor}
  {run : Run}

/-- The flag was not seen raised before the last instruction of a run. -/
theorem Loop.unseen (loop : Loop program poll executed processor run) {n : Nat} (start : executed < n)
    (before : n < executed + run.report.retired) : poll n = false := by
  induction loop with
  | exhausted _ =>
    simp only [Report.stop] at before
    omega
  | @halted executed processor halts =>
    have inside : (step program processor).outcome ≠ .endOfProgram := by
      rw [halts]
      nofun
    simp only [Run.after, Run.stop, Report.retired_count inside, Report.stop] at before
    omega
  | preempted inside _ _ =>
    simp only [Run.after, Run.stop, Report.retired_count inside, Report.stop] at before
    omega
  | @round executed _ _ inside _ here _ ih =>
    simp only [Run.after, Report.retired_count inside] at before
    rcases Nat.eq_or_lt_of_le (Nat.succ_le_of_lt start) with rfl | later
    · exact here
    · exact ih later (by omega)

/-- A run is preempted where the flag is seen raised. -/
theorem Loop.seen (loop : Loop program poll executed processor run)
    (preempted : run.report.exit = .preempted) : poll (executed + run.report.retired) = true := by
  induction loop with
  | exhausted _ => cases preempted
  | halted _ =>
    rw [Run.after, Report.count_exit] at preempted
    cases preempted
  | preempted inside _ seen =>
    simp only [Run.after, Run.stop, Report.retired_count inside, Report.stop]
    exact seen
  | @round _ _ run inside _ _ _ ih =>
    simp only [Run.after, Report.count_exit] at preempted
    simp only [Run.after, Report.retired_count inside]
    rw [Nat.add_comm run.report.retired, ← Nat.add_assoc]
    exact ih preempted

/-- A run that goes past the end has not seen the flag raised behind its last instruction. -/
theorem Loop.unseen_of_exhausted (loop : Loop program poll executed processor run)
    (exhausted : run.report.exit = .exhausted) (some_executed : 0 < run.report.retired) :
    poll (executed + run.report.retired) = false := by
  induction loop with
  | exhausted _ => exact absurd some_executed (Nat.lt_irrefl 0)
  | halted _ =>
    rw [Run.after, Report.count_exit] at exhausted
    cases exhausted
  | preempted _ _ _ =>
    rw [Run.after, Report.count_exit] at exhausted
    cases exhausted
  | @round _ _ run inside _ here _ ih =>
    simp only [Run.after, Report.count_exit] at exhausted
    simp only [Run.after, Report.retired_count inside]
    rw [Nat.add_comm run.report.retired, ← Nat.add_assoc]
    rcases Nat.eq_zero_or_pos run.report.retired with none_later | later
    · rwa [none_later, Nat.add_zero]
    · exact ih exhausted later

/-- A run executes nothing exactly if no instruction is left. -/
theorem Loop.retired_eq_zero_iff (loop : Loop program poll executed processor run) :
    run.report.retired = 0 ↔ program.size ≤ processor.pc := by
  rw [← outcome_eq_endOfProgram_iff]
  cases loop with
  | exhausted ended => exact iff_of_true rfl ended
  | halted halts =>
    have inside : (step program processor).outcome ≠ .endOfProgram := by
      rw [halts]
      nofun
    rw [Run.after, Report.retired_count inside]
    exact iff_of_false (Nat.succ_ne_zero _) inside
  | preempted inside _ _ =>
    rw [Run.after, Report.retired_count inside]
    exact iff_of_false (Nat.succ_ne_zero _) inside
  | round inside _ _ _ =>
    rw [Run.after, Report.retired_count inside]
    exact iff_of_false (Nat.succ_ne_zero _) inside

/-- A run is preempted behind the first instruction at which the flag is seen raised, if there are
that many and none before it is a `HALT`. -/
theorem Loop.preempted_iff (loop : Loop program poll executed processor run) {n : Nat} :
    run.report.exit = .preempted ∧ run.report.retired = n ↔
      0 < n ∧ processor.pc + n ≤ program.size ∧
        program.HaltFree processor.pc (processor.pc + n) ∧ poll (executed + n) = true ∧
        ∀ earlier, 0 < earlier → earlier < n → poll (executed + earlier) = false := by
  have course := loop.course
  rw [loop.pc] at course
  constructor
  · rintro ⟨preempted, rfl⟩
    rw [preempted] at course
    obtain ⟨moved, inside, free⟩ := course.preempted_inv
    exact ⟨by omega, inside, free, loop.seen preempted,
      fun earlier positive before => loop.unseen (by omega) (by omega)⟩
  · rintro ⟨positive, inside, free, seen, unseen⟩
    -- Nothing is executed behind an instruction at which the flag is seen.
    have at_most : run.report.retired ≤ n := by
      apply Nat.le_of_not_lt
      intro beyond
      rw [loop.unseen (by omega) (by omega)] at seen
      cases seen
    cases exit : run.report.exit with
    | halted =>
      rw [exit] at course
      obtain ⟨halt, stop, above, halts, _⟩ := course.halted_inv
      exact absurd halts (free halt above (by omega))
    | preempted =>
      rw [exit] at course
      obtain ⟨moved, _, _⟩ := course.preempted_inv
      refine ⟨rfl, Nat.le_antisymm at_most (Nat.le_of_not_lt fun early => ?_)⟩
      have here := loop.seen exit
      rw [unseen _ (by omega) early] at here
      cases here
    | exhausted =>
      rw [exit] at course
      obtain ⟨stop, _⟩ := course.exhausted_inv
      have all : run.report.retired = n := by omega
      have here := loop.unseen_of_exhausted exit (by omega)
      rw [all, seen] at here
      cases here

end Loop

/-- A run is preempted at the end of its program exactly if the last instruction is the first one at
which the flag is seen raised, and no `HALT` is left at the start. -/
theorem preempted_at_end_iff {program : Program} {poll : Nat → Bool} {processor : Processor} :
    (processor.run program poll).report.exit = .preempted ∧
        ¬ (processor.run program poll).processor.pc < program.size ↔
      processor.pc < program.size ∧ program.HaltFree processor.pc program.size ∧
        poll (program.size - processor.pc) = true ∧
        ∀ n, 0 < n → n < program.size - processor.pc → poll n = false := by
  have loop := loop_run program poll processor
  have polled := loop.preempted_iff (n := program.size - processor.pc)
  have moved := loop.pc
  have course := loop.course
  simp only [Nat.zero_add] at polled
  constructor
  · rintro ⟨preempted, ended⟩
    rw [preempted] at course
    obtain ⟨above, inside, free⟩ := course.preempted_inv
    obtain ⟨_, _, _, seen, unseen⟩ := polled.1 ⟨preempted, by omega⟩
    have stop : (processor.run program poll).processor.pc = program.size := by omega
    rw [stop] at free
    exact ⟨by omega, free, seen, unseen⟩
  · rintro ⟨inside, free, seen, unseen⟩
    have whole : processor.pc + (program.size - processor.pc) = program.size := by omega
    rw [whole] at polled
    obtain ⟨preempted, all⟩ := polled.2 ⟨by omega, Nat.le_refl _, free, seen, unseen⟩
    exact ⟨preempted, by omega⟩

end TimeShare.Processor
