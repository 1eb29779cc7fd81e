import TimeShare.Preemption.Interruption
import TimeShare.Proofs.Processor.Polling
import TimeShare.Proofs.Processor.Replay

/-!
# How soon a run stops

A flag that is raised while an instruction is being recorded is seen when that
instruction is done. `interrupted_cases` says how such a run ends, by how it would
end undisturbed: behind that instruction if the run gets further, and as it ends
anyway if it does not get so far. `Loop.resume` says that a preempted run and the
run that takes up its state are one run.

`raise_latency` puts this together, with what the report counts.
-/

namespace TimeShare.Processor

/-! ## Two runs as one -/

/-- The report of a run that goes on with another. -/
def Report.andThen (first second : Report) : Report where
  exit := second.exit
  retired := first.retired + second.retired
  unknownOpcodes := first.unknownOpcodes + second.unknownOpcodes
  stackOverflows := first.stackOverflows + second.stackOverflows
  stackUnderflows := first.stackUnderflows + second.stackUnderflows

/-- Two runs as one: it leaves the state of the second and counts and records what both do. -/
def Run.andThen (first second : Run) : Run where
  processor := second.processor
  report := first.report.andThen second.report
  events := first.events ++ second.events

theorem Report.count_andThen (outcome : Outcome) (first second : Report) :
    (first.andThen second).count outcome = (first.count outcome).andThen second := by
  cases outcome with
  | faulted fault => cases fault <;> simp [count, andThen, Nat.add_right_comm]
  | _ => simp [count, andThen, Nat.add_right_comm]

theorem Run.after_andThen (effect : Effect) (first second : Run) :
    (first.andThen second).after effect = (first.after effect).andThen second := by
  simp only [after, andThen, Report.count_andThen, List.append_assoc]

/-- A run that stops at once adds nothing. -/
theorem Run.stop_andThen (processor : Processor) (exit : Exit) (run : Run) :
    (Run.stop processor exit).andThen run = run := by
  simp [andThen, stop, Report.andThen, Report.stop]

section Loop

variable {program : Program} {poll poll' : Nat → Bool} {executed k : Nat} {processor : Processor}
  {run second : Run}

/-- A loop depends on its flag from the next round on, and on the number of rounds before only as
far as the flag does. -/
theorem Loop.shift (loop : Loop program poll executed processor run) {offset : Nat}
    (same : ∀ n, executed < n → poll' (n + offset) = poll n) :
    Loop program poll' (executed + offset) processor run := by
  induction loop with
  | exhausted ended => exact .exhausted ended
  | halted halts => exact .halted halts
  | @preempted executed _ inside goes_on seen =>
    refine .preempted inside goes_on ?_
    rw [Nat.add_right_comm, same _ (Nat.lt_succ_self executed)]
    exact seen
  | @round executed _ _ inside goes_on unseen _ ih =>
    have later := ih fun n above => same n (Nat.lt_of_succ_lt above)
    rw [Nat.add_right_comm] at later
    refine .round inside goes_on ?_ later
    rw [Nat.add_right_comm, same _ (Nat.lt_succ_self executed)]
    exact unseen

/-- A preempted run and the run that takes up its state are one run, under a flag that is not seen
before the first of them stops. -/
theorem Loop.resume (loop : Loop program poll executed processor run)
    (preempted : run.report.exit = .preempted)
    (unseen : ∀ n, executed < n → n ≤ executed + run.report.retired → poll' n = false)
    (later : Loop program poll' (executed + run.report.retired) run.processor second) :
    Loop program poll' executed processor (run.andThen second) := by
  induction loop with
  | exhausted _ => cases preempted
  | halted _ =>
    rw [Run.after, Report.count_exit] at preempted
    cases preempted
  | @preempted executed processor inside goes_on _ =>
    simp only [Run.after, Run.stop, Report.retired_count inside, Report.stop] at unseen later
    rw [← Run.after_andThen, Run.stop_andThen]
    exact .round inside goes_on (unseen _ (by omega) (by omega)) later
  | @round executed processor run inside goes_on _ _ ih =>
    simp only [Run.after, Report.count_exit] at preempted
    simp only [Run.after, Report.retired_count inside] at unseen later
    rw [Nat.add_comm run.report.retired, ← Nat.add_assoc] at later
    rw [← Run.after_andThen]
    refine .round inside goes_on (unseen _ (by omega) (by omega)) (ih preempted ?_ later)
    exact fun n above below => unseen n (by omega) (by omega)

/-! ## Counting faults -/

/-- How many of the first steps of a program from a state have a fault. -/
def faultsAmong (program : Program) (steps : Nat) (processor : Processor) (fault : Fault) : Nat :=
  (List.range steps).countP fun k =>
    (step program ((next program)^[k] processor)).outcome = .faulted fault

theorem faultsAmong_succ (program : Program) (steps : Nat) (processor : Processor)
    (fault : Fault) :
    faultsAmong program (steps + 1) processor fault =
      (step program processor).outcome.faults fault +
        faultsAmong program steps (next program processor) fault := by
  rw [faultsAmong, List.range_succ_eq_map, List.countP_cons, List.countP_map, Nat.add_comm,
    Outcome.faults]
  simp only [decide_eq_true_eq]
  rfl

/-- A run reports the faults among its steps. -/
theorem Loop.faults_eq (loop : Loop program poll executed processor run) (fault : Fault) :
    run.report.faults fault = faultsAmong program run.report.retired processor fault := by
  induction loop with
  | exhausted _ => cases fault <;> rfl
  | @halted _ processor halts =>
    have inside : (step program processor).outcome ≠ .endOfProgram := by
      rw [halts]
      nofun
    rw [Run.after, Report.faults_count, Report.retired_count inside, faultsAmong_succ]
    cases fault <;> rfl
  | preempted inside _ _ =>
    rw [Run.after, Report.faults_count, Report.retired_count inside, faultsAmong_succ]
    cases fault <;> rfl
  | round inside _ _ _ ih =>
    rw [Run.after, Report.faults_count, Report.retired_count inside, faultsAmong_succ, ih]

end Loop

/-! ## A raised flag -/

section Course

variable {program : Program} {start stop stop' : Nat} {exit exit' : Exit}

/-- There is one way to go on that is not cut off. -/
theorem Course.unique (course : Course program start exit stop)
    (course' : Course program start exit' stop') (uncut : exit ≠ .preempted)
    (uncut' : exit' ≠ .preempted) : exit = exit' ∧ stop = stop' := by
  cases course with
  | preempted _ _ _ => exact absurd rfl uncut
  | @halted halt above halts free =>
    cases course' with
    | preempted _ _ _ => exact absurd rfl uncut'
    | @halted halt' above' halts' free' =>
      have first : ¬ halt' < halt := fun before => free halt' above' before halts'
      have first' : ¬ halt < halt' := fun before => free' halt above before halts
      exact ⟨rfl, by omega⟩
    | exhausted free' =>
      have inside : halt < program.size := (List.getElem?_eq_some_iff.1 halts).1
      exact absurd halts (free' halt above inside)
  | exhausted free =>
    cases course' with
    | preempted _ _ _ => exact absurd rfl uncut'
    | @halted halt above halts _ =>
      have inside : halt < program.size := (List.getElem?_eq_some_iff.1 halts).1
      exact absurd halts (free halt above inside)
    | exhausted _ => exact ⟨rfl, rfl⟩

/-- A stretch that is cut off is no longer than one that is not, and as long only at the end of the
program. -/
theorem Course.cut (course : Course program start .preempted stop)
    (course' : Course program start exit stop') (uncut : exit ≠ .preempted) :
    stop < stop' ∨ stop = stop' ∧ exit = .exhausted := by
  obtain ⟨_, inside, free⟩ := course.preempted_inv
  cases course' with
  | preempted _ _ _ => exact absurd rfl uncut
  | @halted halt above halts _ =>
    have before : ¬ halt < stop := fun below => free halt above below halts
    exact .inl (by omega)
  | exhausted _ =>
    rcases Nat.lt_or_ge stop (max start program.size) with shorter | whole
    · exact .inl shorter
    · exact .inr ⟨by omega, rfl⟩

end Course

/-- The run whose flag is raised while its `k`-th instruction is being recorded, or before its first
one if `k` is zero, and stays raised. -/
def interrupted (program : Program) (k : Nat) (processor : Processor) : Run :=
  processor.run program (Interruption.expiry k).poll

/-- The run whose flag is not raised. -/
def uninterrupted (program : Program) (processor : Processor) : Run :=
  processor.run program neverRaised

variable {program : Program} {processor : Processor} {k : Nat}

/-- A raised flag cuts a run off behind the instruction at which it was raised, or comes too late:
after the run has stopped, or while it halts. -/
theorem interrupted_cases (program : Program) (processor : Processor) (positive : 0 < k) :
    (interrupted program k processor).report.exit = .preempted ∧
        (interrupted program k processor).report.retired = k ∧
        (k < (uninterrupted program processor).report.retired ∨
          k = (uninterrupted program processor).report.retired ∧
            (uninterrupted program processor).report.exit = .exhausted) ∨
      (interrupted program k processor).report.exit =
          (uninterrupted program processor).report.exit ∧
        (interrupted program k processor).report.retired =
          (uninterrupted program processor).report.retired ∧
        ((uninterrupted program processor).report.retired < k ∨
          (uninterrupted program processor).report.retired = k ∧
            (uninterrupted program processor).report.exit = .halted) := by
  have loop := loop_run program (Interruption.expiry k).poll processor
  have free := loop_run program neverRaised processor
  rw [← interrupted] at loop
  rw [← uninterrupted] at free
  have uncut := free.exit_ne_preempted
  have course := loop.course
  have course' := free.course
  rw [loop.pc] at course
  rw [free.pc] at course'
  -- The flag is not seen before it is raised, and a run that goes on past an instruction has not
  -- seen it there.
  have late : ¬ k < (interrupted program k processor).report.retired := by
    intro beyond
    have unseen := loop.unseen positive (by omega)
    exact absurd unseen (by simp [Interruption.poll])
  by_cases cut : (interrupted program k processor).report.exit = .preempted
  · have seen := of_decide_eq_true (loop.seen cut)
    rw [cut] at course
    rcases course.cut course' uncut with shorter | ⟨whole, ended⟩
    · exact .inl ⟨cut, by omega, .inl (by omega)⟩
    · exact .inl ⟨cut, by omega, .inr ⟨by omega, ended⟩⟩
  · obtain ⟨exit, stop⟩ := course.unique course' cut uncut
    refine .inr ⟨exit, by omega, ?_⟩
    rcases Nat.lt_or_ge (uninterrupted program processor).report.retired k with before | after
    · exact .inl before
    · refine .inr ⟨by omega, ?_⟩
      cases ended : (uninterrupted program processor).report.exit with
      | halted => rfl
      | preempted => exact absurd ended uncut
      | exhausted =>
        have unseen := loop.unseen_of_exhausted (exit.trans ended) (by omega)
        exact absurd (of_decide_eq_false unseen) (by omega)

/-- A flag that is raised before the first instruction is seen no earlier than one that is raised
during it. -/
theorem interrupted_zero (program : Program) (processor : Processor) :
    interrupted program 0 processor = interrupted program 1 processor := by
  have loop := loop_run program (Interruption.expiry 0).poll processor
  have raised : Loop program (Interruption.expiry 1).poll (0 + 0) processor
      (interrupted program 0 processor) := by
    refine loop.shift fun n positive => ?_
    have seen : 1 ≤ n := positive
    simp [Interruption.poll, seen]
  exact raised.unique (loop_run program (Interruption.expiry 1).poll processor)

/-- A run that was preempted and goes on under another raised flag is one run. -/
theorem interrupted_add {k' : Nat} (positive : 0 < k) (positive' : 0 < k')
    (preempted : (interrupted program k processor).report.exit = .preempted) :
    interrupted program (k + k') processor =
      (interrupted program k processor).andThen
        (interrupted program k' (interrupted program k processor).processor) := by
  have first := loop_run program (Interruption.expiry k).poll processor
  rw [← interrupted] at first
  have retired : (interrupted program k processor).report.retired = k := by
    rcases interrupted_cases program processor positive with ⟨_, retired, _⟩ | ⟨exit, _, _⟩
    · exact retired
    · have uncut := (loop_run program neverRaised processor).exit_ne_preempted
      exact absurd (exit.symm.trans preempted) uncut
  have unseen : ∀ n, 0 < n → n ≤ 0 + (interrupted program k processor).report.retired →
      (Interruption.expiry (k + k')).poll n = false := by
    intro n _ below
    exact decide_eq_false (by omega)
  have second : Loop program (Interruption.expiry (k + k')).poll
      (0 + (interrupted program k processor).report.retired)
      (interrupted program k processor).processor
      (interrupted program k' (interrupted program k processor).processor) := by
    refine (loop_run program (Interruption.expiry k').poll _).shift fun n _ => ?_
    rw [retired]
    exact decide_eq_decide.2 (by omega)
  exact (loop_run program (Interruption.expiry (k + k')).poll processor).unique
    (first.resume preempted unseen second)

/-- The flag is raised as soon as `k` instructions of the run have been recorded as executed. -/
theorem poll_expiry_iff {n : Nat} (inside : n ≤ (uninterrupted program processor).report.retired) :
    (Interruption.expiry k).poll n = true ↔
      k ≤ executedIn (stepTranscript program n processor) := by
  have count : executedIn (stepTranscript program n processor) = n := by
    cases n with
    | zero => rfl
    | succ n =>
      have loop := loop_run program neverRaised processor
      exact executedIn_stepTranscript (loop.inside inside)
  rw [count]
  exact decide_eq_true_iff

/-- How a run ends whose flag is raised while its `k`-th instruction is being recorded and stays
raised, by how the run ends if it is not. -/
structure Latency (program : Program) (k : Nat) (processor : Processor) : Prop where
  /-- The flag that the run sees is raised when `k` executed instructions have been recorded. -/
  raised : ∀ n, n ≤ (uninterrupted program processor).report.retired →
    ((Interruption.expiry k).poll n = true ↔
      k ≤ executedIn (stepTranscript program n processor))
  /-- To have it raised already before the first instruction makes no difference to the first. -/
  onEntry : k = 1 → interrupted program 0 processor = interrupted program k processor
  retired : (interrupted program k processor).report.retired =
    min k (uninterrupted program processor).report.retired
  state : (interrupted program k processor).processor =
    (next program)^[min k (uninterrupted program processor).report.retired] processor
  faults : ∀ fault, (interrupted program k processor).report.faults fault =
    faultsAmong program (min k (uninterrupted program processor).report.retired) processor fault
  before : k < (uninterrupted program processor).report.retired →
    (interrupted program k processor).report.exit = .preempted
  beyond : (uninterrupted program processor).report.retired < k →
    (interrupted program k processor).report.exit =
      (uninterrupted program processor).report.exit
  /-- A `HALT` that is being executed comes before the flag. -/
  halting : k = (uninterrupted program processor).report.retired →
    (uninterrupted program processor).report.exit = .halted →
    (interrupted program k processor).report.exit = .halted
  /-- The run and the one that takes up its state, with the flag cleared and raised again, leave the
  state and add up to the report of one run whose flag is raised that much later. -/
  resumed : ∀ k', 0 < k' → (interrupted program k processor).report.exit = .preempted →
    interrupted program (k + k') processor =
      (interrupted program k processor).andThen
        (interrupted program k' (interrupted program k processor).processor)

/-- A run stops behind the instruction during which its flag is raised. -/
theorem raise_latency (program : Program) (k : Nat) (processor : Processor) (positive : 0 < k) :
    Latency program k processor := by
  have loop := loop_run program (Interruption.expiry k).poll processor
  rw [← interrupted] at loop
  have ends := interrupted_cases program processor positive
  have retired : (interrupted program k processor).report.retired =
      min k (uninterrupted program processor).report.retired := by
    rcases ends with ⟨_, retired, _⟩ | ⟨_, retired, _⟩
    · omega
    · omega
  exact
    { raised := fun n inside => poll_expiry_iff inside
      onEntry := by
        rintro rfl
        exact interrupted_zero program processor
      retired := retired
      state := retired ▸ loop.state
      faults := fun fault => retired ▸ loop.faults_eq fault
      before := by
        intro before
        rcases ends with ⟨cut, _⟩ | ⟨_, _, late⟩
        · exact cut
        · omega
      beyond := by
        intro beyond
        rcases ends with ⟨_, _, early⟩ | ⟨same, _⟩
        · omega
        · exact same
      halting := by
        intro whole halts
        rcases ends with ⟨_, _, early⟩ | ⟨same, _⟩
        · rcases early with shorter | ⟨_, exhausted⟩
          · omega
          · cases exhausted.symm.trans halts
        · exact same.trans halts
      resumed := fun k' positive' preempted => interrupted_add positive positive' preempted }

/-- Three instructions of which the first two are not known. -/
def twoFaults : Program :=
  ⟨[.unknown "A", .unknown "B", .halt]⟩

/-- A flag that is raised during the second of three instructions stops the run there, and the run
that takes up its state halts with the third. -/
theorem raise_latency_second :
    0 < 2 ∧ Latency twoFaults 2 .fresh ∧
      (interrupted twoFaults 2 .fresh).report = ⟨.preempted, 2, 2, 0, 0⟩ ∧
      (interrupted twoFaults (2 + 2) .fresh).report = ⟨.halted, 3, 2, 0, 0⟩ :=
  ⟨by decide, raise_latency twoFaults 2 .fresh (by decide), by decide +kernel, by decide +kernel⟩

end TimeShare.Processor
