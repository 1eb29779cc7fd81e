import TimeShare.Proofs.Scheduler.Iteration

/-!
# What a run reports

A run in which no context breaks down ends in one of two ways: it fails if its
limit allows too few sweeps, and else it reports on tasks that are all complete.
What it reports on a task is what the task's program leaves when it runs alone.

* `sweepUntilDone_ends`: the two ways to end, by the recursion of the sweeps.
  `run_eq_error_iff`: which of them a run takes.
* `Snapshot.Reports`: a snapshot tells of a task that is complete and of what a run left.
  `reports_of_completed`: every snapshot does when all tasks are complete.
-/

namespace TimeShare

/-- A snapshot tells of a task that is complete, under its identifier and its priority, and of what
a run left. -/
structure Snapshot.Reports (snapshot : Snapshot) (id : Nat) (priority : Int)
    (run : Processor.Run) : Prop where
  id : snapshot.id.toNat = id
  priority : snapshot.priority.toInt = priority
  phase : snapshot.phase = .completed
  completed : snapshot.completed = true
  exit : snapshot.exit = some run.report.exit
  registers : snapshot.registers = some run.processor.registers
  stackPointer : snapshot.stackPointer.map Int64.toInt = some run.processor.stackPointer
  pc : snapshot.pc = some (UInt64.ofNat run.processor.pc)

namespace Task

variable {task : Task}

/-- A completed task has its processor state. -/
theorem Sound.exists_processor (sound : task.Sound) (completed : task.isCompleted = true) :
    ∃ processor, task.processor = some processor := by
  have situation := sound.situation
  rw [of_decide_eq_true completed] at situation
  cases situation with
  | halted _ held _ _ _ => exact ⟨_, held⟩
  | exhausted _ held _ _ _ => exact ⟨_, held⟩

/-- The pointer of a stack is far from the bounds of its report. -/
theorem toInt_stackPointer (processor : Processor) :
    (Int64.ofInt processor.stackPointer).toInt = processor.stackPointer := by
  have held := processor.stack.depth_le
  have size : stackSize = 256 := rfl
  rw [Processor.stackPointer, Stack.pointer]
  exact Int64.toInt_ofInt_of_le (by omega) (by omega)

/-- The snapshot of a completed task reports what its program leaves alone. -/
theorem Sound.reports (sound : task.Sound) (completed : task.isCompleted = true) :
    task.snapshot.Reports task.id.toNat task.priority.toInt
      (Processor.fresh.run task.program Processor.neverRaised) := by
  obtain ⟨processor, held⟩ := sound.exists_processor completed
  have left := sound.completed completed held
  have exit := (sound.ended completed held).1
  rw [← Processor.run_neverRaised_ending task.program] at exit
  constructor
  case id => rfl
  case priority => rfl
  case phase => exact of_decide_eq_true completed
  case completed => exact completed
  case exit => exact exit
  case registers => simp only [snapshot, held, Option.map_some, left]
  case stackPointer => simp only [snapshot, held, Option.map_some, toInt_stackPointer, left]
  case pc => simp only [snapshot, held, Option.map_some, left]

end Task

namespace Scheduler

variable {plan : Plan} {s s' : Scheduler}

/-! ## How a run ends -/

theorem usedUp_eq_some {limit : Option UInt64} {made : Nat} {bound : UInt64}
    (used : usedUp limit made = some bound) : limit = some bound ∧ bound.toNat ≤ made := by
  obtain ⟨set, reached⟩ := Option.filter_eq_some_iff.1 used
  exact ⟨set, of_decide_eq_true reached⟩

theorem lt_of_usedUp_eq_none {limit : Option UInt64} {made : Nat} {bound : UInt64}
    (free : usedUp limit made = none) (set : limit = some bound) : made < bound.toNat := by
  subst set
  refine Nat.lt_of_not_le fun reached => ?_
  rw [usedUp, Option.filter_some, if_pos (decide_eq_true reached)] at free
  cases free

/-- Sweeps that lose no context go on until all tasks are complete, or until there are as many as
the limit allows. -/
theorem sweepUntilDone_ends {made : Nat} {result : Except SchedulerError Nat}
    (coherent : s.Coherent) (lost : s.LostOnlyByContext plan)
    (below : ∀ limit, s.config.maxSweeps = some limit → made ≤ limit.toNat)
    (h : sweepUntilDone plan made s = (result, s')) (unbroken : s'.Unbroken plan) :
    ∃ n, Alike s' (sweepTimes plan n s) ∧
      ((result = .ok (made + n) ∧ s'.isFinished = true ∧
          ∀ limit, s.config.maxSweeps = some limit → made + n ≤ limit.toNat) ∨
        ∃ limit, s.config.maxSweeps = some limit ∧ limit.toNat = made + n ∧
          s'.isFinished = false ∧
          result = .error (.sweepLimit limit.toNat s'.registry.incompleteCount)) := by
  fun_induction sweepUntilDone plan made s with
  | case1 made s finished =>
    obtain ⟨rfl, rfl⟩ := Prod.mk.inj h
    exact ⟨0, .refl s, .inl ⟨rfl, isFinished_iff.2 finished, below⟩⟩
  | case2 made s left limit used =>
    obtain ⟨rfl, rfl⟩ := Prod.mk.inj h
    obtain ⟨set, reached⟩ := usedUp_eq_some used
    exact ⟨0, alike_note s _, .inr ⟨limit, set, Nat.le_antisymm reached (below limit set),
      decide_eq_false left, rfl⟩⟩
  | case3 made s _ _ error next swept =>
    obtain ⟨_, rfl⟩ := Prod.mk.inj h
    obtain ⟨_, ok⟩ := sweep_succeeds coherent lost swept unbroken
    cases ok
  | case4 made s _ free exits next swept ih =>
    have steps : Steps plan s (s.sweep plan).2 := steps_sweep s
    have config := config_sweep plan s
    rw [swept] at steps config
    obtain ⟨n, alike, ends⟩ := ih (Steps.coherent steps coherent)
      (Steps.keep Step.lostOnlyByContext steps coherent lost)
      (fun limit set => lt_of_usedUp_eq_none free (config ▸ set)) h
    refine ⟨n + 1, ?_, ?_⟩
    · rw [sweepTimes, swept]
      exact alike
    · rw [config, Nat.add_assoc, Nat.add_comm 1 n] at ends
      exact ends

/-- A run that loses no context comes to so many sweeps. -/
theorem run_ends (coherent : s.Coherent) (lost : s.LostOnlyByContext plan)
    (unbroken : (s.run plan).2.Unbroken plan) :
    (∃ n, (sweepTimes plan n s).isFinished = true ∧
        (∀ limit, s.config.maxSweeps = some limit → n ≤ limit.toNat) ∧
        (s.run plan).1 = .ok ⟨n, (sweepTimes plan n s).registry.snapshots,
          (sweepTimes plan n s).statistics⟩) ∨
      ∃ limit, s.config.maxSweeps = some limit ∧
        (sweepTimes plan limit.toNat s).isFinished = false ∧
        (s.run plan).1 = .error (.sweepLimit limit.toNat
          (sweepTimes plan limit.toNat s).registry.incompleteCount) := by
  have start : Step plan s
      (s.record (.schedulerStarted s.registry.size s.config.timeSlice.micros)) := .remark s rfl
  have alike : Alike
      (s.record (.schedulerStarted s.registry.size s.config.timeSlice.micros)) s :=
    alike_frame s rfl
  cases done : sweepUntilDone plan 0
      (s.record (.schedulerStarted s.registry.size s.config.timeSlice.micros)) with
  | mk result last =>
    have steps : Steps plan _ (sweepUntilDone plan 0
        (s.record (.schedulerStarted s.registry.size s.config.timeSlice.micros))).2 :=
      steps_sweepUntilDone 0 _
    rw [done] at steps
    have coherent' := Steps.coherent steps (start.coherent coherent)
    have calm : last.Unbroken plan := by
      cases result with
      | ok n =>
        rw [run_of_ok done] at unbroken
        exact unbroken.of_steps (.single (.remark last rfl)) coherent'
      | error error =>
        rw [run_of_error done] at unbroken
        exact unbroken
    obtain ⟨n, swept, ends⟩ := sweepUntilDone_ends (start.coherent coherent)
      (start.lostOnlyByContext coherent lost) (fun _ _ => Nat.zero_le _) done calm
    have same := swept.trans (alike.sweepTimes plan n)
    rw [Nat.zero_add, start.config, same.isFinished] at ends
    rcases ends with ⟨rfl, finished, within⟩ | ⟨limit, set, reached, unfinished, rfl⟩
    · refine .inl ⟨n, finished, within, ?_⟩
      rw [run_of_ok done, same.registry, same.statistics]
    · subst reached
      refine .inr ⟨limit, set, unfinished, ?_⟩
      rw [run_of_error done, same.registry]

/-- A run that loses no context fails just if some task is incomplete after as many sweeps as its
limit allows. -/
theorem run_eq_error_iff (coherent : s.Coherent) (lost : s.LostOnlyByContext plan)
    (unbroken : (s.run plan).2.Unbroken plan) (error : SchedulerError) :
    (s.run plan).1 = .error error ↔ ∃ limit, s.config.maxSweeps = some limit ∧
      (sweepTimes plan limit.toNat s).registry.incompleteCount ≠ 0 ∧
      error = .sweepLimit limit.toNat
        (sweepTimes plan limit.toNat s).registry.incompleteCount := by
  rcases run_ends coherent lost unbroken with
    ⟨n, finished, within, run⟩ | ⟨limit, set, unfinished, run⟩
  · rw [run]
    refine iff_of_false nofun ?_
    rintro ⟨limit, set, left, _⟩
    -- Sweeps after the last task is complete do nothing.
    obtain ⟨idle, split⟩ := Nat.exists_eq_add_of_le (within limit set)
    rw [split, sweepTimes_add, sweepTimes_of_finished finished] at left
    exact left (isFinished_iff.1 finished)
  · rw [run]
    constructor
    · intro failed
      exact ⟨limit, set, of_decide_eq_false unfinished, (Except.error.inj failed).symm⟩
    · rintro ⟨other, set', _, rfl⟩
      obtain rfl := Option.some.inj (set.symm.trans set')
      rfl

/-! ## What it reports -/

/-- When all tasks are complete, every snapshot reports what the program of its task leaves when it
runs alone. -/
theorem reports_of_completed {place : Nat} {entry : Enrollment} (coherent : s.Coherent)
    (completed : ∀ task ∈ s.registry.tasks, task.isCompleted = true)
    (enrolled : s.registry.roll[place]? = some entry) :
    ∃ snapshot, s.registry.snapshots[place]? = some snapshot ∧
      snapshot.Reports entry.id.toNat entry.priority.toInt
        (Processor.fresh.run entry.program Processor.neverRaised) := by
  rw [Registry.roll, List.getElem?_map, Option.map_eq_some_iff] at enrolled
  obtain ⟨task, found, rfl⟩ := enrolled
  have mem : task ∈ s.registry.tasks := Array.mem_toList_iff.1 (List.mem_of_getElem? found)
  have sound := coherent.sound task.id task (Registry.get?_id_of_mem mem)
  exact ⟨task.snapshot, by rw [Registry.snapshots, List.getElem?_map, found, Option.map_some],
    sound.reports (completed task mem)⟩

end Scheduler

end TimeShare
