import TimeShare.Proofs.Processor.Straight
import TimeShare.Proofs.Scheduler.Admission

/-!
# What the text of a program tells of its end

Whether a program holds a `HALT` can be seen before it runs, and decides how it
ends: no instruction can pass a `HALT` over, and no slice can end a task. So the
notice that is given on admission is right about every task that completes.
`halts_foretells` says so of every life and of the summary of every run.

* `Sound.lastExit_of_completed`: how a completed task stopped.
* `Announced`: what the journal says of admissions, task by task.
  `announced_after`: no call says anything else of them.
* `finished_of_run`: a run that succeeds leaves no task incomplete.
-/

namespace TimeShare

namespace Program

variable {program : Program}

/-- Why a program stops whose tasks complete. -/
def foretold (program : Program) : Exit :=
  if program.halts then .halted else .exhausted

theorem halts_eq_isSome (program : Program) : program.halts = program.firstHalt?.isSome := by
  rw [halts, firstHalt?, List.findIdx?_isSome, List.contains_eq_any_beq]
  congr 1
  funext instruction
  rw [Bool.eq_iff_iff, beq_iff_eq, decide_eq_true_iff, eq_comm]

/-- A program that runs alone stops as its text foretells. -/
theorem foretold_eq (program : Program) : program.foretold = program.ending.1 := by
  rw [foretold, halts_eq_isSome, ending]
  cases program.firstHalt? <;> rfl

theorem exit_run_neverRaised (program : Program) :
    (Processor.fresh.run program Processor.neverRaised).report.exit = program.foretold := by
  have ending := Processor.run_neverRaised_ending program
  exact (congrArg Prod.fst ending).trans program.foretold_eq.symm

theorem foretold_eq_halted_iff : program.foretold = .halted ↔ program.halts = true := by
  rw [foretold]
  cases program.halts <;> simp

theorem foretold_eq_exhausted_iff : program.foretold = .exhausted ↔ program.halts = false := by
  rw [foretold]
  cases program.halts <;> simp

end Program

/-- A completed task stopped as the text of its program foretells. -/
theorem Task.Sound.lastExit_of_completed {task : Task} (sound : task.Sound)
    (completed : task.isCompleted = true) : task.lastExit = some task.program.foretold := by
  have phase : task.phase = .completed := by simpa [isCompleted] using completed
  have situation := sound.situation
  rw [phase] at situation
  rw [Program.foretold_eq, Program.ending]
  cases situation with
  | halted exit _ _ _ first => rw [exit, first]
  | exhausted exit _ _ _ none => rw [exit, none]

/-! ## What the journal says of admissions -/

/-- Whether an entry tells of the admission of a task. -/
def Entry.isAdmission : Entry → Bool
  | event (.taskAdmitted ..) => true
  | notice (.taskRegistered ..) => true
  | notice (.noHalt _) => true
  | _ => false

/-- What is said of the admission of a task; notice is given of a program without a `HALT`. -/
def Enrollment.entries (entry : Enrollment) : List Entry :=
  [.notice (.taskRegistered entry.id entry.priority), .event entry.event] ++
    if entry.program.halts then [] else [.notice (.noHalt entry.id)]

theorem Enrollment.noHalt_mem_entries_iff {entry : Enrollment} {id : TaskId} :
    .notice (.noHalt id) ∈ entry.entries ↔ entry.id = id ∧ entry.program.halts = false := by
  rw [entries, event]
  cases entry.program.halts <;> simp [eq_comm]

namespace Scheduler

variable {plan : Plan} {s s' : Scheduler}

/-- The entries of the journal that tell of admissions. -/
def admissions (s : Scheduler) : List Entry :=
  s.journal.toList.filter Entry.isAdmission

/-- The journal tells of the admission of every task, in order, and of no other. -/
def Announced (s : Scheduler) : Prop :=
  s.admissions = s.registry.roll.flatMap Enrollment.entries

section Entries

theorem admissions_note (s : Scheduler) {notice : Notice}
    (aside : Entry.isAdmission (.notice notice) = false) :
    (s.note notice).admissions = s.admissions := by
  simp [admissions, note, aside]

theorem admissions_record (s : Scheduler) {event : Event}
    (aside : Entry.isAdmission (.event event) = false) :
    (s.record event).admissions = s.admissions := by
  simp [admissions, record, aside]

theorem admissions_recordRun (s : Scheduler) (id : TaskId) (events : List Processor.Event) :
    (s.recordRun id events).admissions = s.admissions := by
  simp [admissions, recordRun, Entry.isAdmission]

theorem admissions_close (s : Scheduler) (task : Task) (run : Processor.Run) (raised : Bool) :
    (s.close task run raised).admissions = s.admissions := by
  rw [← admissions_recordRun s task.id run.events]
  simp only [close]
  split
  · exact admissions_record _ rfl
  · exact admissions_record _ rfl

theorem admissions_recordAdmission (s : Scheduler) (id : TaskId) (priority : Int32)
    (program : Program) : (s.recordAdmission id priority program).admissions =
      s.admissions ++ Enrollment.entries ⟨id, priority, program⟩ := by
  rw [recordAdmission, Enrollment.entries]
  dsimp only
  split <;> simp [admissions, note, record, Entry.isAdmission, Enrollment.event]

end Entries

/-! ## Sweeps and runs say nothing of admissions -/

theorem admissions_dispatch {interruption : Interruption} {id : TaskId}
    {result : Except SchedulerError Exit} (h : dispatch interruption id s = (result, s')) :
    s'.admissions = s.admissions := by
  have handOver : ∀ (processor : Processor) (begun : Task),
      (s.handOver processor begun).admissions = s.admissions :=
    fun _ _ => admissions_record _ rfl
  rcases dispatch_cases h with
    ⟨_, rfl, _⟩ | ⟨_, _, _, _, _, ⟨_, _, _, rfl⟩ | ⟨_, _, _, _, rfl⟩⟩
  · rfl
  · rw [admissions_recordRun, handOver]
  · rw [admissions_close, handOver]

theorem admissions_dispatchEach {ids : List TaskId}
    {result : Except SchedulerError (List (TaskId × Exit))}
    (h : dispatchEach plan ids s = (result, s')) : s'.admissions = s.admissions := by
  induction ids generalizing s result with
  | nil =>
    obtain ⟨_, rfl⟩ := Prod.mk.inj h
    rfl
  | cons id rest ih =>
    rcases dispatchEach_cons h with ⟨_, failed, _⟩ | ⟨_, next, _, dispatched, rest_done, _⟩
    · exact admissions_dispatch failed
    · exact (ih rest_done).trans (admissions_dispatch dispatched)

theorem admissions_sweep (plan : Plan) (s : Scheduler) :
    (s.sweep plan).2.admissions = s.admissions := by
  by_cases finished : s.registry.incompleteCount = 0
  · rw [sweep_of_finished plan finished]
  · rw [sweep_of_unfinished plan finished]
    exact (admissions_dispatchEach rfl).trans (admissions_record _ rfl)

theorem admissions_sweepUntilDone (plan : Plan) (sweeps : Nat) (s : Scheduler) :
    (sweepUntilDone plan sweeps s).2.admissions = s.admissions := by
  fun_induction sweepUntilDone plan sweeps s with
  | case1 => rfl
  | case2 => exact admissions_note _ rfl
  | case3 sweeps s _ _ error next made =>
    have same := admissions_sweep plan s
    rwa [made] at same
  | case4 sweeps s _ _ exits next made ih =>
    have same := admissions_sweep plan s
    rw [made] at same
    exact ih.trans same

theorem admissions_run (plan : Plan) (s : Scheduler) :
    (s.run plan).2.admissions = s.admissions := by
  have same := admissions_sweepUntilDone plan 0
    (s.record (.schedulerStarted s.registry.size s.config.timeSlice.micros))
  rw [admissions_record s rfl] at same
  unfold run
  dsimp only
  split
  · rename_i error last failed
    rwa [failed] at same
  · rename_i sweeps last done
    rw [done] at same
    exact (admissions_record _ rfl).trans same

/-! ## Calls -/

theorem Announced.of_keeps (before : s.Announced) (kept : Registry.Keeps s.registry s'.registry)
    (same : s'.admissions = s.admissions) : s'.Announced := by
  rw [Announced, same, before, kept.roll]

theorem Announced.submit (before : s.Announced) (priority : Int32) (program : Program) :
    (s.submit priority program).2.Announced := by
  rcases Nat.lt_or_ge s.registry.size s.registry.limit with room | full
  · obtain ⟨grown, inserted, _, roll⟩ := Registry.insert_of_room priority program room
    rw [Scheduler.submit, inserted]
    dsimp only
    rw [Announced, admissions_recordAdmission, registry_recordAdmission, roll, List.flatMap_append,
      ← before, enroll, enroll, List.flatMap_singleton]
    rfl
  · rw [submit_of_full priority program full]
    exact before.of_keeps (.refl _) (admissions_record _ rfl)

theorem Announced.submitEach (before : s.Announced) (programs : List (Int32 × Program)) :
    (submitEach programs s).2.Announced := by
  induction programs generalizing s with
  | nil => exact before
  | cons offer rest ih =>
    rw [submitEach_cons]
    exact ih (before.submit offer.1 offer.2)

theorem Announced.perform (before : s.Announced) (plan : Plan) (call : Call) :
    (s.perform plan call).Announced := by
  cases call with
  | submit priority program => exact before.submit priority program
  | submitSource priority source =>
    rw [Scheduler.perform]
    cases loaded : Program.ofString source with
    | error error =>
      rw [submitSource_of_error loaded]
      exact before
    | ok program =>
      rw [submitSource_of_ok loaded]
      exact before.submit priority program
  | submitAll programs =>
    rw [Scheduler.perform, submitAll_eq]
    dsimp only
    split
    · exact before.submitEach programs
    · exact (before.submitEach programs).of_keeps (.refl _) (admissions_note _ rfl)
  | sweep => exact before.of_keeps (keeps_sweep plan s) (admissions_sweep plan s)
  | run => exact before.of_keeps (keeps_run plan s) (admissions_run plan s)

theorem announced_after (plan : Plan) (config : Config) (calls : List Call) :
    (after plan config calls).Announced := by
  have along : ∀ s : Scheduler, s.Announced →
      (calls.foldl (Scheduler.perform plan) s).Announced := by
    induction calls with
    | nil => exact fun _ before => before
    | cons call rest ih => exact fun s before => ih _ (before.perform plan call)
  exact along (new config) rfl

/-- Notice was given of just those tasks whose programs hold no `HALT`. -/
theorem Announced.noHalt_mem_iff (announced : s.Announced) {id : TaskId} :
    .notice (.noHalt id) ∈ s.journal ↔
      ∃ task, s.registry.get? id = some task ∧ task.program.halts = false := by
  have told : Entry.notice (.noHalt id) ∈ s.journal ↔
      Entry.notice (.noHalt id) ∈ s.registry.roll.flatMap Enrollment.entries := by
    rw [← announced, admissions, List.mem_filter, Array.mem_toList_iff]
    exact (and_iff_left rfl).symm
  rw [told, List.mem_flatMap]
  simp only [Enrollment.noHalt_mem_entries_iff, Registry.roll, List.mem_map, Array.mem_toList_iff]
  constructor
  · rintro ⟨_, ⟨task, mem, rfl⟩, rfl, endless⟩
    exact ⟨task, Registry.get?_id_of_mem mem, endless⟩
  · rintro ⟨task, found, endless⟩
    exact ⟨_, ⟨task, Registry.mem_of_get? found, rfl⟩, Registry.id_of_get? found, endless⟩

/-! ## Summaries -/

theorem finished_of_sweepUntilDone {sweeps total : Nat}
    (done : sweepUntilDone plan sweeps s = (.ok total, s')) : s'.registry.incompleteCount = 0 := by
  fun_induction sweepUntilDone plan sweeps s with
  | case1 sweeps s finished =>
    obtain ⟨_, rfl⟩ := Prod.mk.inj done
    exact finished
  | case2 => cases done
  | case3 => cases done
  | case4 _ _ _ _ _ _ _ ih => exact ih done

/-- A run that succeeds reports on all tasks, and none of them is incomplete. -/
theorem finished_of_run {summary : Summary} (ran : s.run plan = (.ok summary, s')) :
    summary.tasks = s'.registry.snapshots ∧
      ∀ task ∈ s'.registry.tasks, task.isCompleted = true := by
  unfold run at ran
  dsimp only at ran
  split at ran
  · cases ran
  · rename_i sweeps last done
    obtain ⟨result, left⟩ := Prod.mk.inj ran
    have finished := finished_of_sweepUntilDone done
    rw [Registry.incompleteCount, Registry.count, List.countP_eq_zero] at finished
    rw [← Except.ok.inj result, ← left]
    refine ⟨rfl, fun task mem => ?_⟩
    simpa using finished task (Array.mem_toList_iff.2 mem)

/-- The identifiers handed out are those of the tasks, in order. -/
theorem handles_eq_roll (plan : Plan) (config : Config) (calls : List Call) :
    handles plan config calls = (after plan config calls).registry.roll.map Enrollment.id := by
  have admits := admits_after plan config calls
  rw [admits.ids, admits.roll]
  rfl

/-- The number of a task is its place. -/
theorem toNat_roll (registry : Registry) :
    registry.roll.map (fun entry => entry.id.toNat) = List.range registry.roll.length := by
  refine List.ext_getElem (by simp) fun place inside _ => ?_
  rw [List.length_map, Registry.length_roll] at inside
  simp only [Registry.roll, List.getElem_map, Array.getElem_toList, List.getElem_range]
  exact registry.id_eq place inside

/-- All tasks of a finished registry halted if all their programs hold a `HALT`. -/
theorem allHalted_iff (coherent : s.Coherent)
    (completed : ∀ task ∈ s.registry.tasks, task.isCompleted = true) :
    (s.registry.snapshots.all fun task => task.exit = some .halted) = true ↔
      ∀ entry ∈ s.registry.roll, entry.program.halts = true := by
  have halted : ∀ task ∈ s.registry.tasks, task.snapshot.exit = some .halted ↔
      task.enrollment.program.halts = true := by
    intro task mem
    have sound := coherent.sound task.id task (Registry.get?_id_of_mem mem)
    have exit : task.snapshot.exit = some task.program.foretold :=
      sound.lastExit_of_completed (completed task mem)
    rw [exit, Option.some_inj, Program.foretold_eq_halted_iff]
    rfl
  simp only [Registry.snapshots, Registry.roll, List.all_map, List.all_eq_true,
    Array.mem_toList_iff, Function.comp_apply, decide_eq_true_eq, List.forall_mem_map]
  exact forall₂_congr halted

section Life

variable {config : Config} {calls : List Call}

/-- A run that succeeds reports on all tasks in the order of their admission, and they all halted if
all their programs hold a `HALT`. -/
theorem summary_of_run {summary : Summary} {last : Scheduler}
    (ran : (after plan config calls).run plan = (.ok summary, last)) :
    summary.allCompleted = true ∧
      summary.tasks.map Snapshot.id = handles plan config calls ∧
      summary.tasks.map (fun task => task.id.toNat) =
        List.range (handles plan config calls).length ∧
      (summary.allHalted = true ↔
        ∀ entry ∈ (after plan config calls).registry.roll, entry.program.halts = true) := by
  obtain ⟨tasks, completed⟩ := finished_of_run ran
  have kept := keeps_run plan (after plan config calls)
  have strides : Strides plan _ ((after plan config calls).run plan).2 := strides_run _
  have coherent := Steps.coherent strides.steps (coherent_after plan config calls)
  rw [ran] at kept coherent
  have ids : summary.tasks.map Snapshot.id = handles plan config calls := by
    rw [tasks, handles_eq_roll, ← kept.roll, Registry.snapshots, Registry.roll, List.map_map,
      List.map_map]
    rfl
  refine ⟨?_, ids, ?_, ?_⟩
  · rw [Summary.allCompleted, tasks, Registry.snapshots, List.all_map, List.all_eq_true]
    exact fun task mem => completed task (Array.mem_toList_iff.1 mem)
  · have numbers := congrArg (List.map UInt32.toNat) ids
    rw [handles_eq_roll, List.map_map, List.map_map] at numbers
    rw [handles_eq_roll, List.length_map]
    exact numbers.trans (toNat_roll _)
  · rw [Summary.allHalted, tasks, ← kept.roll]
    exact allHalted_iff coherent completed

/-- However a life goes on, notice has been given of a task that completes just if it ends by running
past its end. -/
theorem noHalt_mem_iff_lastExit (more : List Call) {id : TaskId} {before task : Task}
    (found : (after plan config calls).registry.get? id = some before)
    (found' : (after plan config (calls ++ more)).registry.get? id = some task)
    (completed : task.isCompleted = true) :
    .notice (.noHalt id) ∈ (after plan config calls).journal ↔
      task.lastExit = some .exhausted := by
  obtain ⟨_, kept, evolves⟩ :=
    Steps.evolves (steps_after_append plan config calls more) (coherent_after plan config calls)
      found
  obtain rfl := Option.some.inj (kept.symm.trans found')
  have sound := (coherent_after plan config (calls ++ more)).sound id _ found'
  rw [sound.lastExit_of_completed completed, Option.some_inj, Program.foretold_eq_exhausted_iff,
    evolves.program, (announced_after plan config calls).noHalt_mem_iff]
  constructor
  · rintro ⟨_, same, endless⟩
    rwa [Option.some.inj (found.symm.trans same)]
  · exact fun endless => ⟨before, found, endless⟩

end Life

/-- What the text of programs foretells of a life. -/
structure Foretold (plan : Plan) (config : Config) (calls : List Call) : Prop where
  /-- A completed task stopped at a `HALT` if its program holds one, and else ran past its end. -/
  exit : ∀ (id : TaskId) (task : Task),
    (after plan config calls).registry.get? id = some task → task.isCompleted = true →
    task.lastExit = some (if task.program.halts then .halted else .exhausted)
  /-- The journal tells of the admission of every task, in order, and of no other. -/
  announced : (after plan config calls).Announced
  /-- Notice was given of just those tasks whose programs run past their ends. -/
  warned : ∀ id, .notice (.noHalt id) ∈ (after plan config calls).journal ↔
    ∃ task, (after plan config calls).registry.get? id = some task ∧
      (Processor.fresh.run task.program Processor.neverRaised).report.exit = .exhausted
  /-- However the life goes on, of the tasks that complete just those end so. -/
  lasting : ∀ (more : List Call) (id : TaskId) (before task : Task),
    (after plan config calls).registry.get? id = some before →
    (after plan config (calls ++ more)).registry.get? id = some task → task.isCompleted = true →
    (.notice (.noHalt id) ∈ (after plan config calls).journal ↔
      task.lastExit = some .exhausted)
  /-- A run that succeeds reports on all tasks in the order of their admission. -/
  summary : ∀ summary last, (after plan config calls).run plan = (.ok summary, last) →
    summary.allCompleted = true ∧
      summary.tasks.map Snapshot.id = handles plan config calls ∧
      summary.tasks.map (fun task => task.id.toNat) =
        List.range (handles plan config calls).length ∧
      (summary.allHalted = true ↔
        ∀ entry ∈ (after plan config calls).registry.roll, entry.program.halts = true)

/-- The text of a program foretells how its tasks end, notice is given accordingly, and the summary
of a run that succeeds says so. -/
theorem halts_foretells (plan : Plan) (config : Config) (calls : List Call) :
    Foretold plan config calls where
  exit id task found completed :=
    ((coherent_after plan config calls).sound id task found).lastExit_of_completed completed
  announced := announced_after plan config calls
  warned := by
    intro id
    rw [(announced_after plan config calls).noHalt_mem_iff]
    refine exists_congr fun task => and_congr_right fun _ => ?_
    rw [task.program.exit_run_neverRaised, Program.foretold_eq_exhausted_iff]
  lasting more _ _ _ found found' completed := noHalt_mem_iff_lastExit more found found' completed
  summary _ _ ran := summary_of_run ran

/-- One of three programs holds no `HALT`, so not all tasks halt. -/
example :
    ((after calmPlan .standard (calmCalls ++ [.submit 2 endPush])).run calmPlan).1.toOption.map
      (fun summary => (summary.allCompleted, summary.allHalted)) = some (true, false) := by
  decide +kernel

end Scheduler

end TimeShare
