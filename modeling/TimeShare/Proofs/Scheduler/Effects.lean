import TimeShare.Proofs.Task.Enrollment
import TimeShare.Scheduler.Sweep

/-!
# What the operations of a scheduler change

The trace, the statistics and the registry after each of the operations from
which calls are built. Later modules go through these equations and look into no
operation again. `keeps_sweep` says that a sweep leaves the enrollment of the
tasks as it is.
-/

namespace TimeShare.Scheduler

/-! ## The trace -/

@[simp] theorem trace_note (s : Scheduler) (notice : Notice) : (s.note notice).trace = s.trace := by
  simp [trace, note, Entry.event?]

@[simp] theorem trace_record (s : Scheduler) (event : Event) :
    (s.record event).trace = s.trace ++ [event] := by
  simp [trace, record, Entry.event?]

@[simp] theorem trace_recordRun (s : Scheduler) (task : TaskId) (events : List Processor.Event) :
    (s.recordRun task events).trace = s.trace ++ events.map (.ran task) := by
  simp [trace, recordRun, Entry.event?, List.filterMap_map, Function.comp_def]

@[simp] theorem trace_openSweep (s : Scheduler) :
    s.openSweep.trace = s.trace ++
      [.sweepStarted (s.statistics.sweeps + 1).toNat s.registry.incompleteCount] := by
  exact trace_record _ _

@[simp] theorem trace_handOver (s : Scheduler) (processor : Processor) (task : Task) :
    (s.handOver processor task).trace =
      s.trace ++ [.taskDispatched task.id task.priority processor.pc] := by
  exact trace_record _ _

/-- The event that ends a dispatch whose context came back. -/
def closing (task : TaskId) (run : Processor.Run) : Event :=
  if run.report.exit.isTerminal then
    .taskCompleted task run.processor.pc run.report.retired
  else
    .taskPreempted task run.processor.pc run.report.retired

@[simp] theorem trace_close (s : Scheduler) (task : Task) (run : Processor.Run) (raised : Bool) :
    (s.close task run raised).trace =
      s.trace ++ (run.events.map (.ran task.id) ++ [closing task.id run]) := by
  rw [← List.append_assoc, ← trace_recordRun]
  simp only [close, closing]
  split
  · exact trace_record _ _
  · exact trace_record _ _

/-- Beside what the context recorded, the end of a dispatch is one event. -/
theorem trace_close_eq (s : Scheduler) (task : Task) (run : Processor.Run) (raised : Bool) :
    (s.close task run raised).trace =
      (s.recordRun task.id run.events).trace ++ [closing task.id run] := by
  rw [trace_close, trace_recordRun, List.append_assoc]

/-! ## The statistics -/

@[simp] theorem statistics_recordRun (s : Scheduler) (task : TaskId)
    (events : List Processor.Event) : (s.recordRun task events).statistics = s.statistics := rfl

@[simp] theorem statistics_openSweep (s : Scheduler) :
    s.openSweep.statistics = s.statistics.countSweep := rfl

@[simp] theorem statistics_handOver (s : Scheduler) (processor : Processor) (task : Task) :
    (s.handOver processor task).statistics = s.statistics.countDispatch := rfl

@[simp] theorem statistics_close (s : Scheduler) (task : Task) (run : Processor.Run)
    (raised : Bool) :
    (s.close task run raised).statistics =
      (s.statistics.countRun run.report).countExit run.report.exit := by
  simp only [close]
  split <;> rfl

/-! ## The registry and the configuration -/

theorem config_close (s : Scheduler) (task : Task) (run : Processor.Run) (raised : Bool) :
    (s.close task run raised).config = s.config := by
  simp only [close]
  split <;> rfl

theorem registry_join (s : Scheduler) (processor : Processor) (task : Task) (run : Processor.Run)
    (raised : Bool) :
    ((s.handOver processor task).close task run raised).registry =
      s.registry.set (task.finish run.processor run.report.exit raised) := by
  rw [registry_close, registry_handOver]
  exact Registry.set_set rfl

/-- Without an incomplete task a sweep does nothing. -/
theorem sweep_of_finished (plan : Plan) {s : Scheduler}
    (finished : s.registry.incompleteCount = 0) :
    s.sweep plan = (.ok [], s) := by
  rw [← Registry.length_runnable, List.length_eq_zero_iff] at finished
  rw [sweep, finished]

/-- With an incomplete task a sweep begins and dispatches the runnable tasks. -/
theorem sweep_of_unfinished (plan : Plan) {s : Scheduler}
    (left : s.registry.incompleteCount ≠ 0) :
    s.sweep plan = dispatchEach plan s.registry.runnable s.openSweep := by
  rw [← Registry.length_runnable] at left
  cases runnable : s.registry.runnable with
  | nil =>
    rw [runnable] at left
    exact absurd rfl left
  | cons id rest => rw [sweep, runnable]

/-! ## What dispatches keep -/

section Keeps

open Registry (Keeps)

variable {plan : Plan} {s s' : Scheduler}

/-- A dispatch changes neither the identifier nor the priority nor the program of a task. -/
theorem keeps_dispatch {interruption : Interruption} {id : TaskId}
    {result : Except SchedulerError Exit} (h : dispatch interruption id s = (result, s')) :
    Keeps s.registry s'.registry := by
  rcases dispatch_cases h with ⟨_, rfl, _⟩ | ⟨task, processor, begun, found, began, ends⟩
  · exact .refl _
  · have same := Registry.id_of_begin found began
    obtain ⟨_, rfl⟩ := Task.begin?_eq_some_iff.1 began
    rw [← same] at found
    rcases ends with ⟨recorded, _, _, rfl⟩ | ⟨run, raised, _, _, rfl⟩
    · exact ⟨rfl, Registry.roll_set found rfl⟩
    · rw [registry_join]
      exact ⟨rfl, Registry.roll_set found rfl⟩

theorem keeps_dispatchEach {ids : List TaskId}
    {result : Except SchedulerError (List (TaskId × Exit))}
    (h : dispatchEach plan ids s = (result, s')) : Keeps s.registry s'.registry := by
  induction ids generalizing s result with
  | nil =>
    obtain ⟨_, rfl⟩ := Prod.mk.inj h
    exact .refl _
  | cons id rest ih =>
    rcases dispatchEach_cons h with ⟨_, failed, _⟩ | ⟨_, next, _, dispatched, rest_done, _⟩
    · exact keeps_dispatch failed
    · exact (keeps_dispatch dispatched).trans (ih rest_done)

theorem keeps_sweep (plan : Plan) (s : Scheduler) :
    Keeps s.registry (s.sweep plan).2.registry := by
  by_cases finished : s.registry.incompleteCount = 0
  · rw [sweep_of_finished plan finished]
    exact .refl _
  · rw [sweep_of_unfinished plan finished]
    exact keeps_dispatchEach (s := s.openSweep) rfl

end Keeps

end TimeShare.Scheduler
