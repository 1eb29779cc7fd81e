import TimeShare.Preemption.Interruption
import TimeShare.Scheduler.Basic

/-!
# Dispatches and sweeps

A sweep dispatches every incomplete task once, in the order of admission. A
dispatch that fails ends the sweep. The outside gives each dispatch of the
scheduler's life its interruption; a `Plan` lists them by the number of the
dispatch.

`work_sweep_lt` says that a sweep which dispatches anything leaves less work.
-/

namespace TimeShare

/-- What the outside does to each dispatch, numbered from zero over a scheduler's life. -/
abbrev Plan := Nat → Interruption

namespace Scheduler

/-- Gives a task with its processor state to a context. -/
def handOver (s : Scheduler) (processor : Processor) (task : Task) : Scheduler :=
  let s := { s with
    registry := s.registry.set task
    statistics := s.statistics.countDispatch }
  s.record (.taskDispatched task.id task.priority processor.pc)

/-- Takes back a task whose context has come back, and counts and records the end. -/
def close (s : Scheduler) (task : Task) (run : Processor.Run) (raised : Bool) : Scheduler :=
  let s := s.recordRun task.id run.events
  let s := { s with
    registry := s.registry.set (task.finish run.processor run.report.exit raised)
    statistics := (s.statistics.countRun run.report).countExit run.report.exit }
  if run.report.exit.isTerminal then
    s.record (.taskCompleted task.id run.processor.pc run.report.retired)
  else
    s.record (.taskPreempted task.id run.processor.pc run.report.retired)

/-- Runs a task in a context under an interruption. -/
def dispatch (interruption : Interruption) (id : TaskId) (s : Scheduler) :
    Except SchedulerError Exit × Scheduler :=
  match s.registry.get? id with
  | none => (.error (.dispatch id SchedulerError.unknownTask), s)
  | some task =>
    match task.begin? with
    | none => (.error (.dispatch id SchedulerError.stateLost), s)
    | some (processor, task) =>
      let s := s.handOver processor task
      match interruption.carryOut task.program processor with
      | .lost recorded =>
        (.error (.dispatch id SchedulerError.contextBroken), s.recordRun task.id recorded)
      | .joined run raised => (.ok run.report.exit, s.close task run raised)

/-- Dispatches some tasks one after another until one fails. -/
def dispatchEach (plan : Plan) :
    List TaskId → Scheduler → Except SchedulerError (List (TaskId × Exit)) × Scheduler
  | [], s => (.ok [], s)
  | id :: rest, s =>
    match dispatch (plan s.registry.dispatches) id s with
    | (.error error, s) => (.error error, s)
    | (.ok exit, s) =>
      match dispatchEach plan rest s with
      | (.error error, s) => (.error error, s)
      | (.ok exits, s) => (.ok ((id, exit) :: exits), s)

/-- Counts and records the beginning of a sweep. -/
def openSweep (s : Scheduler) : Scheduler :=
  let s := { s with statistics := s.statistics.countSweep }
  s.record (.sweepStarted s.statistics.sweeps.toNat s.registry.incompleteCount)

/-- Dispatches every incomplete task once; without one nothing is counted or recorded. -/
def sweep (plan : Plan) (s : Scheduler) :
    Except SchedulerError (List (TaskId × Exit)) × Scheduler :=
  match s.registry.runnable with
  | [] => (.ok [], s)
  | id :: rest => dispatchEach plan (id :: rest) s.openSweep

/-! ## What a dispatch does -/

@[simp] theorem registry_recordRun (s : Scheduler) (task : TaskId)
    (events : List Processor.Event) : (s.recordRun task events).registry = s.registry := rfl

@[simp] theorem registry_record (s : Scheduler) (event : Event) :
    (s.record event).registry = s.registry := rfl

@[simp] theorem registry_openSweep (s : Scheduler) : s.openSweep.registry = s.registry := rfl

@[simp] theorem registry_handOver (s : Scheduler) (processor : Processor) (task : Task) :
    (s.handOver processor task).registry = s.registry.set task := rfl

@[simp] theorem registry_close (s : Scheduler) (task : Task) (run : Processor.Run)
    (raised : Bool) :
    (s.close task run raised).registry =
      s.registry.set (task.finish run.processor run.report.exit raised) := by
  simp only [close]
  split <;> rfl

/-- A dispatch changes nothing, or gives the task to a context that breaks down, or gives the task
to a context that comes back. -/
theorem dispatch_cases {interruption : Interruption} {id : TaskId} {s s' : Scheduler}
    {result : Except SchedulerError Exit} (h : dispatch interruption id s = (result, s')) :
    ((∃ reason, result = .error (.dispatch id reason)) ∧ s' = s ∧
        ∀ task, s.registry.get? id = some task → task.processor = none) ∨
      ∃ task processor begun, s.registry.get? id = some task ∧
        task.begin? = some (processor, begun) ∧
        ((∃ recorded, interruption.carryOut begun.program processor = .lost recorded ∧
            result = .error (.dispatch id SchedulerError.contextBroken) ∧
            s' = (s.handOver processor begun).recordRun begun.id recorded) ∨
          ∃ run raised, interruption.carryOut begun.program processor = .joined run raised ∧
            result = .ok run.report.exit ∧ s' = (s.handOver processor begun).close begun run raised)
    := by
  unfold dispatch at h
  split at h
  · rename_i unknown
    obtain ⟨rfl, rfl⟩ := Prod.mk.inj h
    exact .inl ⟨⟨_, rfl⟩, rfl, fun task found => by rw [unknown] at found; cases found⟩
  · rename_i task found
    split at h
    · rename_i unavailable
      obtain ⟨rfl, rfl⟩ := Prod.mk.inj h
      refine .inl ⟨⟨_, rfl⟩, rfl, fun other same => ?_⟩
      obtain rfl := Option.some.inj (found.symm.trans same)
      exact Option.map_eq_none_iff.1 unavailable
    · rename_i processor begun began
      simp only at h
      split at h
      · rename_i recorded lost
        obtain ⟨rfl, rfl⟩ := Prod.mk.inj h
        exact .inr ⟨task, processor, begun, found, began, .inl ⟨recorded, lost, rfl, rfl⟩⟩
      · rename_i run raised joined
        obtain ⟨rfl, rfl⟩ := Prod.mk.inj h
        exact .inr ⟨task, processor, begun, found, began, .inr ⟨run, raised, joined, rfl, rfl⟩⟩

/-- A dispatch that succeeds gives the task to a context that comes back. -/
theorem dispatch_ok {interruption : Interruption} {id : TaskId} {s s' : Scheduler} {exit : Exit}
    (h : dispatch interruption id s = (.ok exit, s')) :
    ∃ task processor begun run raised, s.registry.get? id = some task ∧
      task.begin? = some (processor, begun) ∧
      interruption.carryOut begun.program processor = .joined run raised ∧
      exit = run.report.exit ∧ s' = (s.handOver processor begun).close begun run raised := by
  rcases dispatch_cases h with
    ⟨⟨_, failed⟩, _⟩ | ⟨task, processor, begun, found, began, ⟨_, _, failed, _⟩ |
      ⟨run, raised, joined, ok, ends⟩⟩
  · cases failed
  · cases failed
  · exact ⟨task, processor, begun, run, raised, found, began, joined, Except.ok.inj ok, ends⟩

/-- Dispatching a list fails with its first task, or goes on as dispatching the others does. -/
theorem dispatchEach_cons {plan : Plan} {id : TaskId} {rest : List TaskId} {s s' : Scheduler}
    {result : Except SchedulerError (List (TaskId × Exit))}
    (h : dispatchEach plan (id :: rest) s = (result, s')) :
    (∃ error, dispatch (plan s.registry.dispatches) id s = (.error error, s') ∧
        result = .error error) ∨
      ∃ exit next others, dispatch (plan s.registry.dispatches) id s = (.ok exit, next) ∧
        dispatchEach plan rest next = (others, s') ∧ result = others.map ((id, exit) :: ·) := by
  simp only [dispatchEach] at h
  split at h
  · rename_i error next failed
    obtain ⟨rfl, rfl⟩ := Prod.mk.inj h
    exact .inl ⟨error, failed, rfl⟩
  · rename_i exit next dispatched
    split at h
    · rename_i error last failed
      obtain ⟨rfl, rfl⟩ := Prod.mk.inj h
      exact .inr ⟨exit, next, _, dispatched, failed, rfl⟩
    · rename_i exits last dispatchedRest
      obtain ⟨rfl, rfl⟩ := Prod.mk.inj h
      exact .inr ⟨exit, next, _, dispatched, dispatchedRest, rfl⟩

theorem dispatchEach_cons_ok {plan : Plan} {id : TaskId} {rest : List TaskId} {s s' : Scheduler}
    {exits : List (TaskId × Exit)} (h : dispatchEach plan (id :: rest) s = (.ok exits, s')) :
    ∃ exit next others, dispatch (plan s.registry.dispatches) id s = (.ok exit, next) ∧
      dispatchEach plan rest next = (.ok others, s') := by
  rcases dispatchEach_cons h with ⟨_, _, failed⟩ | ⟨exit, next, result, dispatched, others, ends⟩
  · cases failed
  · cases result with
    | error _ => cases ends
    | ok others' => exact ⟨exit, next, others', dispatched, others⟩

/-! ## A sweep leaves less work -/

/-- A task that comes back from a run has less work left than before its dispatch. -/
theorem work_finish_lt {before dispatched : Task} {processor : Processor} {poll : Nat → Bool}
    (began : before.begin? = some (processor, dispatched)) (incomplete : before.isCompleted = false)
    (raised : Bool) :
    let run := processor.run dispatched.program poll
    (dispatched.finish run.processor run.report.exit raised).work < before.work := by
  intro run
  obtain ⟨held, rfl⟩ := Task.begin?_eq_some_iff.1 began
  have start : before.work = before.program.size - processor.pc + 1 := by
    simp [Task.work, incomplete, held]
  rw [start]
  cases exit : run.report.exit with
  | halted => simp [Task.work, Task.finish, Task.isCompleted, Phase.after, Exit.isTerminal]
  | exhausted => simp [Task.work, Task.finish, Task.isCompleted, Phase.after, Exit.isTerminal]
  | preempted =>
    have progress := Processor.run_pc_lt_of_preempted exit
    simp only [Task.work, Task.finish, Task.isCompleted, Phase.after, Exit.isTerminal]
    simp only [run] at progress ⊢
    simp
    omega

/-- A context that comes back has run the program with some sight of the flag. -/
theorem exists_run_of_carryOut_eq_joined {interruption : Interruption} {program : Program}
    {processor : Processor} {run : Processor.Run} {raised : Bool}
    (h : interruption.carryOut program processor = .joined run raised) :
    ∃ poll, run = processor.run program poll := by
  refine ⟨interruption.poll, ?_⟩
  cases interruption with
  | none =>
    injection h with h _
    exact h.symm
  | expiry executed =>
    injection h with h _
    exact h.symm
  | breakdown executed further =>
    simp only [Interruption.carryOut] at h
    split at h
    · cases h
    · injection h with h _
      exact h.symm

/-- A dispatch that succeeds replaces its task, by one with less work left if it was incomplete. -/
theorem registry_dispatch {interruption : Interruption} {id : TaskId} {s s' : Scheduler}
    {exit : Exit} (h : dispatch interruption id s = (.ok exit, s')) :
    ∃ old new, s.registry.get? id = some old ∧ new.id = id ∧ s'.registry = s.registry.set new ∧
      (old.isCompleted = false → new.work < old.work) := by
  obtain ⟨task, processor, begun, run, raised, found, began, joined, _, rfl⟩ := dispatch_ok h
  obtain ⟨poll, rfl⟩ := exists_run_of_carryOut_eq_joined joined
  have begun_id : begun.id = id := Registry.id_of_begin found began
  refine ⟨task, begun.finish (processor.run begun.program poll).processor
    (processor.run begun.program poll).report.exit raised, found, begun_id, ?_,
    fun incomplete => work_finish_lt began incomplete raised⟩
  simp only [registry_close, registry_handOver]
  exact Registry.set_set rfl

/-- Successful dispatches of different incomplete tasks leave less work. -/
theorem work_dispatchEach_le {plan : Plan} {ids : List TaskId} {s s' : Scheduler}
    {exits : List (TaskId × Exit)} (h : dispatchEach plan ids s = (.ok exits, s'))
    (distinct : ids.Nodup)
    (incomplete : ∀ id ∈ ids, ∀ task, s.registry.get? id = some task → task.isCompleted = false) :
    s'.registry.work + ids.length ≤ s.registry.work := by
  induction ids generalizing s exits with
  | nil =>
    obtain ⟨_, rfl⟩ := Prod.mk.inj h
    simp
  | cons id rest ih =>
    obtain ⟨exit, next, others, dispatched, rest_done⟩ := dispatchEach_cons_ok h
    obtain ⟨old, new, found, rfl, registry, less⟩ := registry_dispatch dispatched
    have drop := less (incomplete new.id List.mem_cons_self old found)
    have total : (s.registry.set new).work + old.work = s.registry.work + new.work :=
      Registry.total_set found Task.work
    have later := ih rest_done (List.nodup_cons.1 distinct).2 (by
      intro other mem task found_other
      have differs : new.id ≠ other := by
        rintro rfl
        exact (List.nodup_cons.1 distinct).1 mem
      rw [registry, Registry.get?_set_of_ne differs] at found_other
      exact incomplete other (List.mem_cons_of_mem _ mem) task found_other)
    rw [registry] at later
    simp only [List.length_cons]
    omega

/-- A sweep that succeeds while some task is incomplete leaves less work. -/
theorem work_sweep_lt {plan : Plan} {s s' : Scheduler} {exits : List (TaskId × Exit)}
    (h : sweep plan s = (.ok exits, s')) (left : s.registry.incompleteCount ≠ 0) :
    s'.registry.work < s.registry.work := by
  simp only [sweep] at h
  split at h
  · rename_i none_left
    rw [← Registry.length_runnable, none_left] at left
    exact absurd rfl left
  · rename_i id rest runnable
    have bound := work_dispatchEach_le h (runnable ▸ s.registry.nodup_runnable) (by
      intro other mem task found
      rw [← runnable, registry_openSweep] at *
      obtain ⟨same, found_same, incomplete⟩ := Registry.mem_runnable_iff.1 mem
      obtain rfl := Option.some.inj (found_same.symm.trans found)
      exact incomplete)
    simp only [List.length_cons, registry_openSweep] at bound
    omega

end Scheduler

end TimeShare
