import Mathlib.Data.List.Forall2
import TimeShare.Proofs.Scheduler.Dispatches

/-!
# Two lives before an observer

An observer sees a part of what there is to know about tasks, events, snapshots
and load errors. By its laws, what it sees of a dispatch depends on nothing but
what it saw of the task before. `agree_after` says that two lives whose calls
look the same to an observer look the same to it throughout, and so do the
answers to the calls.

* `SameTasks`: two registries look the same; each operation keeps this.
* `Agree`: two schedulers look the same. `Agree.dispatch`, `Agree.sweep`,
  `Agree.run`, `Agree.submit`: so do their results and what they leave.
-/

namespace TimeShare

namespace Scheduler

/-- What a call answers. -/
inductive Answer
  | admitted (result : Except SchedulerError TaskId)
  | admittedAll (tasks : List TaskId)
  | swept (result : Except SchedulerError (List (TaskId × Exit)))
  | ran (result : Except SchedulerError Summary)

/-- What a scheduler answers to a call. -/
def answer (plan : Plan) (s : Scheduler) : Call → Answer
  | .submit priority program => .admitted ((s.submit priority program).1.mapError .admission)
  | .submitSource priority source => .admitted (s.submitSource priority source).1
  | .submitAll programs => .admittedAll (s.submitAll programs).1
  | .sweep => .swept (s.sweep plan).1
  | .run => .ran (s.run plan).1

/-- What a scheduler answers to some calls, one after another. -/
def answerEach (plan : Plan) : List Call → Scheduler → List Answer
  | [], _ => []
  | call :: rest, s => s.answer plan call :: answerEach plan rest (s.perform plan call)

/-- What a new scheduler answers to some calls. -/
def answers (plan : Plan) (config : Config) (calls : List Call) : List Answer :=
  answerEach plan calls (new config)

end Scheduler

/-- Two context ends look the same, whose contexts had the tasks `first` and `second`. -/
inductive EndsAlike {View : Type} (task : Task → View) (event : Event → Option Event)
    (first second : Task) : ContextEnd → ContextEnd → Prop
  | lost {recorded recorded' : List Processor.Event} : task first = task second →
    (recorded.map (.ran first.id)).filterMap event =
      (recorded'.map (.ran second.id)).filterMap event →
    EndsAlike task event first second (.lost recorded) (.lost recorded')
  | joined {run run' : Processor.Run} {raised raised' : Bool} : run.report = run'.report →
    task (first.finish run.processor run.report.exit raised) =
      task (second.finish run'.processor run'.report.exit raised') →
    (run.events.map (.ran first.id)).filterMap event =
      (run'.events.map (.ran second.id)).filterMap event →
    event (Scheduler.closing first.id run) = event (Scheduler.closing second.id run') →
    EndsAlike task event first second (.joined run raised) (.joined run' raised')

/-- One who sees a part of what there is to know. -/
structure Observer (View : Type) where
  task : Task → View
  event : Event → Option Event
  snapshot : Snapshot → Snapshot
  loadError : LoadError → LoadError
  /-- Which tasks there are and which of them are dispatched is seen. -/
  id : ∀ {first second}, task first = task second → first.id = second.id
  isCompleted : ∀ {first second}, task first = task second →
    first.isCompleted = second.isCompleted
  dispatches : ∀ {first second}, task first = task second → first.dispatches = second.dispatches
  snapshot_eq : ∀ {first second}, task first = task second →
    snapshot first.snapshot = snapshot second.snapshot
  unavailable : ∀ {first second}, task first = task second → first.begin? = none →
    second.begin? = none
  /-- What is seen of a dispatch depends on nothing but what was seen of the task. -/
  dispatch : ∀ {first second processor begun}, task first = task second →
    first.begin? = some (processor, begun) →
    ∃ processor' begun', second.begin? = some (processor', begun') ∧
      event (.taskDispatched begun.id begun.priority processor.pc) =
        event (.taskDispatched begun'.id begun'.priority processor'.pc) ∧
      ∀ interruption : Interruption, EndsAlike task event begun begun'
        (interruption.carryOut begun.program processor)
        (interruption.carryOut begun'.program processor')

namespace Observer

open Scheduler (Answer)

variable {View : Type} {O : Observer View}

/-- What an observer sees of the summary of a run. -/
def summary (O : Observer View) (summary : Summary) : Summary :=
  { summary with tasks := summary.tasks.map O.snapshot }

/-- What an observer sees of an answer. -/
def answer (O : Observer View) : Answer → Answer
  | .admitted (.error (.load error)) => .admitted (.error (.load (O.loadError error)))
  | .ran result => .ran (result.map O.summary)
  | answer => answer

/-- What is seen of two tasks on their admission is the same. -/
def SameAdmission (O : Observer View) (first second : Int32 × Program) : Prop :=
  ∀ id, O.task (.fresh id first.1 first.2) = O.task (.fresh id second.1 second.2) ∧
    O.event (.taskAdmitted id first.1 first.2.size) =
      O.event (.taskAdmitted id second.1 second.2.size)

/-- Two calls look the same. -/
inductive SameCall (O : Observer View) : Call → Call → Prop
  | submit {priority priority' : Int32} {program program' : Program} :
    SameAdmission O (priority, program) (priority', program') →
    SameCall O (.submit priority program) (.submit priority' program')
  | submitSource {priority priority' : Int32} {source source' : String}
      {program program' : Program} : Program.ofString source = .ok program →
    Program.ofString source' = .ok program' →
    SameAdmission O (priority, program) (priority', program') →
    SameCall O (.submitSource priority source) (.submitSource priority' source')
  | unloadable {priority priority' : Int32} {source source' : String} {error error' : LoadError} :
    Program.ofString source = .error error → Program.ofString source' = .error error' →
    O.loadError error = O.loadError error' →
    SameCall O (.submitSource priority source) (.submitSource priority' source')
  | submitAll {programs programs' : List (Int32 × Program)} :
    List.Forall₂ (SameAdmission O) programs programs' →
    SameCall O (.submitAll programs) (.submitAll programs')
  | sweep : SameCall O .sweep .sweep
  | run : SameCall O .run .run

/-! ## Registries -/

/-- Two registries have room for as many tasks, and their tasks look the same. -/
structure SameTasks (O : Observer View) (registry registry' : Registry) : Prop where
  capacity : registry.capacity = registry'.capacity
  tasks : registry.tasks.toList.map O.task = registry'.tasks.toList.map O.task

/-- Lists that look the same have the same values of whatever is seen. -/
theorem map_eq_of_seen {β : Type} {f : Task → β} {first second : List Task}
    (seen : ∀ {a b}, O.task a = O.task b → f a = f b)
    (same : first.map O.task = second.map O.task) : first.map f = second.map f := by
  induction first generalizing second with
  | nil =>
    cases second with
    | nil => rfl
    | cons _ _ => cases same
  | cons head rest ih =>
    cases second with
    | nil => cases same
    | cons head' rest' =>
      rw [List.map_cons, List.map_cons] at same
      obtain ⟨here, later⟩ := List.cons.inj same
      rw [List.map_cons, List.map_cons, seen here, ih later]

namespace SameTasks

variable {registry registry' : Registry}

theorem get? (same : SameTasks O registry registry') (id : TaskId) :
    (registry.get? id).map O.task = (registry'.get? id).map O.task := by
  rw [Registry.get?, Registry.get?, ← Array.getElem?_toList, ← Array.getElem?_toList,
    ← List.getElem?_map, same.tasks, List.getElem?_map]

theorem size (same : SameTasks O registry registry') : registry.size = registry'.size := by
  have length := congrArg List.length same.tasks
  rwa [List.length_map, List.length_map, Array.length_toList, Array.length_toList] at length

theorem set {first second : Task} (same : SameTasks O registry registry')
    (seen : O.task first = O.task second) :
    SameTasks O (registry.set first) (registry'.set second) where
  capacity := same.capacity
  tasks := by
    rw [Registry.set, Registry.set, Array.toList_setIfInBounds, Array.toList_setIfInBounds,
      List.map_set, List.map_set, same.tasks, seen, O.id seen]

/-- The same tasks are incomplete. -/
theorem runnable (same : SameTasks O registry registry') :
    registry.runnable = registry'.runnable := by
  have listed : ∀ registry : Registry, registry.runnable =
      (registry.tasks.toList.map fun task => (task.isCompleted, task.id)).filterMap fun entry =>
        if entry.1 then none else some entry.2 := by
    intro registry
    rw [Registry.runnable, List.filterMap_map, ← List.filterMap_eq_map, List.filterMap_filter]
    congr 1
    funext task
    simp only [Function.comp_apply]
    cases task.isCompleted <;> rfl
  have seen : ∀ {a b : Task}, O.task a = O.task b →
      (a.isCompleted, a.id) = (b.isCompleted, b.id) :=
    fun same => Prod.ext (O.isCompleted same) (O.id same)
  rw [listed, listed, map_eq_of_seen seen same.tasks]

theorem incompleteCount (same : SameTasks O registry registry') :
    registry.incompleteCount = registry'.incompleteCount := by
  rw [← Registry.length_runnable, ← Registry.length_runnable, same.runnable]

theorem dispatches (same : SameTasks O registry registry') :
    registry.dispatches = registry'.dispatches := by
  rw [Registry.dispatches, Registry.total, map_eq_of_seen O.dispatches same.tasks]
  rfl

theorem snapshots (same : SameTasks O registry registry') :
    registry.snapshots.map O.snapshot = registry'.snapshots.map O.snapshot := by
  rw [Registry.snapshots, Registry.snapshots, List.map_map, List.map_map]
  exact map_eq_of_seen O.snapshot_eq same.tasks

/-- Both registries admit a task under the same identifier, or neither does. -/
theorem insert {first second : Int32 × Program} (same : SameTasks O registry registry')
    (admission : SameAdmission O first second) :
    (∃ error, registry.insert first.1 first.2 = .error error ∧
        registry'.insert second.1 second.2 = .error error) ∨
      ∃ id grown grown', registry.insert first.1 first.2 = .ok (id, grown) ∧
        registry'.insert second.1 second.2 = .ok (id, grown') ∧ SameTasks O grown grown' := by
  have admits : ∀ (registry : Registry) (admitted : Int32 × Program),
      registry.size < registry.limit → ∃ grown,
        registry.insert admitted.1 admitted.2 = .ok (UInt32.ofNat registry.size, grown) ∧
        grown.capacity = registry.capacity :=
    fun _ _ room => ⟨_, dif_pos room, rfl⟩
  have limit : registry.limit = registry'.limit := by
    rw [Registry.limit, same.capacity, Registry.limit]
  by_cases room : registry.size < registry.limit
  · obtain ⟨grown, inserted, capacity⟩ := admits registry first room
    rw [same.size, limit] at room
    obtain ⟨grown', inserted', capacity'⟩ := admits registry' second room
    rw [← same.size] at inserted'
    refine .inr ⟨_, grown, grown', inserted, inserted', ?_, ?_⟩
    · rw [capacity, capacity', same.capacity]
    · rw [(Registry.insert_eq_ok inserted).2, (Registry.insert_eq_ok inserted').2,
        Array.toList_push, Array.toList_push, List.map_append, List.map_append, same.tasks,
        List.map_singleton, List.map_singleton, (admission _).1]
  · refine .inl ⟨⟨registry.capacity⟩, dif_neg room, ?_⟩
    rw [same.size, limit] at room
    rw [same.capacity]
    exact dif_neg room

end SameTasks

end Observer

namespace Scheduler

open Observer (SameTasks SameAdmission)

variable {View : Type} {O : Observer View} {plan : Plan} {s s' t t' : Scheduler}

/-! ## Schedulers -/

/-- Two schedulers look the same. -/
structure Agree (O : Observer View) (s t : Scheduler) : Prop where
  tasks : SameTasks O s.registry t.registry
  statistics : s.statistics = t.statistics
  trace : s.trace.filterMap O.event = t.trace.filterMap O.event

/-- Schedulers that look the same and change in ways that look the same look the same. -/
theorem Agree.extend {more more' : List Event} (agree : Agree O s t)
    (tasks : SameTasks O s'.registry t'.registry) (statistics : s'.statistics = t'.statistics)
    (first : s'.trace = s.trace ++ more) (second : t'.trace = t.trace ++ more')
    (same : more.filterMap O.event = more'.filterMap O.event) : Agree O s' t' where
  tasks := tasks
  statistics := statistics
  trace := by rw [first, second, List.filterMap_append, List.filterMap_append, agree.trace, same]

theorem filterMap_singleton {event event' : Event} (same : O.event event = O.event event') :
    [event].filterMap O.event = [event'].filterMap O.event := by
  rw [List.filterMap_cons, List.filterMap_cons, same]

theorem Agree.note (agree : Agree O s t) (notice notice' : Notice) :
    Agree O (s.note notice) (t.note notice') where
  tasks := agree.tasks
  statistics := agree.statistics
  trace := by rw [trace_note, trace_note, agree.trace]

theorem Agree.record {event event' : Event} (agree : Agree O s t)
    (same : O.event event = O.event event') : Agree O (s.record event) (t.record event') :=
  agree.extend agree.tasks agree.statistics (trace_record s event) (trace_record t event')
    (filterMap_singleton same)

/-! ### Dispatches -/

section Dispatch

variable {first second begun begun' : Task} {processor processor' : Processor}

/-- What a context records looks the same in both lives. -/
theorem Agree.recordRun {events events' : List Processor.Event} {id id' : TaskId}
    (agree : Agree O s t) (same : (events.map (.ran id)).filterMap O.event =
      (events'.map (.ran id')).filterMap O.event) :
    Agree O (s.recordRun id events) (t.recordRun id' events') :=
  agree.extend agree.tasks agree.statistics (trace_recordRun s id events)
    (trace_recordRun t id' events') same

/-- Dispatches whose contexts break down alike. -/
theorem Agree.lose {recorded recorded' : List Processor.Event} (agree : Agree O s t)
    (departs : O.event (.taskDispatched begun.id begun.priority processor.pc) =
      O.event (.taskDispatched begun'.id begun'.priority processor'.pc))
    (seen : O.task begun = O.task begun')
    (records : (recorded.map (.ran begun.id)).filterMap O.event =
      (recorded'.map (.ran begun'.id)).filterMap O.event) :
    Agree O ((s.handOver processor begun).recordRun begun.id recorded)
      ((t.handOver processor' begun').recordRun begun'.id recorded') := by
  refine Agree.recordRun (agree.extend (agree.tasks.set seen) ?_ (trace_handOver s processor begun)
    (trace_handOver t processor' begun') (filterMap_singleton departs)) records
  rw [statistics_handOver, statistics_handOver, agree.statistics]

/-- Dispatches whose contexts come back alike. -/
theorem Agree.join {run run' : Processor.Run} {raised raised' : Bool} (agree : Agree O s t)
    (departs : O.event (.taskDispatched begun.id begun.priority processor.pc) =
      O.event (.taskDispatched begun'.id begun'.priority processor'.pc))
    (report : run.report = run'.report)
    (seen : O.task (begun.finish run.processor run.report.exit raised) =
      O.task (begun'.finish run'.processor run'.report.exit raised'))
    (records : (run.events.map (.ran begun.id)).filterMap O.event =
      (run'.events.map (.ran begun'.id)).filterMap O.event)
    (closes : O.event (closing begun.id run) = O.event (closing begun'.id run')) :
    Agree O ((s.handOver processor begun).close begun run raised)
      ((t.handOver processor' begun').close begun' run' raised') where
  tasks := by
    rw [registry_join, registry_join]
    exact agree.tasks.set seen
  statistics := by
    rw [statistics_close, statistics_close, statistics_handOver, statistics_handOver,
      agree.statistics, report]
  trace := by
    simp only [trace_close, trace_handOver, List.filterMap_append, agree.trace, records,
      filterMap_singleton departs, filterMap_singleton closes]

end Dispatch

/-- A dispatch of tasks that look the same ends alike. -/
theorem Agree.dispatch {interruption : Interruption} {id : TaskId}
    {result : Except SchedulerError Exit} (agree : Agree O s t)
    (h : dispatch interruption id s = (result, s')) :
    ∃ t', dispatch interruption id t = (result, t') ∧ Agree O s' t' := by
  have look := agree.tasks.get? id
  unfold Scheduler.dispatch at h ⊢
  cases found : s.registry.get? id with
  | none =>
    rw [found, Option.map_none, eq_comm, Option.map_eq_none_iff] at look
    rw [found] at h
    rw [look]
    obtain ⟨rfl, rfl⟩ := Prod.mk.inj h
    exact ⟨t, rfl, agree⟩
  | some first =>
    rw [found, Option.map_some, eq_comm, Option.map_eq_some_iff] at look
    obtain ⟨second, found', seen⟩ := look
    cases began : first.begin? with
    | none =>
      simp only [found, began] at h
      simp only [found', O.unavailable seen.symm began]
      obtain ⟨rfl, rfl⟩ := Prod.mk.inj h
      exact ⟨t, rfl, agree⟩
    | some handed =>
      obtain ⟨processor, begun⟩ := handed
      obtain ⟨processor', begun', began', departs, alike⟩ := O.dispatch seen.symm began
      have ends := alike interruption
      simp only [found, began] at h
      simp only [found', began']
      revert ends h
      generalize interruption.carryOut begun.program processor = ended
      generalize interruption.carryOut begun'.program processor' = ended'
      intro ends h
      cases ends with
      | lost same records =>
        obtain ⟨rfl, rfl⟩ := Prod.mk.inj h
        exact ⟨_, rfl, agree.lose departs same records⟩
      | joined report same records closes =>
        obtain ⟨rfl, rfl⟩ := Prod.mk.inj h
        rw [report]
        exact ⟨_, rfl, agree.join departs report same records closes⟩

/-! ### Sweeps and runs -/

theorem Agree.openSweep (agree : Agree O s t) : Agree O s.openSweep t.openSweep := by
  refine agree.extend agree.tasks ?_ (trace_openSweep s) (trace_openSweep t) ?_
  · rw [statistics_openSweep, statistics_openSweep, agree.statistics]
  · rw [agree.statistics, agree.tasks.incompleteCount]

theorem Agree.dispatchEach {ids : List TaskId}
    {result : Except SchedulerError (List (TaskId × Exit))} (agree : Agree O s t)
    (h : dispatchEach plan ids s = (result, s')) :
    ∃ t', dispatchEach plan ids t = (result, t') ∧ Agree O s' t' := by
  induction ids generalizing s t result with
  | nil =>
    obtain ⟨rfl, rfl⟩ := Prod.mk.inj h
    exact ⟨t, rfl, agree⟩
  | cons id rest ih =>
    rcases dispatchEach_cons h with
      ⟨error, failed, rfl⟩ | ⟨exit, next, others, dispatched, rest_done, rfl⟩
    · rw [agree.tasks.dispatches] at failed
      obtain ⟨t', failed', agree'⟩ := agree.dispatch failed
      refine ⟨t', ?_, agree'⟩
      rw [Scheduler.dispatchEach, failed']
    · rw [agree.tasks.dispatches] at dispatched
      obtain ⟨next', dispatched', agree'⟩ := agree.dispatch dispatched
      obtain ⟨t', rest_done', agree''⟩ := ih agree' rest_done
      refine ⟨t', ?_, agree''⟩
      rw [Scheduler.dispatchEach, dispatched']
      simp only [rest_done']
      cases others <;> rfl

theorem Agree.sweep (plan : Plan) {result : Except SchedulerError (List (TaskId × Exit))}
    (agree : Agree O s t) (h : s.sweep plan = (result, s')) :
    ∃ t', t.sweep plan = (result, t') ∧ Agree O s' t' := by
  rcases Nat.eq_zero_or_pos s.registry.incompleteCount with finished | left
  · rw [sweep_of_finished plan finished] at h
    rw [agree.tasks.incompleteCount] at finished
    rw [sweep_of_finished plan finished]
    obtain ⟨rfl, rfl⟩ := Prod.mk.inj h
    exact ⟨t, rfl, agree⟩
  · have some_left := Nat.pos_iff_ne_zero.1 left
    rw [sweep_of_unfinished plan some_left, agree.tasks.runnable] at h
    rw [agree.tasks.incompleteCount] at some_left
    rw [sweep_of_unfinished plan some_left]
    exact agree.openSweep.dispatchEach h

theorem Agree.sweepUntilDone {sweeps : Nat} {result : Except SchedulerError Nat}
    (agree : Agree O s t) (config : s.config = t.config)
    (h : sweepUntilDone plan sweeps s = (result, s')) :
    ∃ t', sweepUntilDone plan sweeps t = (result, t') ∧ Agree O s' t' := by
  fun_induction Scheduler.sweepUntilDone plan sweeps s generalizing t with
  | case1 sweeps s finished =>
    rw [agree.tasks.incompleteCount] at finished
    rw [Scheduler.sweepUntilDone, if_pos finished]
    obtain ⟨rfl, rfl⟩ := Prod.mk.inj h
    exact ⟨t, rfl, agree⟩
  | case2 sweeps s left limit used =>
    rw [agree.tasks.incompleteCount] at left h
    rw [config] at used
    rw [Scheduler.sweepUntilDone, if_neg left, used]
    obtain ⟨rfl, rfl⟩ := Prod.mk.inj h
    exact ⟨_, rfl, agree.note _ _⟩
  | case3 sweeps s left free error next made =>
    obtain ⟨rfl, rfl⟩ := Prod.mk.inj h
    obtain ⟨t', made', agree'⟩ := agree.sweep plan made
    rw [agree.tasks.incompleteCount] at left
    rw [config] at free
    exact ⟨t', sweepUntilDone_of_error left free made', agree'⟩
  | case4 sweeps s left free exits next made ih =>
    obtain ⟨next', made', agree'⟩ := agree.sweep plan made
    have config' : next.config = next'.config := by
      have kept := config_sweep plan s
      have kept' := config_sweep plan t
      rw [made] at kept
      rw [made'] at kept'
      rw [kept, kept', config]
    obtain ⟨t', rest, agree''⟩ := ih agree' config' h
    rw [agree.tasks.incompleteCount] at left
    rw [config] at free
    exact ⟨t', (sweepUntilDone_of_ok left free made').trans rest, agree''⟩

/-! ### Admissions -/

theorem trace_recordAdmission (s : Scheduler) (id : TaskId) (priority : Int32)
    (program : Program) :
    (s.recordAdmission id priority program).trace =
      s.trace ++ [.taskAdmitted id priority program.size] := by
  unfold recordAdmission
  dsimp only
  split
  · rw [trace_record, trace_note]
  · rw [trace_note, trace_record, trace_note]

theorem registry_recordAdmission (s : Scheduler) (id : TaskId) (priority : Int32)
    (program : Program) : (s.recordAdmission id priority program).registry = s.registry := by
  unfold recordAdmission
  dsimp only
  split <;> rfl

theorem statistics_recordAdmission (s : Scheduler) (id : TaskId) (priority : Int32)
    (program : Program) : (s.recordAdmission id priority program).statistics = s.statistics := by
  unfold recordAdmission
  dsimp only
  split <;> rfl

theorem submitSource_of_ok {priority : Int32} {source : String} {program : Program}
    (loaded : Program.ofString source = .ok program) :
    s.submitSource priority source =
      ((s.submit priority program).1.mapError .admission, (s.submit priority program).2) := by
  rw [submitSource, loaded]

theorem Agree.submit {first second : Int32 × Program} (agree : Agree O s t)
    (same : SameAdmission O first second) :
    (s.submit first.1 first.2).1 = (t.submit second.1 second.2).1 ∧
      Agree O (s.submit first.1 first.2).2 (t.submit second.1 second.2).2 := by
  unfold Scheduler.submit
  rcases agree.tasks.insert same with
    ⟨error, refused, refused'⟩ | ⟨id, grown, grown', inserted, inserted', tasks⟩
  · rw [refused, refused']
    refine ⟨rfl, agree.record ?_⟩
    rw [agree.tasks.capacity]
  · rw [inserted, inserted']
    refine ⟨rfl, agree.extend ?_ ?_ (trace_recordAdmission _ id _ _)
      (trace_recordAdmission _ id _ _) (filterMap_singleton (same id).2)⟩
    · rw [registry_recordAdmission, registry_recordAdmission]
      exact tasks
    · rw [statistics_recordAdmission, statistics_recordAdmission]
      exact agree.statistics

/-- Admitting programs admits the first one and then the others. -/
theorem submitEach_cons (priority : Int32) (program : Program)
    (rest : List (Int32 × Program)) (s : Scheduler) :
    submitEach ((priority, program) :: rest) s =
      let admitted := s.submit priority program
      let others := submitEach rest admitted.2
      (match admitted.1 with
        | .ok task => (task :: others.1.1, others.1.2)
        | .error _ => (others.1.1, others.1.2 + 1), others.2) := by
  rw [submitEach]
  rcases s.submit priority program with ⟨_ | _, next⟩ <;> rfl

/-- A batch gives notice if some of its programs were refused. -/
theorem submitAll_eq (s : Scheduler) (programs : List (Int32 × Program)) :
    s.submitAll programs =
      let each := submitEach programs s
      if each.1.2 = 0 then (each.1.1, each.2)
      else (each.1.1,
        each.2.note (.programsDropped each.1.1.length each.1.2 each.2.registry.capacity)) :=
  rfl

theorem Agree.submitEach {programs programs' : List (Int32 × Program)} (agree : Agree O s t)
    (same : List.Forall₂ (SameAdmission O) programs programs') :
    (submitEach programs s).1 = (submitEach programs' t).1 ∧
      Agree O (submitEach programs s).2 (submitEach programs' t).2 := by
  induction same generalizing s t with
  | nil => exact ⟨rfl, agree⟩
  | @cons first second rest rest' here _ ih =>
    obtain ⟨priority, program⟩ := first
    obtain ⟨priority', program'⟩ := second
    obtain ⟨result, agree'⟩ := agree.submit here
    obtain ⟨results, agree''⟩ := ih agree'
    rw [submitEach_cons, submitEach_cons]
    dsimp only at result results ⊢
    rw [result, results]
    exact ⟨rfl, agree''⟩

theorem Agree.submitAll {programs programs' : List (Int32 × Program)} (agree : Agree O s t)
    (same : List.Forall₂ (SameAdmission O) programs programs') :
    (s.submitAll programs).1 = (t.submitAll programs').1 ∧
      Agree O (s.submitAll programs).2 (t.submitAll programs').2 := by
  obtain ⟨results, agree'⟩ := agree.submitEach same
  rw [submitAll_eq, submitAll_eq]
  dsimp only
  rw [results]
  split
  · exact ⟨rfl, agree'⟩
  · exact ⟨rfl, agree'.note _ _⟩

theorem Agree.run (plan : Plan) (agree : Agree O s t) (config : s.config = t.config) :
    (s.run plan).1.map O.summary = (t.run plan).1.map O.summary ∧
      Agree O (s.run plan).2 (t.run plan).2 := by
  have started : Agree O (s.record (.schedulerStarted s.registry.size s.config.timeSlice.micros))
      (t.record (.schedulerStarted t.registry.size t.config.timeSlice.micros)) := by
    refine agree.record ?_
    rw [agree.tasks.size, config]
  cases done : Scheduler.sweepUntilDone plan 0
      (s.record (.schedulerStarted s.registry.size s.config.timeSlice.micros)) with
  | mk result last =>
    obtain ⟨last', done', agree'⟩ := started.sweepUntilDone config done
    unfold Scheduler.run
    dsimp only
    rw [done, done']
    cases result with
    | error error => exact ⟨rfl, agree'⟩
    | ok sweeps =>
      refine ⟨congrArg Except.ok ?_, agree'.record rfl⟩
      rw [Observer.summary, Observer.summary, registry_record, registry_record,
        agree'.tasks.snapshots]
      exact congrArg (Summary.mk sweeps _) agree'.statistics

/-! ### Calls -/

theorem config_perform (plan : Plan) (s : Scheduler) (call : Call) :
    (s.perform plan call).config = s.config :=
  Steps.config (Strides.steps (strides_perform s call))

/-- Calls that look the same have answers that look the same, and leave schedulers that do. -/
theorem Agree.perform (plan : Plan) {call call' : Call} (agree : Agree O s t)
    (config : s.config = t.config) (same : O.SameCall call call') :
    O.answer (s.answer plan call) = O.answer (t.answer plan call') ∧
      Agree O (s.perform plan call) (t.perform plan call') := by
  cases same with
  | submit here =>
    obtain ⟨result, agree'⟩ := agree.submit here
    refine ⟨?_, agree'⟩
    rw [answer, answer, result]
  | @submitSource priority priority' source source' program program' loaded loaded' here =>
    obtain ⟨result, agree'⟩ := agree.submit here
    rw [answer, answer, Scheduler.perform, Scheduler.perform, submitSource_of_ok loaded,
      submitSource_of_ok loaded', result]
    exact ⟨rfl, agree'⟩
  | unloadable fails fails' error =>
    rw [answer, answer, Scheduler.perform, Scheduler.perform, submitSource, submitSource, fails,
      fails']
    refine ⟨?_, agree⟩
    rw [Observer.answer, Observer.answer, error]
  | submitAll each =>
    obtain ⟨result, agree'⟩ := agree.submitAll each
    refine ⟨?_, agree'⟩
    rw [answer, answer, result]
  | sweep =>
    cases swept : s.sweep plan with
    | mk result next =>
      obtain ⟨next', swept', agree'⟩ := agree.sweep plan swept
      rw [answer, answer, Scheduler.perform, Scheduler.perform, swept, swept']
      exact ⟨rfl, agree'⟩
  | run =>
    obtain ⟨result, agree'⟩ := agree.run plan config
    refine ⟨?_, agree'⟩
    rw [answer, answer, Observer.answer, Observer.answer, result]

theorem Agree.calls {calls calls' : List Call} (agree : Agree O s t)
    (config : s.config = t.config) (same : List.Forall₂ O.SameCall calls calls') :
    (answerEach plan calls s).map O.answer = (answerEach plan calls' t).map O.answer ∧
      Agree O (calls.foldl (Scheduler.perform plan) s)
        (calls'.foldl (Scheduler.perform plan) t) := by
  induction same generalizing s t with
  | nil => exact ⟨rfl, agree⟩
  | @cons call call' rest rest' here _ ih =>
    obtain ⟨result, agree'⟩ := agree.perform plan config here
    have config' : (s.perform plan call).config = (t.perform plan call').config := by
      rw [config_perform, config_perform, config]
    obtain ⟨results, agree''⟩ := ih agree' config'
    refine ⟨?_, agree''⟩
    rw [answerEach, answerEach, List.map_cons, List.map_cons, result, results]

/-- Two lives whose calls look the same look the same throughout, and so do the answers. -/
theorem agree_after (O : Observer View) (plan : Plan) (config : Config) {calls calls' : List Call}
    (same : List.Forall₂ O.SameCall calls calls') :
    (answers plan config calls).map O.answer = (answers plan config calls').map O.answer ∧
      Agree O (after plan config calls) (after plan config calls') :=
  Agree.calls ⟨⟨rfl, rfl⟩, rfl, rfl⟩ rfl same

end Scheduler

end TimeShare
