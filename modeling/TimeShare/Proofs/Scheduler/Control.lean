import TimeShare.Proofs.Processor.Control
import TimeShare.Proofs.Scheduler.Observer

/-!
# Scheduling without data

`Observer.control` sees of a task everything but data: the kinds of its
instructions, but not their registers and values, and the position and the stack
pointer of its processor, but not what registers and stack hold.
`control_independent` says that this is all that scheduling depends on.

* `Task.control_begin`, `Task.control_finish`: what it sees of a dispatch depends
  on what it saw before.
* `reports_after`: what is said of reports is said of the runs that contexts made.
  `reports_eq`: where no difference is seen, these reported the same.
-/

namespace TimeShare

/-- What control has to do with in a task. -/
structure Task.Control where
  id : TaskId
  priority : Int32
  kinds : List Instruction.Kind
  phase : Phase
  raised : Bool
  /-- The position and the stack pointer of the processor state, unless a context has it. -/
  place : Option (Nat × Int)
  lastExit : Option Exit
  dispatches : Nat
  deriving DecidableEq

def Task.control (task : Task) : Task.Control where
  id := task.id
  priority := task.priority
  kinds := task.program.kinds
  phase := task.phase
  raised := task.raised
  place := task.processor.map fun processor => (processor.pc, processor.stackPointer)
  lastExit := task.lastExit
  dispatches := task.dispatches

/-- A snapshot without the registers. -/
def Snapshot.withoutRegisters (snapshot : Snapshot) : Snapshot :=
  { snapshot with registers := none }

/-- An event without the data that it tells of. -/
def Event.outline : Event → Event
  | ran task event => ran task event.outline
  | event => event

/-- Two calls admit programs with the same kinds of instructions, or none. -/
inductive Call.SameKinds : Call → Call → Prop
  | submit (priority : Int32) {program program' : Program} : program.kinds = program'.kinds →
    SameKinds (.submit priority program) (.submit priority program')
  | submitSource (priority : Int32) {source source' : String} {program program' : Program} :
    Program.ofString source = .ok program → Program.ofString source' = .ok program' →
    program.kinds = program'.kinds →
    SameKinds (.submitSource priority source) (.submitSource priority source')
  | unloadable (priority : Int32) {source source' : String} {error error' : LoadError} :
    Program.ofString source = .error error → Program.ofString source' = .error error' →
    SameKinds (.submitSource priority source) (.submitSource priority source')
  | submitAll {programs programs' : List (Int32 × Program)} :
    List.Forall₂ (fun first second => first.1 = second.1 ∧ first.2.kinds = second.2.kinds)
      programs programs' →
    SameKinds (.submitAll programs) (.submitAll programs')
  | sweep : SameKinds .sweep .sweep
  | run : SameKinds .run .run

/-! ## An observer without data -/

section Control

variable {first second begun : Task} {processor processor' : Processor}

/-- Tasks that are seen at one place have their processors abreast. -/
theorem Task.abreast_of_control (same : first.control = second.control)
    (held : first.processor = some processor) :
    ∃ processor', second.processor = some processor' ∧ processor.Abreast processor' := by
  have place := congrArg Task.Control.place same
  rw [control, control, held, Option.map_some, eq_comm, Option.map_eq_some_iff] at place
  obtain ⟨processor', held', here⟩ := place
  obtain ⟨pc, pointer⟩ := Prod.mk.inj here
  refine ⟨processor', held', pc.symm, ?_⟩
  rw [Processor.stackPointer, Stack.pointer, Processor.stackPointer, Stack.pointer] at pointer
  omega

/-- A snapshot without the registers tells only what control has to do with. -/
theorem Task.withoutRegisters_snapshot (task : Task) :
    task.snapshot.withoutRegisters =
      { id := task.control.id
        priority := task.control.priority
        phase := task.control.phase
        completed := task.control.phase = .completed
        exit := task.control.lastExit
        dispatches := UInt64.ofNat task.control.dispatches
        pc := task.control.place.map fun place => UInt64.ofNat place.1
        stackPointer := task.control.place.map fun place => Int64.ofInt place.2
        registers := none } := by
  rw [Snapshot.withoutRegisters, snapshot, control]
  dsimp only
  rw [Option.map_map, Option.map_map]
  rfl

/-- What control has to do with in a task that comes back from a run. -/
theorem Task.control_finish {run run' : Processor.Run} (same : first.control = second.control)
    (runs : run.Abreast run') (raised : Bool) :
    (first.finish run.processor run.report.exit raised).control =
      (second.finish run'.processor run'.report.exit raised).control := by
  have id := congrArg Task.Control.id same
  have priority := congrArg Task.Control.priority same
  have kinds := congrArg Task.Control.kinds same
  have dispatches := congrArg Task.Control.dispatches same
  simp only [control] at id priority kinds dispatches
  simp only [control, finish, id, priority, kinds, dispatches, runs.report, runs.processor.pc,
    runs.processor.stackPointer, Option.map_some]

/-- Two tasks that control sees no difference between can be dispatched alike. -/
theorem Task.control_begin (same : first.control = second.control)
    (began : first.begin? = some (processor, begun)) :
    ∃ processor' begun', second.begin? = some (processor', begun') ∧
      processor.Abreast processor' ∧ begun.control = begun'.control := by
  obtain ⟨held, rfl⟩ := begin?_eq_some_iff.1 began
  obtain ⟨processor', held', abreast⟩ := abreast_of_control same held
  refine ⟨processor', _, begin?_eq_some_iff.2 ⟨held', rfl⟩, abreast, ?_⟩
  have id := congrArg Task.Control.id same
  have priority := congrArg Task.Control.priority same
  have kinds := congrArg Task.Control.kinds same
  have dispatches := congrArg Task.Control.dispatches same
  have lastExit := congrArg Task.Control.lastExit same
  simp only [control] at id priority kinds dispatches lastExit
  simp only [control, id, priority, kinds, dispatches, lastExit, Option.map_none]

/-- Records with the same outlines have them also when they are marked with their task. -/
theorem outline_ran {events events' : List Processor.Event} (id : TaskId)
    (same : events.map Processor.Event.outline = events'.map Processor.Event.outline) :
    (events.map (.ran id)).filterMap (fun event => some (Event.outline event)) =
      (events'.map (.ran id)).filterMap (fun event => some (Event.outline event)) := by
  have marked : ∀ events : List Processor.Event,
      (events.map (.ran id)).filterMap (fun event => some (Event.outline event)) =
        (events.map Processor.Event.outline).map (.ran id) := by
    intro events
    rw [List.filterMap_map, List.map_map, ← List.filterMap_eq_map]
    rfl
  rw [marked, marked, same]

end Control

/-- One who sees no data. -/
def Observer.control : Observer Task.Control where
  task := Task.control
  event event := some event.outline
  snapshot := Snapshot.withoutRegisters
  loadError _ := .unreadable "" ""
  id same := congrArg Task.Control.id same
  isCompleted same := by
    rw [Task.isCompleted, Task.isCompleted]
    exact congrArg (fun control : Task.Control => decide (control.phase = .completed)) same
  dispatches same := congrArg Task.Control.dispatches same
  snapshot_eq same := by rw [Task.withoutRegisters_snapshot, same, Task.withoutRegisters_snapshot]
  unavailable := by
    intro first second same gone
    have place := congrArg Task.Control.place same
    rw [Task.begin?, Option.map_eq_none_iff] at gone ⊢
    rwa [Task.control, gone, Option.map_none, eq_comm, Task.control, Option.map_eq_none_iff] at place
  dispatch := by
    intro first second processor begun same began
    obtain ⟨processor', begun', began', abreast, control⟩ := Task.control_begin same began
    have id : begun.id = begun'.id := congrArg Task.Control.id control
    have priority : begun.priority = begun'.priority := congrArg Task.Control.priority control
    have kinds : begun.program.kinds = begun'.program.kinds := congrArg Task.Control.kinds control
    refine ⟨processor', begun', began', ?_, fun interruption => ?_⟩
    · rw [id, priority, abreast.pc]
    · have ends := interruption.carryOut_abreast kinds abreast
      revert ends
      generalize interruption.carryOut begun.program processor = ended
      generalize interruption.carryOut begun'.program processor' = ended'
      intro ends
      cases ends with
      | joined raised runs =>
        refine .joined runs.report (Task.control_finish control runs raised) ?_ ?_
        · rw [id]
          exact outline_ran begun'.id runs.events
        · rw [Scheduler.closing, Scheduler.closing, id, runs.report, runs.processor.pc]
      | lost same =>
        refine .lost control ?_
        rw [id]
        exact outline_ran begun'.id same

/-- Programs with the same kinds of instructions are admitted alike. -/
theorem sameAdmission_control (priority : Int32) {program program' : Program}
    (kinds : program.kinds = program'.kinds) :
    Observer.control.SameAdmission (priority, program) (priority, program') := by
  have size : program.size = program'.size := by
    have length := congrArg List.length kinds
    rwa [Program.kinds, Program.kinds, List.length_map, List.length_map] at length
  intro id
  refine ⟨?_, ?_⟩
  · simp only [Observer.control, Task.control, Task.fresh, kinds]
  · dsimp only
    rw [size]

theorem Call.SameKinds.sameCall {call call' : Call} (same : call.SameKinds call') :
    Observer.control.SameCall call call' := by
  cases same with
  | submit priority kinds => exact .submit (sameAdmission_control priority kinds)
  | submitSource priority loaded loaded' kinds =>
    exact .submitSource loaded loaded' (sameAdmission_control priority kinds)
  | unloadable priority fails fails' => exact .unloadable fails fails' rfl
  | submitAll each =>
    refine .submitAll (each.imp ?_)
    rintro ⟨priority, program⟩ ⟨_, program'⟩ ⟨rfl, kinds⟩
    exact sameAdmission_control priority kinds
  | sweep => exact .sweep
  | run => exact .run

/-! ## What runs report -/

/-- The report of a context that came back. -/
def ContextEnd.report? : ContextEnd → Option Processor.Report
  | joined run _ => some run.report
  | lost _ => none

theorem ContextEnd.Abreast.report? {ended ended' : ContextEnd} (abreast : ended.Abreast ended') :
    ended.report? = ended'.report? := by
  cases abreast with
  | joined _ runs => exact congrArg some runs.report
  | lost _ => rfl

/-- The task that an event dispatches, and the position from which it does. -/
def Event.departure? : Event → Option (TaskId × Nat)
  | taskDispatched task _ pc => some (task, pc)
  | _ => none

namespace Scheduler

variable {s t : Scheduler}

/-- What the runs of the scheduler's life reported, in the order of its dispatches. -/
def reports (plan : Plan) (s : Scheduler) : List (Option Processor.Report) :=
  (s.contextEnds plan).map fun entry => entry.2.bind ContextEnd.report?

/-- Steps lead from one scheduler to another, and the contexts on the way end so, in order. -/
inductive Contexts (plan : Plan) (s : Scheduler) : List ContextEnd → Scheduler → Prop
  | refl : Contexts plan s [] s
  | quiet {ends : List ContextEnd} {t t' : Scheduler} : Contexts plan s ends t → Step plan t t' →
    t'.dispatchLog = t.dispatchLog → Contexts plan s ends t'
  | lose {ends : List ContextEnd} {t : Scheduler} {id : TaskId} {task begun : Task}
    {processor : Processor} {recorded : List Processor.Event} : Contexts plan s ends t →
    t.registry.get? id = some task → task.isCompleted = false →
    task.begin? = some (processor, begun) →
    (plan t.registry.dispatches).carryOut begun.program processor = .lost recorded →
    Contexts plan s (ends ++ [.lost recorded])
      ((t.handOver processor begun).recordRun begun.id recorded)
  | join {ends : List ContextEnd} {t : Scheduler} {id : TaskId} {task begun : Task}
    {processor : Processor} {run : Processor.Run} {raised : Bool} : Contexts plan s ends t →
    t.registry.get? id = some task → task.isCompleted = false →
    task.begin? = some (processor, begun) →
    (plan t.registry.dispatches).carryOut begun.program processor = .joined run raised →
    Contexts plan s (ends ++ [.joined run raised])
      ((t.handOver processor begun).close begun run raised)

theorem Contexts.steps {plan : Plan} {ends : List ContextEnd} (contexts : Contexts plan s ends t) :
    Steps plan s t := by
  induction contexts with
  | refl => exact .refl
  | quiet _ step _ ih => exact .tail ih step
  | lose _ found incomplete began lost ih => exact .tail ih (.lose found incomplete began lost)
  | join _ found incomplete began joined ih => exact .tail ih (.join found incomplete began joined)

theorem exists_contexts {plan : Plan} (steps : Steps plan s t) :
    ∃ ends, Contexts plan s ends t := by
  induction steps with
  | refl => exact ⟨[], .refl⟩
  | tail _ step ih =>
    obtain ⟨ends, contexts⟩ := ih
    cases step with
    | note notice => exact ⟨ends, .quiet contexts (.note _ notice) (dispatchLog_note _ notice)⟩
    | remark remark =>
      exact ⟨ends, .quiet contexts (.remark _ remark) (dispatchLog_remark _ remark)⟩
    | enroll inserted =>
      exact ⟨ends, .quiet contexts (.enroll inserted) (dispatchLog_enroll _ _ _ _ _)⟩
    | openSweep => exact ⟨ends, .quiet contexts (.openSweep _) (dispatchLog_openSweep _)⟩
    | lose found incomplete began lost => exact ⟨_, .lose contexts found incomplete began lost⟩
    | join found incomplete began joined => exact ⟨_, .join contexts found incomplete began joined⟩

/-- Steps add the reports of the runs that come back on the way. -/
theorem Contexts.reports_eq {plan : Plan} {ends : List ContextEnd}
    (contexts : Contexts plan s ends t) (coherent : s.Coherent) :
    t.reports plan = s.reports plan ++ ends.map ContextEnd.report? := by
  induction contexts with
  | refl => rw [List.map_nil, List.append_nil]
  | quiet earlier step log ih =>
    rw [reports, contextEnds_quiet step (Steps.coherent earlier.steps coherent) log, ← reports, ih]
  | lose earlier found incomplete began lost ih =>
    rw [reports, contextEnds_lose (Steps.coherent earlier.steps coherent) found incomplete began
      lost, List.map_append, ← reports, ih, List.map_append, List.append_assoc]
    rfl
  | join earlier found incomplete began joined ih =>
    rw [reports, contextEnds_join (Steps.coherent earlier.steps coherent) found incomplete began
      joined, List.map_append, ← reports, ih, List.map_append, List.append_assoc]
    rfl

/-- Between calls, the reports are those of the runs that the contexts made on the way there. -/
theorem reports_after (plan : Plan) (config : Config) (calls : List Call) :
    ∃ ends, Contexts plan (new config) ends (after plan config calls) ∧
      (after plan config calls).reports plan = ends.map ContextEnd.report? := by
  obtain ⟨ends, contexts⟩ := exists_contexts (steps_after plan config calls)
  exact ⟨ends, contexts, contexts.reports_eq (coherent_new config)⟩

/-- The log tells of the departures of the trace. -/
theorem departures_dispatchLog (s : Scheduler) :
    s.dispatchLog.map (fun dispatch => (dispatch.task, dispatch.pc)) =
      s.trace.filterMap Event.departure? := by
  have along : ∀ (trace : List Event) (latest : List Dispatch),
      (trace.foldl Dispatch.extend latest).map (fun dispatch => (dispatch.task, dispatch.pc)) =
        (trace.filterMap Event.departure?).reverse ++
          latest.map fun dispatch => (dispatch.task, dispatch.pc) := by
    intro trace
    induction trace with
    | nil => exact fun _ => rfl
    | cons event rest ih =>
      intro latest
      rw [List.foldl_cons, ih, List.filterMap_cons]
      cases event with
      | taskDispatched task priority pc =>
        simp only [Event.departure?, Dispatch.extend, List.map_cons, List.reverse_cons,
          List.append_assoc, List.singleton_append]
      | ran task event => cases latest <;> rfl
      | _ => rfl
  rw [dispatchLog, List.map_reverse, along, List.map_nil, List.append_nil, List.reverse_reverse]

/-- The departures do not depend on data. -/
theorem departures_eq (agree : Agree Observer.control s t) :
    s.dispatchLog.map (fun dispatch => (dispatch.task, dispatch.pc)) =
      t.dispatchLog.map fun dispatch => (dispatch.task, dispatch.pc) := by
  have outlined : ∀ trace : List Event, trace.filterMap Event.departure? =
      (trace.filterMap Observer.control.event).filterMap Event.departure? := by
    intro trace
    rw [List.filterMap_filterMap]
    congr 1
    funext event
    cases event <;> rfl
  rw [departures_dispatchLog, departures_dispatchLog, outlined, agree.trace, ← outlined]

/-- Where no difference is seen without data, the runs reported the same. -/
theorem reports_eq (plan : Plan) (agree : Agree Observer.control s t) :
    s.reports plan = t.reports plan := by
  refine List.ext_getElem? fun number => ?_
  have departures := congrArg (·[number]?) (departures_eq agree)
  simp only [List.getElem?_map] at departures
  simp only [reports, contextEnds, List.getElem?_map, List.getElem?_mapIdx, Option.map_map]
  cases here : s.dispatchLog[number]? with
  | none =>
    rw [here, Option.map_none, eq_comm, Option.map_eq_none_iff] at departures
    rw [departures]
    rfl
  | some dispatch =>
    rw [here, Option.map_some, eq_comm, Option.map_eq_some_iff] at departures
    obtain ⟨dispatch', there, same⟩ := departures
    obtain ⟨task, pc⟩ := Prod.mk.inj same
    rw [there, Option.map_some, Option.map_some]
    refine congrArg some ?_
    simp only [Function.comp_apply, contextEnd?, task, pc]
    have seen := agree.tasks.get? dispatch.task
    cases found : s.registry.get? dispatch.task with
    | none =>
      rw [found, Option.map_none, eq_comm, Option.map_eq_none_iff] at seen
      rw [seen]
    | some first =>
      rw [found, Option.map_some, eq_comm, Option.map_eq_some_iff] at seen
      obtain ⟨second, found', control⟩ := seen
      have kinds : first.program.kinds = second.program.kinds :=
        congrArg Task.Control.kinds control.symm
      rw [found']
      exact ((plan number).carryOut_abreast kinds
        (Processor.stateAt_abreast kinds dispatch.pc)).report?

/-! ## Two lives -/

/-- Two schedulers differ in nothing but data. -/
structure SameControl (plan : Plan) (s t : Scheduler) : Prop where
  tasks : s.registry.tasks.toList.map Task.control = t.registry.tasks.toList.map Task.control
  statistics : s.statistics = t.statistics
  /-- The runs of all dispatches executed as many instructions, with the same faults and exits. -/
  reports : s.reports plan = t.reports plan
  trace : s.trace.map Event.outline = t.trace.map Event.outline

/-- Two lives whose programs have the same kinds of instructions differ in nothing but data, and so
do the answers to their calls. -/
theorem control_independent (plan : Plan) (config : Config) {calls calls' : List Call}
    (same : List.Forall₂ Call.SameKinds calls calls') :
    (answers plan config calls).map Observer.control.answer =
        (answers plan config calls').map Observer.control.answer ∧
      SameControl plan (after plan config calls) (after plan config calls') := by
  obtain ⟨answers, agree⟩ :=
    agree_after Observer.control plan config (same.imp fun _ _ => Call.SameKinds.sameCall)
  have trace : (after plan config calls).trace.map Event.outline =
      (after plan config calls').trace.map Event.outline := by
    rw [← List.filterMap_eq_map]
    exact agree.trace
  exact ⟨answers, agree.tasks.tasks, agree.statistics, reports_eq plan agree, trace⟩

/-- A program with the kinds of instructions that `pushPop` has, and other data. -/
def addPushPop : Program :=
  ⟨[.arith .add ⟨2, by decide⟩ ⟨3, by decide⟩ ⟨4, by decide⟩, .push ⟨5, by decide⟩,
    .pop ⟨6, by decide⟩, .halt]⟩

/-- Two lives with different programs lose the same context; their registers differ. -/
theorem control_independent_lossy :
    SameControl lossyPlan (after lossyPlan .standard lossyCalls)
        (after lossyPlan .standard [.submit 1 addPushPop, .submit 9 addPushPop, .sweep, .sweep]) ∧
      (after lossyPlan .standard lossyCalls).registry.snapshots ≠
        (after lossyPlan .standard
          [.submit 1 addPushPop, .submit 9 addPushPop, .sweep, .sweep]).registry.snapshots := by
  refine ⟨(control_independent lossyPlan .standard ?_).2, by decide +kernel⟩
  exact .cons (.submit 1 rfl) (.cons (.submit 9 rfl) (.cons .sweep (.cons .sweep .nil)))

end Scheduler

end TimeShare
