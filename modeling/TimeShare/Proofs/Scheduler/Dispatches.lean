import TimeShare.Proofs.Scheduler.Steps
import TimeShare.Proofs.Task.Lifecycle

/-!
# The dispatches of a scheduler's life

The trace tells which tasks were dispatched, from which positions, and what
their contexts recorded. A dispatch has the plan's interruption of its number;
running the task's program under it from the state at that position shows
whether the context broke down.

* `Coherent`: the tasks are sound, and the registry counts the dispatches that
  the trace tells of. `Step.coherent`: every step keeps this.
* `Step.evolves`: how a step may change a task.
* `holds_after`: what each step keeps from a coherent state on, holds between calls.
* `contextEnds_lose`, `contextEnds_join`, `contextEnds_quiet`: what each step
  adds to the dispatches of the scheduler's life and to how their contexts ended;
  `dispatches_lose` and `dispatches_join` are a view of this.
-/

namespace TimeShare

/-- A dispatch as the trace tells of it. -/
structure Dispatch where
  task : TaskId
  /-- The position from which the task was run. -/
  pc : Nat
  /-- What the task's context recorded. -/
  recorded : List Processor.Event
  deriving DecidableEq

namespace Dispatch

/-- The dispatches that a trace tells of, the latest first, after one more event. -/
def extend (latest : List Dispatch) : Event → List Dispatch
  | .taskDispatched task _ pc => ⟨task, pc, []⟩ :: latest
  | .ran _ event =>
    match latest with
    | last :: earlier => { last with recorded := last.recorded ++ [event] } :: earlier
    | [] => []
  | _ => latest

/-- What a context records belongs to the latest dispatch. -/
theorem foldl_extend_ran (id : TaskId) (events : List Processor.Event) (last : Dispatch)
    (earlier : List Dispatch) :
    (events.map (Event.ran id)).foldl extend (last :: earlier) =
      { last with recorded := last.recorded ++ events } :: earlier := by
  induction events generalizing last with
  | nil => simp
  | cons event rest ih =>
    rw [List.map_cons, List.foldl_cons, extend, ih, List.append_assoc, List.singleton_append]

end Dispatch

/-- Whether a context broke down. -/
def ContextEnd.isLost : ContextEnd → Bool
  | joined .. => false
  | lost _ => true

namespace Scheduler

/-- The dispatches that the trace tells of, in order. -/
def dispatchLog (s : Scheduler) : List Dispatch :=
  (s.trace.foldl Dispatch.extend []).reverse

/-- Whether the context of a dispatch with a number broke down. -/
def losesContext (plan : Plan) (s : Scheduler) (number : Nat) (dispatch : Dispatch) : Bool :=
  (s.registry.get? dispatch.task).any fun task =>
    ((plan number).carryOut task.program (task.program.stateAt dispatch.pc)).isLost

/-- The dispatches of the scheduler's life in order, each with whether its context broke down. -/
def dispatches (plan : Plan) (s : Scheduler) : List (Dispatch × Bool) :=
  s.dispatchLog.mapIdx fun number dispatch => (dispatch, s.losesContext plan number dispatch)

/-- How the context of a dispatch with a number ended, if there is such a task. -/
def contextEnd? (plan : Plan) (s : Scheduler) (number : Nat) (dispatch : Dispatch) :
    Option ContextEnd :=
  (s.registry.get? dispatch.task).map fun task =>
    (plan number).carryOut task.program (task.program.stateAt dispatch.pc)

/-- The dispatches of the scheduler's life in order, each with how its context ended. -/
def contextEnds (plan : Plan) (s : Scheduler) : List (Dispatch × Option ContextEnd) :=
  s.dispatchLog.mapIdx fun number dispatch => (dispatch, s.contextEnd? plan number dispatch)

theorem dispatches_eq_map (plan : Plan) (s : Scheduler) :
    s.dispatches plan =
      (s.contextEnds plan).map fun entry => (entry.1, entry.2.any ContextEnd.isLost) := by
  refine List.ext_getElem? fun number => ?_
  rw [dispatches, contextEnds, List.getElem?_map, List.getElem?_mapIdx, List.getElem?_mapIdx,
    Option.map_map]
  congr 1
  funext dispatch
  rw [losesContext, Function.comp_apply, contextEnd?, Option.any_map]

/-- No context of the scheduler's life broke down. -/
def Unbroken (plan : Plan) (s : Scheduler) : Prop :=
  ∀ entry ∈ s.dispatches plan, entry.2 = false

instance (plan : Plan) (s : Scheduler) : Decidable (s.Unbroken plan) :=
  inferInstanceAs (Decidable (∀ entry ∈ s.dispatches plan, entry.2 = false))

/-- Only a breakdown loses a context. -/
theorem unbroken_of_calm {plan : Plan}
    (calm : ∀ number executed further, plan number ≠ .breakdown executed further)
    (s : Scheduler) : s.Unbroken plan := by
  intro entry mem
  obtain ⟨number, inside, rfl⟩ := List.mem_mapIdx.1 mem
  rw [losesContext, Option.any_eq_false]
  intro task _
  cases interruption : plan number with
  | none => rfl
  | expiry executed => rfl
  | breakdown executed further => exact absurd interruption (calm number executed further)

theorem unbroken_calmPlan (s : Scheduler) : s.Unbroken calmPlan := by
  refine unbroken_of_calm ?_ s
  rintro _ _ _ ⟨⟩

/-! ## The log after each step -/

section Log

variable {s s' : Scheduler}

theorem dispatchLog_of_trace_append {event : Event} (trace : s'.trace = s.trace ++ [event])
    (quiet : ∀ latest, Dispatch.extend latest event = latest) : s'.dispatchLog = s.dispatchLog := by
  rw [dispatchLog, trace, List.foldl_append, List.foldl_cons, List.foldl_nil, quiet, dispatchLog]

theorem dispatchLog_note (s : Scheduler) (notice : Notice) :
    (s.note notice).dispatchLog = s.dispatchLog := by
  rw [dispatchLog, trace_note, dispatchLog]

theorem dispatchLog_remark (s : Scheduler) {event : Event} (remark : event.isRemark = true) :
    (s.record event).dispatchLog = s.dispatchLog := by
  refine dispatchLog_of_trace_append (trace_record s event) fun latest => ?_
  cases event <;> first | rfl | cases remark

theorem dispatchLog_enroll (s : Scheduler) (registry : Registry) (id : TaskId) (priority : Int32)
    (instructions : Nat) :
    ({ s with registry }.record (.taskAdmitted id priority instructions)).dispatchLog =
      s.dispatchLog :=
  dispatchLog_of_trace_append (trace_record _ _) fun _ => rfl

theorem dispatchLog_openSweep (s : Scheduler) : s.openSweep.dispatchLog = s.dispatchLog :=
  dispatchLog_of_trace_append (trace_openSweep s) fun _ => rfl

theorem dispatchLog_lose (s : Scheduler) (processor : Processor) (task : Task)
    (recorded : List Processor.Event) :
    ((s.handOver processor task).recordRun task.id recorded).dispatchLog =
      s.dispatchLog ++ [⟨task.id, processor.pc, recorded⟩] := by
  rw [dispatchLog, trace_recordRun, trace_handOver, List.foldl_append, List.foldl_append,
    List.foldl_cons, List.foldl_nil, Dispatch.extend, Dispatch.foldl_extend_ran,
    List.reverse_cons, List.nil_append, dispatchLog]

theorem extend_closing (latest : List Dispatch) (task : TaskId) (run : Processor.Run) :
    Dispatch.extend latest (closing task run) = latest := by
  unfold closing
  split <;> rfl

theorem dispatchLog_join (s : Scheduler) (processor : Processor) (task : Task)
    (run : Processor.Run) (raised : Bool) :
    ((s.handOver processor task).close task run raised).dispatchLog =
      s.dispatchLog ++ [⟨task.id, processor.pc, run.events⟩] := by
  rw [← dispatchLog_lose]
  exact dispatchLog_of_trace_append (trace_close_eq _ task run raised)
    fun latest => extend_closing latest task.id run

end Log

/-! ## Coherent states -/

/-- The tasks are sound, the trace tells only of dispatches of tasks that there are, and the
registry counts them all. -/
structure Coherent (s : Scheduler) : Prop where
  sound : ∀ id task, s.registry.get? id = some task → task.Sound
  known : ∀ dispatch ∈ s.dispatchLog, ∃ task, s.registry.get? dispatch.task = some task
  counted : s.registry.dispatches = s.dispatchLog.length

theorem coherent_new (config : Config) : (new config).Coherent where
  sound := by
    intro id task found
    cases found
  known := by
    intro dispatch mem
    cases mem
  counted := rfl

section Set

variable {registry : Registry} {id : TaskId} {old new : Task}

theorem get?_set_of_evolves (found : registry.get? id = some old) (evolves : old.Evolves new) :
    (registry.set new).get? id = some new := by
  have same : new.id = id := evolves.id.trans (Registry.id_of_get? found)
  rw [← same] at found ⊢
  exact Registry.get?_set_self found

/-- With one task all tasks change as tasks may. -/
theorem evolves_set (found : registry.get? id = some old) (evolves : old.Evolves new)
    {other : TaskId} {task : Task} (found_task : registry.get? other = some task) :
    ∃ task', (registry.set new).get? other = some task' ∧ task.Evolves task' := by
  by_cases same : other = id
  · subst same
    obtain rfl := Option.some.inj (found.symm.trans found_task)
    exact ⟨new, get?_set_of_evolves found evolves, evolves⟩
  · have ne : new.id ≠ other := by
      rw [evolves.id, Registry.id_of_get? found]
      exact Ne.symm same
    exact ⟨task, by rw [Registry.get?_set_of_ne ne, found_task], .refl task⟩

/-- A sum over all tasks changes by the difference. -/
theorem total_set (found : registry.get? id = some old) (evolves : old.Evolves new)
    (weight : Task → Nat) :
    (registry.set new).total weight + weight old = registry.total weight + weight new := by
  rw [← Registry.id_of_get? found, ← evolves.id] at found
  exact Registry.total_set found weight

/-- One more dispatch of a task is one more dispatch altogether. -/
theorem dispatches_set (found : registry.get? id = some old) (evolves : old.Evolves new)
    (counted : new.dispatches = old.dispatches + 1) :
    (registry.set new).dispatches = registry.dispatches + 1 := by
  have total := total_set found evolves Task.dispatches
  rw [counted, ← Registry.dispatches, ← Registry.dispatches] at total
  omega

end Set

variable {plan : Plan} {s s' : Scheduler}

/-- A step changes the tasks that there are as tasks may change. -/
theorem Step.evolves (step : Step plan s s') (coherent : s.Coherent) {id : TaskId} {task : Task}
    (found : s.registry.get? id = some task) :
    ∃ task', s'.registry.get? id = some task' ∧ task.Evolves task' := by
  cases step with
  | note notice => exact ⟨task, found, .refl task⟩
  | remark _ => exact ⟨task, found, .refl task⟩
  | enroll inserted => exact ⟨task, Registry.get?_insert_of_some inserted found, .refl task⟩
  | openSweep => exact ⟨task, found, .refl task⟩
  | lose found_old incomplete began _ =>
    have sound := coherent.sound _ _ found_old
    exact evolves_set found_old (sound.evolves_of_begin incomplete began) found
  | join found_old incomplete began _ =>
    have sound := coherent.sound _ _ found_old
    rw [registry_join]
    exact evolves_set found_old (sound.evolves_finish incomplete began _ _ _) found

/-- A step tells of no dispatch, or of one more dispatch of a task that there is. -/
theorem Step.logged (step : Step plan s s') (coherent : s.Coherent) :
    (s'.dispatchLog = s.dispatchLog ∧ s'.registry.dispatches = s.registry.dispatches) ∨
      ∃ dispatch task, s.registry.get? dispatch.task = some task ∧
        s'.dispatchLog = s.dispatchLog ++ [dispatch] ∧
        s'.registry.dispatches = s.registry.dispatches + 1 := by
  cases step with
  | note notice => exact .inl ⟨dispatchLog_note s notice, rfl⟩
  | remark remark => exact .inl ⟨dispatchLog_remark s remark, rfl⟩
  | enroll inserted =>
    exact .inl ⟨dispatchLog_enroll _ _ _ _ _, Registry.total_insert inserted Task.dispatches⟩
  | openSweep => exact .inl ⟨dispatchLog_openSweep s, rfl⟩
  | @lose id task begun processor recorded found incomplete began _ =>
    have evolves := (coherent.sound _ _ found).evolves_of_begin incomplete began
    have same : begun.id = id := evolves.id.trans (Registry.id_of_get? found)
    have counted : begun.dispatches = task.dispatches + 1 := by
      rw [(Task.begin?_eq_some_iff.1 began).2]
    exact .inr ⟨_, task, by rw [same, found], dispatchLog_lose s processor begun recorded,
      dispatches_set found evolves counted⟩
  | @join id task begun processor run raised found incomplete began _ =>
    have evolves := (coherent.sound _ _ found).evolves_finish incomplete began run.processor
      run.report.exit raised
    have same : begun.id = id := evolves.id.trans (Registry.id_of_get? found)
    have counted : begun.dispatches = task.dispatches + 1 := by
      rw [(Task.begin?_eq_some_iff.1 began).2]
    rw [registry_join]
    exact .inr ⟨_, task, by rw [same, found], dispatchLog_join s processor begun run raised,
      dispatches_set found evolves counted⟩

/-- A step keeps all tasks sound. -/
theorem Step.sound (step : Step plan s s') (coherent : s.Coherent) (id : TaskId) (task : Task)
    (found : s'.registry.get? id = some task) : task.Sound := by
  cases step with
  | note notice => exact coherent.sound id task found
  | remark _ => exact coherent.sound id task found
  | enroll inserted =>
    rcases Registry.get?_insert_cases inserted found with before | rfl
    · exact coherent.sound id task before
    · exact Task.sound_fresh _ _ _
  | openSweep => exact coherent.sound id task found
  | lose found_old incomplete began _ =>
    rcases Registry.get?_set_cases found with rfl | ⟨_, before⟩
    · exact (coherent.sound _ _ found_old).of_begin incomplete began
    · exact coherent.sound id task before
  | join found_old incomplete began joined =>
    rw [registry_join] at found
    rcases Registry.get?_set_cases found with rfl | ⟨_, before⟩
    · obtain ⟨poll, rfl⟩ := exists_run_of_carryOut_eq_joined joined
      exact (coherent.sound _ _ found_old).finish incomplete began (Processor.loop_run _ _ _) _
    · exact coherent.sound id task before

theorem Step.coherent (step : Step plan s s') (coherent : s.Coherent) : s'.Coherent := by
  have persist : ∀ id, (∃ task, s.registry.get? id = some task) →
      ∃ task, s'.registry.get? id = some task := by
    rintro id ⟨task, found⟩
    obtain ⟨task', found', _⟩ := step.evolves coherent found
    exact ⟨task', found'⟩
  refine ⟨step.sound coherent, ?_, ?_⟩
  · intro dispatch mem
    refine persist dispatch.task ?_
    rcases step.logged coherent with ⟨log, _⟩ | ⟨latest, task, found, log, _⟩
    · rw [log] at mem
      exact coherent.known dispatch mem
    · rw [log, List.mem_append, List.mem_singleton] at mem
      rcases mem with earlier | rfl
      · exact coherent.known dispatch earlier
      · exact ⟨task, found⟩
  · rcases step.logged coherent with ⟨log, count⟩ | ⟨latest, _, _, log, count⟩
    · rw [log, count, coherent.counted]
    · rw [log, count, coherent.counted, List.length_append, List.length_singleton]

/-! ## Sequences of steps -/

theorem Steps.coherent (steps : Steps plan s s') (coherent : s.Coherent) : s'.Coherent := by
  induction steps with
  | refl => exact coherent
  | tail _ step ih => exact step.coherent ih

/-- What each step keeps from a coherent state on, steps keep. -/
theorem Steps.keep {P : Scheduler → Prop}
    (keeps : ∀ {s s'}, Step plan s s' → s.Coherent → P s → P s') (steps : Steps plan s s')
    (coherent : s.Coherent) (before : P s) : P s' := by
  induction steps with
  | refl => exact before
  | tail earlier step ih => exact keeps step (Steps.coherent earlier coherent) ih

/-- What a new scheduler has and each step keeps, holds wherever strides lead. -/
theorem Strides.holds {P : Scheduler → Prop} {config : Config}
    (keeps : ∀ {s s'}, Step plan s s' → s.Coherent → P s → P s') (start : P (new config))
    (strides : Strides plan (new config) s) : P s :=
  Steps.keep keeps (Strides.steps strides) (coherent_new config) start

/-- What a new scheduler has and each step keeps, holds between calls. -/
theorem holds_after {P : Scheduler → Prop}
    (keeps : ∀ {s s'}, Step plan s s' → s.Coherent → P s → P s') {config : Config}
    (start : P (new config)) (calls : List Call) : P (after plan config calls) :=
  (strides_after plan config calls).holds keeps start

theorem Steps.evolves (steps : Steps plan s s') (coherent : s.Coherent) {id : TaskId}
    {task : Task} (found : s.registry.get? id = some task) :
    ∃ task', s'.registry.get? id = some task' ∧ task.Evolves task' := by
  induction steps with
  | refl => exact ⟨task, found, .refl task⟩
  | tail earlier step ih =>
    obtain ⟨middle, found_middle, first⟩ := ih
    obtain ⟨last, found_last, second⟩ := step.evolves (Steps.coherent earlier coherent) found_middle
    exact ⟨last, found_last, first.trans second⟩

/-- Every state between calls is coherent. -/
theorem coherent_after (plan : Plan) (config : Config) (calls : List Call) :
    (after plan config calls).Coherent :=
  Steps.coherent (steps_after plan config calls) (coherent_new config)

/-! ## The dispatches after each step -/

/-- What is known of earlier dispatches does not change. -/
theorem contextEnds_append (more : List Dispatch) (step : Step plan s s') (coherent : s.Coherent)
    (log : s'.dispatchLog = s.dispatchLog ++ more) :
    s'.contextEnds plan = s.contextEnds plan ++ more.mapIdx fun i dispatch =>
      (dispatch, s'.contextEnd? plan (i + s.dispatchLog.length) dispatch) := by
  rw [contextEnds, log, List.mapIdx_append, contextEnds]
  congr 1
  rw [List.mapIdx_eq_mapIdx_iff]
  intro number inside
  -- The task of an earlier dispatch keeps its program, so its context ends as it did.
  obtain ⟨task, found⟩ := coherent.known _ (List.getElem_mem inside)
  obtain ⟨task', found', evolves⟩ := step.evolves coherent found
  rw [contextEnd?, contextEnd?, found, found', Option.map_some, Option.map_some, evolves.program]

theorem contextEnds_quiet (step : Step plan s s') (coherent : s.Coherent)
    (log : s'.dispatchLog = s.dispatchLog) : s'.contextEnds plan = s.contextEnds plan := by
  have nothing := contextEnds_append [] step coherent (by rw [log, List.append_nil])
  rw [nothing, List.mapIdx_nil, List.append_nil]

/-- The context of one more dispatch ends as the plan has it for that dispatch. -/
theorem contextEnds_concat {dispatch : Dispatch} {ended : ContextEnd} (task : Task)
    (step : Step plan s s') (coherent : s.Coherent)
    (log : s'.dispatchLog = s.dispatchLog ++ [dispatch])
    (found : s'.registry.get? dispatch.task = some task)
    (ends : (plan s.registry.dispatches).carryOut task.program
      (task.program.stateAt dispatch.pc) = ended) :
    s'.contextEnds plan = s.contextEnds plan ++ [(dispatch, some ended)] := by
  rw [contextEnds_append _ step coherent log, List.mapIdx_cons, List.mapIdx_nil, Nat.zero_add,
    ← coherent.counted, contextEnd?, found, Option.map_some, ends]

theorem dispatches_quiet (step : Step plan s s') (coherent : s.Coherent)
    (log : s'.dispatchLog = s.dispatchLog) : s'.dispatches plan = s.dispatches plan := by
  rw [dispatches_eq_map, contextEnds_quiet step coherent log, ← dispatches_eq_map]

section Dispatch

variable {id : TaskId} {task begun : Task} {processor : Processor}

theorem contextEnds_lose {recorded : List Processor.Event} (coherent : s.Coherent)
    (found : s.registry.get? id = some task) (incomplete : task.isCompleted = false)
    (began : task.begin? = some (processor, begun))
    (lost : (plan s.registry.dispatches).carryOut begun.program processor = .lost recorded) :
    ((s.handOver processor begun).recordRun begun.id recorded).contextEnds plan =
      s.contextEnds plan ++ [(⟨begun.id, processor.pc, recorded⟩, some (.lost recorded))] := by
  have sound := coherent.sound _ _ found
  have evolves := sound.evolves_of_begin incomplete began
  have straight := sound.straight processor (Task.begin?_eq_some_iff.1 began).1
  refine contextEnds_concat begun (.lose found incomplete began lost) coherent
    (dispatchLog_lose s processor begun recorded) ?_ ?_
  · rw [registry_recordRun, registry_handOver]
    dsimp only
    rw [evolves.id, Registry.id_of_get? found]
    exact get?_set_of_evolves found evolves
  · rw [evolves.program] at lost ⊢
    dsimp only
    rw [← straight, lost]

theorem contextEnds_join {run : Processor.Run} {raised : Bool} (coherent : s.Coherent)
    (found : s.registry.get? id = some task) (incomplete : task.isCompleted = false)
    (began : task.begin? = some (processor, begun))
    (joined : (plan s.registry.dispatches).carryOut begun.program processor =
      .joined run raised) :
    ((s.handOver processor begun).close begun run raised).contextEnds plan =
      s.contextEnds plan ++
        [(⟨begun.id, processor.pc, run.events⟩, some (.joined run raised))] := by
  have sound := coherent.sound _ _ found
  have begins := sound.evolves_of_begin incomplete began
  have evolves := sound.evolves_finish incomplete began run.processor run.report.exit raised
  have straight := sound.straight processor (Task.begin?_eq_some_iff.1 began).1
  refine contextEnds_concat (begun.finish run.processor run.report.exit raised)
    (.join found incomplete began joined) coherent
    (dispatchLog_join s processor begun run raised) ?_ ?_
  · rw [registry_join]
    dsimp only
    rw [begins.id, Registry.id_of_get? found]
    exact get?_set_of_evolves found evolves
  · rw [begins.program] at joined
    dsimp only
    rw [evolves.program, ← straight, joined]

theorem dispatches_lose {recorded : List Processor.Event} (coherent : s.Coherent)
    (found : s.registry.get? id = some task) (incomplete : task.isCompleted = false)
    (began : task.begin? = some (processor, begun))
    (lost : (plan s.registry.dispatches).carryOut begun.program processor = .lost recorded) :
    ((s.handOver processor begun).recordRun begun.id recorded).dispatches plan =
      s.dispatches plan ++ [(⟨begun.id, processor.pc, recorded⟩, true)] := by
  rw [dispatches_eq_map, contextEnds_lose coherent found incomplete began lost, List.map_append,
    ← dispatches_eq_map]
  rfl

theorem dispatches_join {run : Processor.Run} {raised : Bool} (coherent : s.Coherent)
    (found : s.registry.get? id = some task) (incomplete : task.isCompleted = false)
    (began : task.begin? = some (processor, begun))
    (joined : (plan s.registry.dispatches).carryOut begun.program processor =
      .joined run raised) :
    ((s.handOver processor begun).close begun run raised).dispatches plan =
      s.dispatches plan ++ [(⟨begun.id, processor.pc, run.events⟩, false)] := by
  rw [dispatches_eq_map, contextEnds_join coherent found incomplete began joined, List.map_append,
    ← dispatches_eq_map]
  rfl

end Dispatch

/-- No step forgets a dispatch. -/
theorem Step.dispatches_prefix (step : Step plan s s') (coherent : s.Coherent) :
    s.dispatches plan <+: s'.dispatches plan := by
  rcases step.logged coherent with ⟨log, _⟩ | ⟨_, _, _, log, _⟩
  · exact ⟨[], by rw [List.append_nil, dispatches_quiet step coherent log]⟩
  · rw [dispatches_eq_map, dispatches_eq_map, contextEnds_append _ step coherent log,
      List.map_append]
    exact List.prefix_append _ _

theorem Steps.dispatches_prefix (steps : Steps plan s s') (coherent : s.Coherent) :
    s.dispatches plan <+: s'.dispatches plan := by
  induction steps with
  | refl => exact List.prefix_rfl
  | tail earlier step ih =>
    exact ih.trans (step.dispatches_prefix (Steps.coherent earlier coherent))

theorem Unbroken.of_steps (unbroken : s'.Unbroken plan) (steps : Steps plan s s')
    (coherent : s.Coherent) : s.Unbroken plan := by
  intro entry mem
  exact unbroken entry ((steps.dispatches_prefix coherent).subset mem)

end Scheduler

end TimeShare
