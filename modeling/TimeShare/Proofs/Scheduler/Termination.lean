import Mathlib.Data.List.MinMax
import Mathlib.Data.List.Nodup
import Mathlib.Order.Nat
import TimeShare.Proofs.Scheduler.Lifecycle

/-!
# Runs come to an end

The loops of a processor and of a scheduler have no bound in their text: slices
may end after every instruction. `run_terminates` says that they end all the
same, how often a task can be dispatched, and that a run of the scheduler makes
as many sweeps as it dispatches the task that needs most.

* `Step.recorded`: a task counts its own dispatches as the trace tells of them.
* `sweep_succeeds`: a sweep fails only if a context breaks down or broke down.
* `dispatchLog_sweep`: a sweep dispatches every incomplete task once.
* `longest_of_sweepUntilDone`: so the sweeps of a run are the dispatches of some
  task, and of no task fewer.
-/

namespace TimeShare.Scheduler

/-- How often a task is among some dispatches. -/
def dispatchesOf (id : TaskId) (log : List Dispatch) : Nat :=
  (log.map Dispatch.task).count id

/-- The largest of a number over all tasks; zero without tasks. -/
def most (registry : Registry) (weight : Task → Nat) : Nat :=
  (registry.tasks.toList.map weight).foldr max 0

theorem dispatchesOf_append (id : TaskId) (first second : List Dispatch) :
    dispatchesOf id (first ++ second) = dispatchesOf id first + dispatchesOf id second := by
  rw [dispatchesOf, List.map_append, List.count_append, dispatchesOf, dispatchesOf]

variable {plan : Plan} {s s' : Scheduler}

/-! ## What tasks count -/

/-- Every task counts its dispatches as the trace tells of them. -/
def Recorded (s : Scheduler) : Prop :=
  ∀ id task, s.registry.get? id = some task → task.dispatches = dispatchesOf id s.dispatchLog

theorem recorded_set {id : TaskId} {old new : Task} {dispatch : Dispatch} (before : s.Recorded)
    (found : s.registry.get? id = some old) (evolves : old.Evolves new)
    (counted : new.dispatches = old.dispatches + 1) (same : dispatch.task = new.id)
    (registry : s'.registry = s.registry.set new)
    (log : s'.dispatchLog = s.dispatchLog ++ [dispatch]) : s'.Recorded := by
  intro other task found_task
  rw [registry] at found_task
  have new_id : new.id = id := evolves.id.trans (Registry.id_of_get? found)
  rw [log, dispatchesOf_append]
  rcases Registry.get?_set_cases found_task with rfl | ⟨ne, found_before⟩
  · have here : other = id := (Registry.id_of_get? found_task).symm.trans new_id
    subst here
    have once : dispatchesOf other [dispatch] = 1 := by
      rw [dispatchesOf, List.map_singleton, same, new_id, List.count_singleton_self]
    rw [counted, before other old found, once]
  · have never : dispatchesOf other [dispatch] = 0 := by
      rw [dispatchesOf, List.map_singleton, same]
      exact List.count_eq_zero.2 fun mem => ne (List.mem_singleton.1 mem).symm
    rw [before other task found_before, never, Nat.add_zero]

/-- A step keeps the tasks' own counts in line with the trace. -/
theorem Step.recorded (step : Step plan s s') (coherent : s.Coherent) (before : s.Recorded) :
    s'.Recorded := by
  cases step with
  | note notice =>
    intro id task found
    rw [dispatchLog_note]
    exact before id task found
  | remark remark =>
    intro id task found
    rw [dispatchLog_remark s remark]
    exact before id task found
  | enroll inserted =>
    intro id task found
    rw [dispatchLog_enroll]
    rcases Registry.get?_insert_split inserted found with earlier | ⟨unknown, rfl⟩
    · exact before id task earlier
    · refine (List.count_eq_zero.2 fun mem => ?_).symm
      obtain ⟨dispatch, logged, rfl⟩ := List.mem_map.1 mem
      obtain ⟨old, known⟩ := coherent.known dispatch logged
      cases unknown.symm.trans known
  | openSweep =>
    intro id task found
    rw [dispatchLog_openSweep]
    exact before id task found
  | @lose _ _ begun processor recorded found incomplete began _ =>
    have evolves := (coherent.sound _ _ found).evolves_of_begin incomplete began
    refine recorded_set before found evolves ?_ rfl rfl
      (dispatchLog_lose s processor begun recorded)
    rw [(Task.begin?_eq_some_iff.1 began).2]
  | @join _ _ begun processor run raised found incomplete began _ =>
    have evolves := (coherent.sound _ _ found).evolves_finish incomplete began run.processor
      run.report.exit raised
    refine recorded_set before found evolves ?_ rfl (registry_join s processor begun run raised)
      (dispatchLog_join s processor begun run raised)
    rw [(Task.begin?_eq_some_iff.1 began).2]
    rfl

theorem recorded_new (config : Config) : (new config).Recorded := by
  intro id task found
  cases found

theorem recorded_after (plan : Plan) (config : Config) (calls : List Call) :
    (after plan config calls).Recorded :=
  holds_after Step.recorded (recorded_new config) calls

/-! ## Sweeps succeed -/

theorem LastLost.not_unbroken {id : TaskId} (lost : s.LastLost plan id) : ¬ s.Unbroken plan := by
  obtain ⟨dispatch, last⟩ := lost
  intro unbroken
  have mem := (List.mem_filter.1 (List.mem_of_getLast? last)).1
  cases unbroken _ mem

/-- A dispatch fails only if its context breaks down or an earlier one did. -/
theorem dispatch_succeeds {id : TaskId} {result : Except SchedulerError Exit}
    (coherent : s.Coherent) (lost : s.LostOnlyByContext plan)
    (runnable : id ∈ s.registry.runnable)
    (h : dispatch (plan s.registry.dispatches) id s = (result, s'))
    (unbroken : s'.Unbroken plan) : ∃ exit, result = .ok exit := by
  obtain ⟨task, found, incomplete⟩ := Registry.mem_runnable_iff.1 runnable
  rcases dispatch_cases h with
    ⟨_, rfl, unavailable⟩ | ⟨other, processor, begun, found', began, ends⟩
  -- Without its processor state the task was lost in an earlier dispatch.
  · have gone := unavailable task found
    have phase := (coherent.sound id task found).dispatched_of_unavailable incomplete gone
    exact absurd unbroken (lost id task found phase).not_unbroken
  · obtain rfl := Option.some.inj (found.symm.trans found')
    rcases ends with ⟨recorded, broken, _, rfl⟩ | ⟨run, raised, _, rfl, _⟩
    · rw [Unbroken, dispatches_lose coherent found incomplete began broken] at unbroken
      cases unbroken _ (List.mem_append_right _ (List.mem_singleton_self _))
    · exact ⟨run.report.exit, rfl⟩

theorem dispatchEach_succeeds {ids : List TaskId}
    {result : Except SchedulerError (List (TaskId × Exit))} (coherent : s.Coherent)
    (lost : s.LostOnlyByContext plan) (distinct : ids.Nodup)
    (runnable : ∀ id ∈ ids, id ∈ s.registry.runnable)
    (h : dispatchEach plan ids s = (result, s')) (unbroken : s'.Unbroken plan) :
    ∃ exits, result = .ok exits := by
  induction ids generalizing s result with
  | nil =>
    obtain ⟨rfl, _⟩ := Prod.mk.inj h
    exact ⟨[], rfl⟩
  | cons id rest ih =>
    have here := runnable id List.mem_cons_self
    rcases dispatchEach_cons h with
      ⟨_, failed, _⟩ | ⟨exit, next, others, dispatched, rest_done, ends⟩
    · obtain ⟨_, ok⟩ := dispatch_succeeds coherent lost here failed unbroken
      cases ok
    · have steps := steps_dispatch here dispatched
      have later := runnable_of_dispatch distinct runnable dispatched
      obtain ⟨exits, rfl⟩ := ih (Steps.coherent steps coherent)
        (Steps.keep Step.lostOnlyByContext steps coherent lost) (List.nodup_cons.1 distinct).2
        later rest_done
      exact ⟨(id, exit) :: exits, ends⟩

theorem sweep_succeeds {result : Except SchedulerError (List (TaskId × Exit))}
    (coherent : s.Coherent) (lost : s.LostOnlyByContext plan) (h : sweep plan s = (result, s'))
    (unbroken : s'.Unbroken plan) : ∃ exits, result = .ok exits := by
  unfold sweep at h
  split at h
  · obtain ⟨rfl, _⟩ := Prod.mk.inj h
    exact ⟨[], rfl⟩
  · rename_i id rest runnable
    have opened : Step plan s s.openSweep := .openSweep s
    refine dispatchEach_succeeds (opened.coherent coherent) (opened.lostOnlyByContext coherent lost)
      ?_ ?_ h unbroken
    · rw [← runnable]
      exact s.registry.nodup_runnable
    · rw [← runnable]
      exact fun _ mem => mem

/-! ## Runs succeed -/

/-- Without a limit and without a breakdown the sweeps lead to the end. -/
theorem sweepUntilDone_succeeds {sweeps : Nat} {result : Except SchedulerError Nat}
    (coherent : s.Coherent) (lost : s.LostOnlyByContext plan)
    (unlimited : s.config.maxSweeps = none) (h : sweepUntilDone plan sweeps s = (result, s'))
    (unbroken : s'.Unbroken plan) : ∃ total, result = .ok total := by
  fun_induction sweepUntilDone plan sweeps s with
  | case1 sweeps s _ =>
    obtain ⟨rfl, _⟩ := Prod.mk.inj h
    exact ⟨sweeps, rfl⟩
  | case2 sweeps s _ limit used =>
    rw [unlimited] at used
    cases used
  | case3 sweeps s _ _ error next made =>
    obtain ⟨_, rfl⟩ := Prod.mk.inj h
    obtain ⟨_, ok⟩ := sweep_succeeds coherent lost made unbroken
    cases ok
  | case4 sweeps s _ _ exits next made ih =>
    have steps : Steps plan s (s.sweep plan).2 := steps_sweep s
    rw [made] at steps
    exact ih (Steps.coherent steps coherent) (Steps.keep Step.lostOnlyByContext steps coherent lost)
      (by rw [Steps.config steps, unlimited]) h

/-! ## How many sweeps there are -/

theorem dispatchLog_dispatch {interruption : Interruption} {id : TaskId} {exit : Exit}
    (h : dispatch interruption id s = (.ok exit, s')) :
    ∃ entry, entry.task = id ∧ s'.dispatchLog = s.dispatchLog ++ [entry] := by
  obtain ⟨_, processor, begun, run, raised, found, began, _, _, rfl⟩ := dispatch_ok h
  exact ⟨_, Registry.id_of_begin found began, dispatchLog_join s processor begun run raised⟩

theorem dispatchLog_dispatchEach {ids : List TaskId} {exits : List (TaskId × Exit)}
    (h : dispatchEach plan ids s = (.ok exits, s')) :
    ∃ more, more.map Dispatch.task = ids ∧ s'.dispatchLog = s.dispatchLog ++ more := by
  induction ids generalizing s exits with
  | nil =>
    obtain ⟨_, rfl⟩ := Prod.mk.inj h
    exact ⟨[], rfl, (List.append_nil _).symm⟩
  | cons id rest ih =>
    obtain ⟨exit, next, others, dispatched, rest_done⟩ := dispatchEach_cons_ok h
    obtain ⟨entry, same, log⟩ := dispatchLog_dispatch dispatched
    obtain ⟨more, tasks, log'⟩ := ih rest_done
    refine ⟨entry :: more, by rw [List.map_cons, same, tasks], ?_⟩
    rw [log', log, List.append_assoc, List.singleton_append]

/-- A sweep dispatches every incomplete task once, in order. -/
theorem dispatchLog_sweep {exits : List (TaskId × Exit)} (h : sweep plan s = (.ok exits, s')) :
    ∃ more, more.map Dispatch.task = s.registry.runnable ∧
      s'.dispatchLog = s.dispatchLog ++ more := by
  unfold sweep at h
  split at h
  · rename_i none_left
    obtain ⟨_, rfl⟩ := Prod.mk.inj h
    exact ⟨[], none_left.symm, (List.append_nil _).symm⟩
  · rename_i id rest runnable
    obtain ⟨more, tasks, log⟩ := dispatchLog_dispatchEach h
    rw [dispatchLog_openSweep] at log
    exact ⟨more, by rw [tasks, runnable], log⟩

theorem size_sweep {exits : List (TaskId × Exit)} (h : sweep plan s = (.ok exits, s')) :
    s'.registry.size = s.registry.size := by
  have kept := keeps_sweep plan s
  rw [h] at kept
  exact kept.size

/-- A sweep makes no further task runnable. -/
theorem runnable_of_sweep {exits : List (TaskId × Exit)} {id : TaskId} (coherent : s.Coherent)
    (h : sweep plan s = (.ok exits, s')) (runnable : id ∈ s'.registry.runnable) :
    id ∈ s.registry.runnable := by
  have steps : Steps plan s (s.sweep plan).2 := steps_sweep s
  rw [h] at steps
  obtain ⟨task', found', incomplete'⟩ := Registry.mem_runnable_iff.1 runnable
  -- No task was added, and a task that was complete before is the same now.
  have inside : id.toNat < s.registry.tasks.size := by
    rw [← Registry.size, ← size_sweep h]
    exact (Array.getElem?_eq_some_iff.1 found').1
  have found : s.registry.get? id = some s.registry.tasks[id.toNat] :=
    Array.getElem?_eq_getElem inside
  refine Registry.mem_runnable_iff.2 ⟨_, found, ?_⟩
  obtain ⟨task, kept, evolves⟩ := Steps.evolves steps coherent found
  obtain rfl := Option.some.inj (kept.symm.trans found')
  by_contra completed
  rw [Bool.not_eq_false] at completed
  have phase : s.registry.tasks[id.toNat].phase = .completed := of_decide_eq_true completed
  rw [evolves.settled (.inl phase), completed] at incomplete'
  cases incomplete'

/-- No task was dispatched more often than so many times, and some task of a list so often. -/
def Longest (ids : List TaskId) (log : List Dispatch) (times : Nat) : Prop :=
  (∀ id, dispatchesOf id log ≤ times) ∧ (times ≠ 0 → ∃ id ∈ ids, dispatchesOf id log = times)

/-- One sweep before others dispatches the task that needs most once more. -/
theorem longest_append {ids later : List TaskId} {first rest : List Dispatch} {times : Nat}
    (once : first.map Dispatch.task = ids) (distinct : ids.Nodup) (some_left : ids ≠ [])
    (within : ∀ id ∈ later, id ∈ ids) (longest : Longest later rest times) :
    Longest ids (first ++ rest) (times + 1) := by
  have count_first : ∀ id ∈ ids, dispatchesOf id first = 1 := by
    intro id mem
    rw [dispatchesOf, once]
    exact List.count_eq_one_of_mem distinct mem
  refine ⟨fun id => ?_, fun _ => ?_⟩
  · have at_most : dispatchesOf id first ≤ 1 := by
      rw [dispatchesOf, once]
      exact List.nodup_iff_count_le_one.1 distinct id
    have rest_bound := longest.1 id
    rw [dispatchesOf_append]
    omega
  · rcases Nat.eq_zero_or_pos times with rfl | positive
    -- The others dispatched nothing, and any task of the first sweep was dispatched once.
    · obtain ⟨id, mem⟩ := List.exists_mem_of_ne_nil ids some_left
      have rest_bound := longest.1 id
      refine ⟨id, mem, ?_⟩
      rw [dispatchesOf_append, count_first id mem]
      omega
    · obtain ⟨id, mem, most⟩ := longest.2 (Nat.pos_iff_ne_zero.1 positive)
      refine ⟨id, within id mem, ?_⟩
      rw [dispatchesOf_append, count_first id (within id mem), most, Nat.add_comm]

/-- The sweeps of a run are the dispatches of the task that needs most. -/
theorem longest_of_sweepUntilDone {sweeps total : Nat} (coherent : s.Coherent)
    (h : sweepUntilDone plan sweeps s = (.ok total, s')) :
    ∃ more times, s'.dispatchLog = s.dispatchLog ++ more ∧ total = sweeps + times ∧
      Longest s.registry.runnable more times := by
  fun_induction sweepUntilDone plan sweeps s with
  | case1 sweeps s _ =>
    obtain ⟨ok, rfl⟩ := Prod.mk.inj h
    obtain rfl := Except.ok.inj ok
    refine ⟨[], 0, (List.append_nil _).symm, rfl, fun _ => Nat.le_refl 0, fun never => ?_⟩
    exact absurd rfl never
  | case2 => cases (Prod.mk.inj h).1
  | case3 => cases (Prod.mk.inj h).1
  | case4 sweeps s left _ exits next made ih =>
    have steps : Steps plan s (s.sweep plan).2 := steps_sweep s
    rw [made] at steps
    obtain ⟨first, once, log⟩ := dispatchLog_sweep made
    obtain ⟨rest, times, log', sum, longest⟩ := ih (Steps.coherent steps coherent) h
    have some_left : s.registry.runnable ≠ [] := by
      intro none_left
      rw [← Registry.length_runnable, none_left] at left
      exact left rfl
    refine ⟨first ++ rest, times + 1, ?_, by omega, ?_⟩
    · rw [log', log, List.append_assoc]
    · exact longest_append once s.registry.nodup_runnable some_left
        (fun id => runnable_of_sweep coherent made) longest

/-- A run is its sweeps, between two remarks. -/
theorem run_of_sweeps (plan : Plan) (s : Scheduler) :
    ∃ result last, sweepUntilDone plan 0
        (s.record (.schedulerStarted s.registry.size s.config.timeSlice.micros)) = (result, last) ∧
      (s.run plan).2.dispatchLog = last.dispatchLog ∧ Steps plan last (s.run plan).2 ∧
      ∀ total, result = .ok total → ∃ summary, (s.run plan).1 = .ok summary ∧ summary.sweeps = total
    := by
  unfold run
  simp only
  split
  · rename_i error last failed
    refine ⟨.error error, last, failed, rfl, .refl, fun total ok => ?_⟩
    cases ok
  · rename_i sweeps last done
    refine ⟨.ok sweeps, last, done, dispatchLog_remark last rfl, .single (.remark last rfl), ?_⟩
    rintro total ⟨⟩
    exact ⟨_, rfl, rfl⟩

/-- The times of the longest are a maximum over the tasks. -/
theorem Longest.eq_most {registry : Registry} {log : List Dispatch} {times : Nat}
    (longest : Longest registry.runnable log times) :
    times = most registry fun task => dispatchesOf task.id log := by
  have bounded : ∀ count ∈ registry.tasks.toList.map fun task => dispatchesOf task.id log,
      count ≤ times := by
    intro count mem
    obtain ⟨task, _, rfl⟩ := List.mem_map.1 mem
    exact longest.1 task.id
  refine le_antisymm ?_ (List.max_le_of_forall_le _ times bounded)
  rcases Nat.eq_zero_or_pos times with rfl | positive
  · exact Nat.zero_le _
  · obtain ⟨id, mem, so_often⟩ := longest.2 (Nat.pos_iff_ne_zero.1 positive)
    obtain ⟨task, found, _⟩ := Registry.mem_runnable_iff.1 mem
    have listed : times ∈ registry.tasks.toList.map fun task => dispatchesOf task.id log := by
      refine List.mem_map.2 ⟨task, Array.mem_toList_iff.2 (Registry.mem_of_get? found), ?_⟩
      rw [Registry.id_of_get? found, so_often]
    exact List.le_max_of_le listed (le_refl times)

/-- A run without a limit and without a breakdown succeeds, with as many sweeps as it dispatches
the task that needs most. -/
theorem run_succeeds (coherent : s.Coherent) (lost : s.LostOnlyByContext plan)
    (unlimited : s.config.maxSweeps = none) (unbroken : (s.run plan).2.Unbroken plan) :
    ∃ summary, (s.run plan).1 = .ok summary ∧
      summary.sweeps = most s.registry fun task =>
        dispatchesOf task.id ((s.run plan).2.dispatchLog.drop s.dispatchLog.length) := by
  obtain ⟨result, last, swept, log, ends, succeeds⟩ := run_of_sweeps plan s
  have start : Step plan s
      (s.record (.schedulerStarted s.registry.size s.config.timeSlice.micros)) := .remark s rfl
  have steps : Steps plan (s.record (.schedulerStarted s.registry.size s.config.timeSlice.micros))
      (sweepUntilDone plan 0 (s.record _)).2 := steps_sweepUntilDone 0 _
  rw [swept] at steps
  have coherent' := start.coherent coherent
  have calm : last.Unbroken plan := unbroken.of_steps ends (Steps.coherent steps coherent')
  obtain ⟨total, rfl⟩ := sweepUntilDone_succeeds coherent' (start.lostOnlyByContext coherent lost)
    (by rw [start.config, unlimited]) swept calm
  obtain ⟨summary, ok, sweeps⟩ := succeeds total rfl
  obtain ⟨more, times, log', sum, longest⟩ := longest_of_sweepUntilDone coherent' swept
  refine ⟨summary, ok, ?_⟩
  rw [dispatchLog_remark s rfl] at log'
  rw [registry_record] at longest
  rw [log, log', List.drop_left, sweeps, sum, Nat.zero_add]
  exact longest.eq_most

/-- Every run of a processor comes to an end, whatever the flag does. No task is ever dispatched
more often than up to its first `HALT`, or past the end of its program without one. A run of the
scheduler without a limit succeeds if no context breaks down or broke down before, and makes as
many sweeps as it dispatches the task that needs most. -/
theorem run_terminates (plan : Plan) (config : Config) (calls : List Call) :
    (∀ program poll processor run,
      Processor.Loop program poll 0 processor run ↔ run = processor.run program poll) ∧
    (∀ task ∈ (after plan config calls).registry.tasks,
      dispatchesOf task.id (after plan config calls).dispatchLog ≤ task.program.dispatchBound) ∧
    (config.maxSweeps = none → ((after plan config calls).run plan).2.Unbroken plan →
      ∃ summary, ((after plan config calls).run plan).1 = .ok summary ∧
        summary.sweeps = most (after plan config calls).registry fun task =>
          dispatchesOf task.id (((after plan config calls).run plan).2.dispatchLog.drop
            (after plan config calls).dispatchLog.length)) := by
  have coherent := coherent_after plan config calls
  refine ⟨?_, ?_, ?_⟩
  · intro program poll processor run
    constructor
    · intro loop
      exact loop.unique (Processor.loop_run program poll processor)
    · rintro rfl
      exact Processor.loop_run program poll processor
  · intro task mem
    have found := Registry.get?_id_of_mem mem
    rw [← recorded_after plan config calls task.id task found]
    exact (coherent.sound task.id task found).situation.dispatches_le
  · intro unlimited unbroken
    have kept : (after plan config calls).config = config :=
      Steps.config (steps_after plan config calls)
    rw [← kept] at unlimited
    exact run_succeeds coherent (lostOnlyByContext_after plan config calls) unlimited unbroken

/-- After one sweep over its first task a calm life goes on for two sweeps more, in which the first
task is dispatched once and the second one twice. -/
theorem run_terminates_calm :
    ∃ summary, ((after calmPlan .standard calmCalls).run calmPlan).1 = .ok summary ∧
      summary.sweeps = 2 := by
  obtain ⟨summary, ok, sweeps⟩ :=
    (run_terminates calmPlan .standard calmCalls).2.2 rfl (by decide +kernel)
  refine ⟨summary, ok, sweeps.trans ?_⟩
  decide +kernel

end TimeShare.Scheduler
