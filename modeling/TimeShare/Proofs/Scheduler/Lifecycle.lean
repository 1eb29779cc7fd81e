import TimeShare.Proofs.Scheduler.Dispatches

/-!
# Tasks between calls

`task_lifecycle` says in which situations a task can be between two calls, which
identifier it has, and how later calls may change it. A task is out of reach of
later dispatches only after its last context broke down:
`Step.lostOnlyByContext` carries this through every step.
-/

namespace TimeShare.Scheduler

/-- Whether the last context of a task broke down. -/
def LastLost (plan : Plan) (s : Scheduler) (id : TaskId) : Prop :=
  ∃ dispatch, ((s.dispatches plan).filter fun entry => entry.1.task = id).getLast? =
    some (dispatch, true)

/-- Every task that a context still has was lost with its last context. -/
def LostOnlyByContext (plan : Plan) (s : Scheduler) : Prop :=
  ∀ id task, s.registry.get? id = some task → task.phase = .dispatched → s.LastLost plan id

variable {plan : Plan} {s s' : Scheduler}

/-- A dispatch of a task is its last one. -/
theorem lastLost_of_concat {dispatch : Dispatch}
    (more : s'.dispatches plan = s.dispatches plan ++ [(dispatch, true)]) :
    s'.LastLost plan dispatch.task := by
  refine ⟨dispatch, ?_⟩
  rw [more, List.filter_append, List.filter_cons_of_pos (by simp), List.filter_nil,
    List.getLast?_concat]

/-- A dispatch of another task does not matter. -/
theorem lastLost_of_other {dispatch : Dispatch} {broken : Bool} {id : TaskId}
    (more : s'.dispatches plan = s.dispatches plan ++ [(dispatch, broken)])
    (other : dispatch.task ≠ id) (lost : s.LastLost plan id) : s'.LastLost plan id := by
  obtain ⟨last, lost⟩ := lost
  refine ⟨last, ?_⟩
  rw [more, List.filter_append, List.filter_cons_of_neg (by simpa using other), List.filter_nil,
    List.append_nil, lost]

theorem lastLost_of_quiet {id : TaskId} (same : s'.dispatches plan = s.dispatches plan)
    (lost : s.LastLost plan id) : s'.LastLost plan id := by
  rwa [LastLost, same]

/-- A step leaves every task waiting whose context came back. -/
theorem Step.lostOnlyByContext (step : Step plan s s') (coherent : s.Coherent)
    (before : s.LostOnlyByContext plan) : s'.LostOnlyByContext plan := by
  intro id task found dispatched
  have whole := step
  cases step with
  | note notice =>
    exact lastLost_of_quiet (dispatches_quiet whole coherent (dispatchLog_note s notice))
      (before id task found dispatched)
  | remark remark =>
    exact lastLost_of_quiet (dispatches_quiet whole coherent (dispatchLog_remark s remark))
      (before id task found dispatched)
  | enroll inserted =>
    rcases Registry.get?_insert_cases inserted found with found_before | rfl
    · exact lastLost_of_quiet (dispatches_quiet whole coherent (dispatchLog_enroll _ _ _ _ _))
        (before id task found_before dispatched)
    · cases dispatched
  | openSweep =>
    exact lastLost_of_quiet (dispatches_quiet whole coherent (dispatchLog_openSweep s))
      (before id task found dispatched)
  | lose found_old incomplete began lost =>
    have more := dispatches_lose coherent found_old incomplete began lost
    rcases Registry.get?_set_cases found with rfl | ⟨other, found_before⟩
    · rw [← Registry.id_of_get? found]
      exact lastLost_of_concat more
    · exact lastLost_of_other more other (before id task found_before dispatched)
  | @join _ _ begun _ run _ found_old incomplete began joined =>
    have more := dispatches_join coherent found_old incomplete began joined
    rw [registry_join] at found
    rcases Registry.get?_set_cases found with rfl | ⟨other, found_before⟩
    -- A task that came back is preempted or completed.
    · have returned : Phase.after run.report.exit = .dispatched := dispatched
      cases exit : run.report.exit <;> rw [exit] at returned <;> cases returned
    · exact lastLost_of_other more other (before id task found_before dispatched)

theorem lostOnlyByContext_new (plan : Plan) (config : Config) :
    (new config).LostOnlyByContext plan := by
  intro id task found
  cases found

theorem lostOnlyByContext_after (plan : Plan) (config : Config) (calls : List Call) :
    (after plan config calls).LostOnlyByContext plan :=
  holds_after Step.lostOnlyByContext (lostOnlyByContext_new plan config) calls

/-- Between calls the task at a place has the place as its identifier and is in the situation of
its phase; a context has it only if its last context broke down; and later calls change it only as
tasks may change. -/
theorem task_lifecycle (plan : Plan) (config : Config) (calls more : List Call) {place : Nat}
    {task : Task} (found : (after plan config calls).registry.tasks[place]? = some task) :
    task.id.toNat = place ∧ task.Situation task.phase ∧
      (task.phase = .dispatched → (after plan config calls).LastLost plan task.id) ∧
      ∃ task', (after plan config (calls ++ more)).registry.tasks[place]? = some task' ∧
        task.Evolves task' := by
  have coherent := coherent_after plan config calls
  have by_id := Registry.get?_id_of_mem (Array.mem_of_getElem? found)
  have place_eq : task.id.toNat = place := by
    obtain ⟨inside, rfl⟩ := Array.getElem?_eq_some_iff.1 found
    exact (after plan config calls).registry.id_eq place inside
  obtain ⟨task', found', evolves⟩ :=
    Steps.evolves (steps_after_append plan config calls more) coherent by_id
  rw [Registry.get?, place_eq] at found'
  exact ⟨place_eq, (coherent.sound _ _ by_id).situation,
    lostOnlyByContext_after plan config calls _ _ by_id, task', found', evolves⟩

/-- The second task of a life with a lost context stays lost through a further run. -/
theorem task_lifecycle_lossy :
    ∃ task, (after lossyPlan .standard lossyCalls).registry.tasks[1]? = some task ∧
      task.id.toNat = 1 ∧ task.Situation .dispatched ∧
      (after lossyPlan .standard lossyCalls).LastLost lossyPlan task.id ∧
      (after lossyPlan .standard (lossyCalls ++ [.run])).registry.tasks[1]? = some task := by
  have lost : (after lossyPlan .standard lossyCalls).registry.tasks[1]?.map Task.phase =
      some .dispatched := by
    decide +kernel
  obtain ⟨task, found, phase⟩ := Option.map_eq_some_iff.1 lost
  obtain ⟨place, situation, context, task', found', evolves⟩ :=
    task_lifecycle lossyPlan .standard lossyCalls [.run] found
  rw [phase] at situation
  rw [evolves.settled (.inr phase)] at found'
  exact ⟨task, found, place, situation, context phase, found'⟩

end TimeShare.Scheduler
