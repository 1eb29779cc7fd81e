import Mathlib.Order.Nat
import TimeShare.Proofs.Scheduler.Fairness
import TimeShare.Proofs.Scheduler.Iteration

/-!
# After a context broke down

A task whose context broke down stays incomplete and never has a processor state
again, so every sweep comes to it and fails. `lost_forever` says what that does
to all later calls: the tasks behind the first lost one are never dispatched
again, and no run succeeds.

* `Tracked.lost_iff`: the lost tasks are those that a context still has.
* `Tracked.sweep_fails`: a sweep dispatches the tasks before the first lost one
  until one of them is lost, too, and then fails.
* `Strides.sealed`: so the tasks behind it stay as they are, and the first lost
  task can only become an earlier one.
-/

namespace TimeShare.Scheduler

/-- The context of some dispatch of a task broke down. -/
def Lost (plan : Plan) (s : Scheduler) (id : TaskId) : Prop :=
  ∃ dispatch, (dispatch, true) ∈ s.dispatches plan ∧ dispatch.task = id

/-- A task is the first of those that were lost. -/
structure FirstLost (plan : Plan) (s : Scheduler) (id : TaskId) : Prop where
  lost : s.Lost plan id
  first : ∀ other, s.Lost plan other → id ≤ other

/-- The incomplete tasks before a task, in order. -/
def ahead (s : Scheduler) (id : TaskId) : List TaskId :=
  s.registry.runnable.filter fun other => other < id

variable {plan : Plan} {s s' : Scheduler}

/-! ## Lost tasks -/

/-- Every task that was lost is still with its context. -/
def LostAreGone (plan : Plan) (s : Scheduler) : Prop :=
  ∀ id, s.Lost plan id → ∃ task, s.registry.get? id = some task ∧ task.phase = .dispatched

/-- What every step keeps of lost tasks. -/
structure Tracked (plan : Plan) (s : Scheduler) : Prop where
  coherent : s.Coherent
  context : s.LostOnlyByContext plan
  gone : s.LostAreGone plan

theorem lost_of_longer {id : TaskId} (longer : s.dispatches plan <+: s'.dispatches plan)
    (lost : s.Lost plan id) : s'.Lost plan id := by
  obtain ⟨dispatch, mem, same⟩ := lost
  exact ⟨dispatch, longer.subset mem, same⟩

theorem lost_congr (same : s'.dispatches plan = s.dispatches plan) (id : TaskId) :
    s'.Lost plan id ↔ s.Lost plan id := by
  rw [Lost, same, Lost]

theorem not_unbroken_iff : ¬ s.Unbroken plan ↔ ∃ id, s.Lost plan id := by
  constructor
  · intro broken
    by_contra never
    refine broken fun entry mem => ?_
    rw [← Bool.not_eq_true]
    intro lost
    exact never ⟨entry.1.task, entry.1, by rw [← lost]; exact mem, rfl⟩
  · rintro ⟨id, dispatch, mem, _⟩ unbroken
    cases unbroken _ mem

/-- A step takes no task away from its context, and gives one more to a context that breaks down. -/
theorem Step.lostAreGone (step : Step plan s s') (coherent : s.Coherent)
    (before : s.LostAreGone plan) : s'.LostAreGone plan := by
  -- A task that was lost earlier is the same now.
  have earlier : ∀ id, s.Lost plan id →
      ∃ task, s'.registry.get? id = some task ∧ task.phase = .dispatched := by
    intro id lost
    obtain ⟨task, found, phase⟩ := before id lost
    obtain ⟨task', found', evolves⟩ := step.evolves coherent found
    exact ⟨task', found', by rw [evolves.settled (.inr phase), phase]⟩
  have quiet : s'.dispatchLog = s.dispatchLog → s'.LostAreGone plan := by
    intro log id lost
    exact earlier id ((lost_congr (dispatches_quiet step coherent log) id).1 lost)
  cases step with
  | note notice => exact quiet (dispatchLog_note s notice)
  | remark remark => exact quiet (dispatchLog_remark s remark)
  | enroll inserted => exact quiet (dispatchLog_enroll _ _ _ _ _)
  | openSweep => exact quiet (dispatchLog_openSweep s)
  | @lose old task begun processor recorded found incomplete began broken =>
    rintro id ⟨dispatch, mem, rfl⟩
    rw [dispatches_lose coherent found incomplete began broken, List.mem_append,
      List.mem_singleton] at mem
    rcases mem with mem | last
    · exact earlier _ ⟨dispatch, mem, rfl⟩
    · obtain ⟨rfl, _⟩ := Prod.mk.inj last
      have evolves := (coherent.sound _ _ found).evolves_of_begin incomplete began
      have same : begun.id = old := evolves.id.trans (Registry.id_of_get? found)
      refine ⟨begun, ?_, by rw [(Task.begin?_eq_some_iff.1 began).2]⟩
      rw [registry_recordRun, registry_handOver]
      dsimp only
      rw [same]
      exact get?_set_of_evolves found evolves
  | join found incomplete began joined =>
    rintro id ⟨dispatch, mem, rfl⟩
    rw [dispatches_join coherent found incomplete began joined, List.mem_append,
      List.mem_singleton] at mem
    rcases mem with mem | last
    · exact earlier _ ⟨dispatch, mem, rfl⟩
    · cases last

theorem Steps.tracked (steps : Steps plan s s') (tracked : s.Tracked plan) : s'.Tracked plan where
  coherent := steps.coherent tracked.coherent
  context := steps.keep Step.lostOnlyByContext tracked.coherent tracked.context
  gone := steps.keep Step.lostAreGone tracked.coherent tracked.gone

theorem tracked_after (plan : Plan) (config : Config) (calls : List Call) :
    (after plan config calls).Tracked plan := by
  refine Steps.tracked (steps_after plan config calls)
    ⟨coherent_new config, lostOnlyByContext_new plan config, ?_⟩
  rintro id ⟨dispatch, mem, _⟩
  cases mem

namespace Tracked

/-- The lost tasks are those that a context still has. -/
theorem lost_iff (tracked : s.Tracked plan) {id : TaskId} :
    s.Lost plan id ↔ ∃ task, s.registry.get? id = some task ∧ task.phase = .dispatched := by
  refine ⟨tracked.gone id, ?_⟩
  rintro ⟨task, found, phase⟩
  obtain ⟨dispatch, last⟩ := tracked.context id task found phase
  obtain ⟨mem, same⟩ := List.mem_filter.1 (List.mem_of_getLast? last)
  exact ⟨dispatch, mem, of_decide_eq_true same⟩

/-- A lost task has no processor state. -/
theorem unavailable (tracked : s.Tracked plan) {id : TaskId} (lost : s.Lost plan id) :
    ∃ task, s.registry.get? id = some task ∧ task.phase = .dispatched ∧ task.processor = none := by
  obtain ⟨task, found, phase⟩ := tracked.gone id lost
  have situation := (tracked.coherent.sound id task found).situation
  rw [phase] at situation
  cases situation with
  | lost gone _ _ _ _ => exact ⟨task, found, phase, gone⟩

theorem runnable_of_lost (tracked : s.Tracked plan) {id : TaskId} (lost : s.Lost plan id) :
    id ∈ s.registry.runnable := by
  obtain ⟨task, found, phase⟩ := tracked.gone id lost
  exact Registry.mem_runnable_iff.2 ⟨task, found, by rw [Task.isCompleted, phase]; rfl⟩

theorem left_of_lost (tracked : s.Tracked plan) {id : TaskId} (lost : s.Lost plan id) :
    s.registry.incompleteCount ≠ 0 := by
  rw [← Registry.length_runnable]
  exact Nat.ne_zero_of_lt (List.length_pos_of_mem (tracked.runnable_of_lost lost))

/-- Steps do not change a lost task. -/
theorem kept_of_lost (tracked : s.Tracked plan) (steps : Steps plan s s') {id : TaskId}
    {task : Task} (lost : s.Lost plan id) (found : s.registry.get? id = some task) :
    s'.registry.get? id = some task := by
  obtain ⟨same, found_same, phase⟩ := tracked.gone id lost
  obtain rfl := Option.some.inj (found_same.symm.trans found)
  obtain ⟨task', found', evolves⟩ := steps.evolves tracked.coherent found
  rw [found', evolves.settled (.inr phase)]

/-- The attempt to dispatch a lost task fails and changes nothing. -/
theorem dispatch_lost (tracked : s.Tracked plan) (interruption : Interruption) {id : TaskId}
    (lost : s.Lost plan id) :
    dispatch interruption id s = (.error (.dispatch id SchedulerError.stateLost), s) := by
  obtain ⟨task, found, _, gone⟩ := tracked.unavailable lost
  have unavailable : task.begin? = none := by
    rw [Task.begin?, gone, Option.map_none]
  simp only [dispatch, found, unavailable]

/-- The attempt to dispatch an incomplete task that was not lost fails only if its context breaks
down. -/
theorem dispatch_fails (tracked : s.Tracked plan) {id : TaskId} {error : SchedulerError}
    (runnable : id ∈ s.registry.runnable) (never : ¬ s.Lost plan id)
    (failed : dispatch (plan s.registry.dispatches) id s = (.error error, s')) :
    error = .dispatch id SchedulerError.contextBroken ∧ s'.Lost plan id ∧
      ∃ last, last.task = id ∧ s'.dispatchLog = s.dispatchLog ++ [last] ∧
        s'.statistics = s.statistics.countDispatch := by
  obtain ⟨task, found, incomplete⟩ := Registry.mem_runnable_iff.1 runnable
  rcases dispatch_cases failed with
    ⟨_, _, unavailable⟩ | ⟨other, processor, begun, found', began, ends⟩
  · have phase := (tracked.coherent.sound id task found).dispatched_of_unavailable incomplete
      (unavailable task found)
    exact absurd (tracked.lost_iff.2 ⟨task, found, phase⟩) never
  · obtain rfl := Option.some.inj (found.symm.trans found')
    rcases ends with ⟨recorded, broken, result, rfl⟩ | ⟨_, _, _, result, _⟩
    · have same : begun.id = id := Registry.id_of_begin found began
      refine ⟨Except.error.inj result, ⟨⟨begun.id, processor.pc, recorded⟩, ?_, same⟩, _, same,
        dispatchLog_lose s processor begun recorded, rfl⟩
      rw [dispatches_lose tracked.coherent found incomplete began broken]
      exact List.mem_append_right _ (List.mem_singleton_self _)
    · cases result

end Tracked

theorem exists_firstLost (lost : ∃ id, s.Lost plan id) : ∃ id, s.FirstLost plan id := by
  classical
  have places : ∃ place, ∃ id : TaskId, id.toNat = place ∧ s.Lost plan id := by
    obtain ⟨id, lost⟩ := lost
    exact ⟨_, id, rfl, lost⟩
  obtain ⟨id, place, here⟩ := Nat.find_spec places
  refine ⟨id, here, fun other there => ?_⟩
  rw [UInt32.le_iff_toNat_le, place]
  exact Nat.find_min' places ⟨other, rfl, there⟩

/-! ## Sweeps that fail -/

/-- Dispatching some tasks and then others is dispatching the first and, if that succeeds, the
others. -/
theorem dispatchEach_append (before after : List TaskId) (s : Scheduler) :
    dispatchEach plan (before ++ after) s =
      match dispatchEach plan before s with
      | (.error error, next) => (.error error, next)
      | (.ok exits, next) =>
        ((dispatchEach plan after next).1.map (exits ++ ·), (dispatchEach plan after next).2) := by
  induction before generalizing s with
  | nil =>
    rw [List.nil_append]
    change _ = ((dispatchEach plan after s).1.map ([] ++ ·), (dispatchEach plan after s).2)
    rcases dispatchEach plan after s with ⟨_ | _, next⟩ <;> rfl
  | cons id rest ih =>
    rw [List.cons_append, dispatchEach, dispatchEach]
    rcases dispatch (plan s.registry.dispatches) id s with ⟨_ | exit, next⟩
    · rfl
    · simp only [ih next]
      rcases dispatchEach plan rest next with ⟨_ | exits, stop⟩
      · rfl
      · simp only
        rcases dispatchEach plan after stop with ⟨_ | others, last⟩ <;> rfl

/-- Dispatching some tasks fails where one of them fails. -/
theorem dispatchEach_error {ids : List TaskId} {error : SchedulerError}
    (failed : dispatchEach plan ids s = (.error error, s')) :
    ∃ before id after exits next, ids = before ++ id :: after ∧
      dispatchEach plan before s = (.ok exits, next) ∧
      dispatch (plan next.registry.dispatches) id next = (.error error, s') := by
  induction ids generalizing s with
  | nil => cases (Prod.mk.inj failed).1
  | cons id rest ih =>
    rcases dispatchEach_cons failed with
      ⟨same, here, result⟩ | ⟨exit, next, others, first, rest_done, result⟩
    · obtain rfl := Except.error.inj result
      exact ⟨[], id, rest, [], s, rfl, rfl, here⟩
    · cases others with
      | ok _ => cases result
      | error same =>
        obtain rfl := Except.error.inj result
        obtain ⟨before, last, after, exits, stop, split, done, there⟩ := ih rest_done
        refine ⟨id :: before, last, after, (id, exit) :: exits, stop, ?_, ?_, there⟩
        · rw [split, List.cons_append]
        · rw [dispatchEach, first]
          simp only [done]

/-- A dispatch that succeeds is counted once, and as a part of the same sweep. -/
theorem statistics_dispatch {interruption : Interruption} {id : TaskId} {exit : Exit}
    (h : dispatch interruption id s = (.ok exit, s')) :
    s'.statistics.sweeps = s.statistics.sweeps ∧
      s'.statistics.dispatches = s.statistics.dispatches + 1 := by
  obtain ⟨_, processor, begun, run, raised, _, _, _, _, rfl⟩ := dispatch_ok h
  rw [statistics_close, statistics_handOver]
  cases run.report.exit <;> exact ⟨rfl, rfl⟩

theorem statistics_dispatchEach {ids : List TaskId} {exits : List (TaskId × Exit)}
    (h : dispatchEach plan ids s = (.ok exits, s')) :
    s'.statistics.sweeps = s.statistics.sweeps ∧
      s'.statistics.dispatches = s.statistics.dispatches + UInt64.ofNat ids.length := by
  induction ids generalizing s exits with
  | nil =>
    obtain ⟨_, rfl⟩ := Prod.mk.inj h
    exact ⟨rfl, (UInt64.add_zero _).symm⟩
  | cons id rest ih =>
    obtain ⟨exit, next, others, dispatched, rest_done⟩ := dispatchEach_cons_ok h
    obtain ⟨sweeps, dispatches⟩ := statistics_dispatch dispatched
    obtain ⟨sweeps', dispatches'⟩ := ih rest_done
    refine ⟨sweeps'.trans sweeps, ?_⟩
    rw [dispatches', dispatches, List.length_cons, UInt64.ofNat_add, UInt64.add_assoc,
      UInt64.add_comm 1]
    rfl

/-- The tasks that a sweep visits are those before a lost task, that task and those behind it. -/
theorem runnable_split {id : TaskId} (runnable : id ∈ s.registry.runnable) :
    ∃ behind, s.registry.runnable = s.ahead id ++ id :: behind := by
  obtain ⟨before, behind, split⟩ := List.append_of_mem runnable
  have sorted := s.registry.pairwise_runnable
  rw [split, List.pairwise_append, List.pairwise_cons] at sorted
  obtain ⟨_, ⟨later, _⟩, earlier⟩ := sorted
  have below : before.filter (fun other => other < id) = before :=
    List.filter_eq_self.2 fun other mem =>
      decide_eq_true (earlier other mem id List.mem_cons_self)
  have none_left : (id :: behind).filter (fun other => other < id) = [] := by
    refine List.filter_eq_nil_iff.2 fun other mem => ?_
    rw [decide_eq_true_iff]
    rcases List.mem_cons.1 mem with rfl | mem
    · exact UInt32.lt_irrefl other
    · exact UInt32.lt_asymm (later other mem)
  refine ⟨behind, ?_⟩
  rw [ahead, split, List.filter_append, below, none_left, List.append_nil]

theorem lt_of_mem_ahead {id other : TaskId} (mem : other ∈ s.ahead id) : other < id :=
  of_decide_eq_true (List.mem_filter.1 mem).2

/-- How a sweep fails that comes to a task lost before: the tasks that it dispatches, its error and
the state it leaves. -/
inductive SweepFails (plan : Plan) (s : Scheduler) (id : TaskId) :
    List TaskId → SchedulerError → Scheduler → Prop
  /-- It dispatches the incomplete tasks before the lost one and finds that one lost. -/
  | reached {exits : List (TaskId × Exit)} {s' : Scheduler} :
    dispatchEach plan (s.ahead id) s.openSweep = (.ok exits, s') →
    SweepFails plan s id (s.ahead id) (.dispatch id SchedulerError.stateLost) s'
  /-- The context of one of the tasks before breaks down, too. -/
  | broken {before after : List TaskId} {other : TaskId} {exits : List (TaskId × Exit)}
      {next s' : Scheduler} : s.ahead id = before ++ other :: after →
    dispatchEach plan before s.openSweep = (.ok exits, next) →
    dispatch (plan next.registry.dispatches) other next =
      (.error (.dispatch other SchedulerError.contextBroken), s') →
    s'.Lost plan other →
    SweepFails plan s id (before ++ [other]) (.dispatch other SchedulerError.contextBroken) s'

/-- What a sweep adds to the log and the counters that dispatches some tasks. -/
structure Visits (s : Scheduler) (visited : List TaskId) (s' : Scheduler) : Prop where
  dispatched : ∃ further, s'.dispatchLog = s.dispatchLog ++ further ∧
    further.map Dispatch.task = visited
  sweeps : s'.statistics.sweeps = s.statistics.sweeps + 1
  dispatches : s'.statistics.dispatches = s.statistics.dispatches + UInt64.ofNat visited.length

theorem visits_dispatchEach {ids : List TaskId} {exits : List (TaskId × Exit)}
    (h : dispatchEach plan ids s.openSweep = (.ok exits, s')) : Visits s ids s' := by
  obtain ⟨further, tasks, log⟩ := dispatchLog_dispatchEach h
  obtain ⟨sweeps, dispatches⟩ := statistics_dispatchEach h
  rw [dispatchLog_openSweep] at log
  exact ⟨⟨further, log, tasks⟩, sweeps, dispatches⟩

/-- One more dispatch after those of a sweep is one more visit. -/
theorem Visits.concat {visited : List TaskId} {next : Scheduler} {last : Dispatch}
    (visits : Visits s visited next) (log : s'.dispatchLog = next.dispatchLog ++ [last])
    (counted : s'.statistics = next.statistics.countDispatch) :
    Visits s (visited ++ [last.task]) s' := by
  obtain ⟨further, log_next, tasks⟩ := visits.dispatched
  refine ⟨⟨further ++ [last], ?_, ?_⟩, ?_, ?_⟩
  · rw [log, log_next, List.append_assoc]
  · rw [List.map_append, tasks, List.map_singleton]
  · rw [counted]
    exact visits.sweeps
  · have dispatches : s'.statistics.dispatches = next.statistics.dispatches + 1 := by
      rw [counted]
      rfl
    rw [dispatches, visits.dispatches, List.length_append, UInt64.ofNat_add, UInt64.add_assoc]
    rfl

namespace Tracked

/-- After some tasks before a lost one were dispatched, the next one is incomplete and was not
lost. -/
theorem next_ahead {id other : TaskId} {before after : List TaskId} {next : Scheduler}
    {exits : List (TaskId × Exit)} (tracked : s.Tracked plan) (tracked_next : next.Tracked plan)
    (first : s.FirstLost plan id) (split : s.ahead id = before ++ other :: after)
    (done : dispatchEach plan before s.openSweep = (.ok exits, next)) :
    other ∈ next.registry.runnable ∧ ¬ next.Lost plan other := by
  have mem : other ∈ s.ahead id := by
    rw [split]
    exact List.mem_append_right _ List.mem_cons_self
  have distinct : (before ++ other :: after).Nodup := by
    rw [← split]
    exact s.registry.nodup_runnable.filter _
  obtain ⟨distinct_before, _, apart⟩ := List.nodup_append.1 distinct
  have never : other ∉ before := fun twice => apart other twice other List.mem_cons_self rfl
  have same : next.registry.get? other = s.registry.get? other :=
    (exits_dispatchEach distinct_before done).2.2 other never
  constructor
  · rw [Registry.mem_runnable_iff, same, ← Registry.mem_runnable_iff]
    exact (List.mem_filter.1 mem).1
  · rw [tracked_next.lost_iff, same, ← tracked.lost_iff]
    exact fun lost => UInt32.not_le.2 (lt_of_mem_ahead mem) (first.first other lost)

/-- A sweep dispatches the incomplete tasks before the first lost one, until one of them is lost,
too, and then fails. -/
theorem sweep_fails {id : TaskId} (tracked : s.Tracked plan) (first : s.FirstLost plan id) :
    ∃ visited error s', s.sweep plan = (.error error, s') ∧
      SweepFails plan s id visited error s' ∧ Visits s visited s' := by
  obtain ⟨behind, split⟩ := runnable_split (tracked.runnable_of_lost first.lost)
  have opened : Steps plan s s.openSweep := .single (.openSweep s)
  -- Tasks before the lost one that are dispatched first leave a tracked state.
  have tracked_next : ∀ {before after exits next}, s.ahead id = before ++ after →
      dispatchEach plan before s.openSweep = (.ok exits, next) →
      Steps plan s next ∧ next.Tracked plan := by
    intro before after exits next split_ahead done
    have part : before.Sublist s.registry.runnable := by
      rw [split, split_ahead, List.append_assoc]
      exact List.sublist_append_left _ _
    have steps := opened.trans
      (steps_dispatchEach (part.nodup s.registry.nodup_runnable) (fun _ mem => part.subset mem)
        done)
    exact ⟨steps, Steps.tracked steps tracked⟩
  rw [sweep_of_unfinished plan (tracked.left_of_lost first.lost), split, dispatchEach_append]
  cases ends : dispatchEach plan (s.ahead id) s.openSweep with
  | mk result next =>
    cases result with
    | ok exits =>
      obtain ⟨steps, tracked_next⟩ := tracked_next (List.append_nil _).symm ends
      have lost : next.Lost plan id :=
        lost_of_longer (Steps.dispatches_prefix steps tracked.coherent) first.lost
      refine ⟨s.ahead id, _, next, ?_, .reached ends, visits_dispatchEach ends⟩
      simp only [dispatchEach, tracked_next.dispatch_lost _ lost]
      rfl
    | error error =>
      obtain ⟨before, other, after, exits, middle, split_ahead, done, failed⟩ :=
        dispatchEach_error ends
      obtain ⟨_, tracked_middle⟩ := tracked_next split_ahead done
      obtain ⟨runnable_other, never⟩ := tracked.next_ahead tracked_middle first split_ahead done
      obtain ⟨rfl, lost, last, rfl, log, counted⟩ :=
        tracked_middle.dispatch_fails runnable_other never failed
      exact ⟨before ++ [last.task], _, next, rfl, .broken split_ahead done failed lost,
        (visits_dispatchEach done).concat log counted⟩

end Tracked

/-- A failing sweep visits only tasks before the lost one. -/
theorem SweepFails.lt_of_mem {id other : TaskId} {visited : List TaskId} {error : SchedulerError}
    (fails : SweepFails plan s id visited error s') (mem : other ∈ visited) : other < id := by
  cases fails with
  | reached _ => exact lt_of_mem_ahead mem
  | @broken before after last _ _ _ split _ _ _ =>
    refine lt_of_mem_ahead (s := s) ?_
    rw [split]
    rcases List.mem_append.1 mem with mem | mem
    · exact List.mem_append_left _ mem
    · rw [List.mem_singleton.1 mem]
      exact List.mem_append_right _ List.mem_cons_self

/-! ## Runs that fail -/

/-- A run whose first sweep fails fails as that sweep does, unless it may make none. -/
theorem run_of_sweep_error {error : SchedulerError} (unlimited : s.config.maxSweeps ≠ some 0)
    (left : s.registry.incompleteCount ≠ 0) (failed : s.sweep plan = (.error error, s')) :
    ∃ t, s.run plan = (.error error, t) ∧ Alike t s' := by
  have started : Alike s
      (s.record (.schedulerStarted s.registry.size s.config.timeSlice.micros)) :=
    (alike_frame s rfl).symm
  obtain ⟨t, swept, alike⟩ := started.sweep plan failed
  have free : usedUp s.config.maxSweeps 0 = none := by
    refine usedUp_eq_none fun bound limit => Nat.pos_of_ne_zero fun none => ?_
    rw [limit] at unlimited
    exact unlimited (congrArg some (UInt64.toNat_inj.1 none))
  exact ⟨t, run_of_error (sweepUntilDone_of_error left free swept), alike.symm⟩

/-- A run that may make no sweep fails at its limit. -/
theorem run_of_limit_zero (limit : s.config.maxSweeps = some 0)
    (left : s.registry.incompleteCount ≠ 0) :
    ∃ t, s.run plan = (.error (.sweepLimit 0 s.registry.incompleteCount), t) ∧ Alike t s := by
  refine ⟨((s.record (.schedulerStarted s.registry.size s.config.timeSlice.micros)).note
    (.sweepLimitReached 0 s.registry.incompleteCount)), run_of_error ?_,
    (alike_note _ _).trans (alike_frame s rfl)⟩
  rw [sweepUntilDone, registry_record, if_neg left]
  have used : usedUp (s.record (.schedulerStarted s.registry.size
      s.config.timeSlice.micros)).config.maxSweeps 0 = some 0 := by
    rw [show (s.record _).config = s.config from rfl, limit]
    rfl
  rw [used]
  rfl

/-! ## Later calls -/

/-- What a first lost task does to the scheduler. -/
structure Blocked (plan : Plan) (s : Scheduler) (id : TaskId) : Prop where
  first : s.FirstLost plan id
  /-- The lost tasks are still with their contexts. -/
  gone : ∀ other, s.Lost plan other → ∃ task, s.registry.get? other = some task ∧
    task.phase = .dispatched ∧ task.processor = none
  unfinished : s.isFinished = false
  /-- An attempt to dispatch a lost task changes nothing. -/
  attempt : ∀ other, s.Lost plan other → ∀ interruption,
    dispatch interruption other s = (.error (.dispatch other SchedulerError.stateLost), s)
  /-- A sweep fails, and so does a run that may make one. -/
  sweep : ∃ visited error s', s.sweep plan = (.error error, s') ∧
    SweepFails plan s id visited error s' ∧ Visits s visited s' ∧
    (s.config.maxSweeps ≠ some 0 → ∃ t, s.run plan = (.error error, t) ∧ Alike t s')
  limited : s.config.maxSweeps = some 0 →
    ∃ t, s.run plan = (.error (.sweepLimit 0 s.registry.incompleteCount), t) ∧ Alike t s

/-- What steps leave alone that come after a task was lost. -/
structure Sealed (plan : Plan) (s : Scheduler) (id : TaskId) (s' : Scheduler) : Prop where
  lost : ∀ other, s.Lost plan other → s'.Lost plan other ∧
    s'.registry.get? other = s.registry.get? other
  /-- Only tasks before the lost one are dispatched. -/
  behind : ∃ further, s'.dispatchLog = s.dispatchLog ++ further ∧
    ∀ dispatch ∈ further, dispatch.task < id

theorem Tracked.blocked {id : TaskId} (tracked : s.Tracked plan) (first : s.FirstLost plan id) :
    s.Blocked plan id := by
  have left := tracked.left_of_lost first.lost
  obtain ⟨visited, error, s', failed, fails, visits⟩ := tracked.sweep_fails first
  exact
    { first
      gone := fun _ lost => tracked.unavailable lost
      unfinished := decide_eq_false left
      attempt := fun _ lost interruption => tracked.dispatch_lost interruption lost
      sweep := ⟨visited, error, s', failed, fails, visits,
        fun unlimited => run_of_sweep_error unlimited left failed⟩
      limited := fun limit => run_of_limit_zero limit left }

/-- No step makes the first lost task a later one. -/
theorem Steps.firstLost {id : TaskId} (steps : Steps plan s s') (coherent : s.Coherent)
    (first : s.FirstLost plan id) : ∃ earlier, earlier ≤ id ∧ s'.FirstLost plan earlier := by
  have lost := lost_of_longer (Steps.dispatches_prefix steps coherent) first.lost
  obtain ⟨earlier, first'⟩ := exists_firstLost ⟨id, lost⟩
  exact ⟨earlier, first'.first id lost, first'⟩

/-- A stride dispatches only tasks before the first lost one. -/
theorem Stride.behind {id : TaskId} (stride : Stride plan s s') (tracked : s.Tracked plan)
    (first : s.FirstLost plan id) :
    ∃ further, s'.dispatchLog = s.dispatchLog ++ further ∧
      ∀ dispatch ∈ further, dispatch.task < id := by
  have quiet : s'.dispatchLog = s.dispatchLog → ∃ further,
      s'.dispatchLog = s.dispatchLog ++ further ∧ ∀ dispatch ∈ further, dispatch.task < id :=
    fun log => ⟨[], by rw [log, List.append_nil], nofun⟩
  cases stride with
  | note notice => exact quiet (dispatchLog_note s notice)
  | remark remark => exact quiet (dispatchLog_remark s remark)
  | enroll inserted => exact quiet (dispatchLog_enroll _ _ _ _ _)
  | sweep =>
    obtain ⟨visited, error, s', failed, fails, visits⟩ := tracked.sweep_fails first
    obtain ⟨further, log, tasks⟩ := visits.dispatched
    rw [failed]
    refine ⟨further, log, fun dispatch mem => fails.lt_of_mem ?_⟩
    rw [← tasks]
    exact List.mem_map_of_mem mem

theorem Strides.behind {id : TaskId} (strides : Strides plan s s') (tracked : s.Tracked plan)
    (first : s.FirstLost plan id) :
    ∃ further, s'.dispatchLog = s.dispatchLog ++ further ∧
      ∀ dispatch ∈ further, dispatch.task < id := by
  induction strides with
  | refl => exact ⟨[], (List.append_nil _).symm, nofun⟩
  | tail earlier stride ih =>
    obtain ⟨further, log, below⟩ := ih
    have steps := Strides.steps earlier
    obtain ⟨nearer, le, first'⟩ := Steps.firstLost steps tracked.coherent first
    obtain ⟨last, log', below'⟩ := stride.behind (Steps.tracked steps tracked) first'
    refine ⟨further ++ last, by rw [log', log, List.append_assoc], fun dispatch mem => ?_⟩
    rcases List.mem_append.1 mem with mem | mem
    · exact below dispatch mem
    · exact UInt32.lt_of_lt_of_le (below' dispatch mem) le

theorem Strides.sealed {id : TaskId} (strides : Strides plan s s') (tracked : s.Tracked plan)
    (first : s.FirstLost plan id) : Sealed plan s id s' where
  lost := by
    intro other lost
    have steps := Strides.steps strides
    obtain ⟨task, found, _⟩ := tracked.gone other lost
    exact ⟨lost_of_longer (Steps.dispatches_prefix steps tracked.coherent) lost,
      by rw [tracked.kept_of_lost steps lost found, found]⟩
  behind := strides.behind tracked first

/-- Once a context broke down, all later calls leave the lost tasks alone and dispatch only tasks
before the first of them, and after any calls the sweeps and the runs fail. -/
theorem lost_forever (plan : Plan) (config : Config) (calls more : List Call)
    (broken : ¬ (after plan config calls).Unbroken plan) :
    ∃ first later, later ≤ first ∧ (after plan config calls).FirstLost plan first ∧
      Sealed plan (after plan config calls) first (after plan config (calls ++ more)) ∧
      (after plan config (calls ++ more)).Blocked plan later := by
  have tracked := tracked_after plan config calls
  obtain ⟨first, first_lost⟩ := exists_firstLost (not_unbroken_iff.1 broken)
  have strides : Strides plan (after plan config calls) (after plan config (calls ++ more)) := by
    rw [after, after, List.foldl_append]
    exact strides_calls _ more
  obtain ⟨later, le, later_lost⟩ :=
    (Strides.steps strides).firstLost tracked.coherent first_lost
  exact ⟨first, later, le, first_lost, strides.sealed tracked first_lost,
    (tracked_after plan config (calls ++ more)).blocked later_lost⟩

/-- In a life that lost its second task, a third task that is admitted later is never dispatched,
and a run fails. -/
theorem lost_forever_lossy :
    ∃ first later, later ≤ first ∧
      Sealed lossyPlan (after lossyPlan .standard lossyCalls) first
        (after lossyPlan .standard (lossyCalls ++ [.submit 3 pushPop, .sweep, .run])) ∧
      (after lossyPlan .standard
        (lossyCalls ++ [.submit 3 pushPop, .sweep, .run])).Blocked lossyPlan later := by
  obtain ⟨first, later, le, _, closed, blocked⟩ :=
    lost_forever lossyPlan .standard lossyCalls [.submit 3 pushPop, .sweep, .run]
      (by decide +kernel)
  exact ⟨first, later, le, closed, blocked⟩

end TimeShare.Scheduler
