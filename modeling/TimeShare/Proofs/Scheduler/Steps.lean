import Mathlib.Logic.Relation
import TimeShare.Proofs.Scheduler.Effects
import TimeShare.Scheduler.Run

/-!
# Calls as steps

A scheduler lives through calls: admissions, sweeps and runs. Each call is a
sequence of strides, of which a whole sweep is one, and each stride a sequence of
steps. There are six kinds of steps; an admission and a dispatch are one step
each, whatever happens in the context. `strides_after` and `steps_after` say that
the state after any calls of a new scheduler is reached by strides and by steps,
so that what holds of a new scheduler and is kept by each of them holds between
calls.
-/

namespace TimeShare

/-- A call of a scheduler. -/
inductive Call
  | submit (priority : Int32) (program : Program)
  | submitSource (priority : Int32) (source : String)
  | submitAll (programs : List (Int32 × Program))
  | sweep
  | run

/-- Whether an event tells of nothing but itself: no task and no counter changes with it. -/
def Event.isRemark : Event → Bool
  | admissionRejected _ => true
  | schedulerStarted _ _ => true
  | allCompleted _ => true
  | _ => false

namespace Scheduler

/-- The state that a call leaves. -/
def perform (plan : Plan) (s : Scheduler) : Call → Scheduler
  | .submit priority program => (s.submit priority program).2
  | .submitSource priority source => (s.submitSource priority source).2
  | .submitAll programs => (s.submitAll programs).2
  | .sweep => (s.sweep plan).2
  | .run => (s.run plan).2

/-- The state after some calls of a new scheduler. -/
def after (plan : Plan) (config : Config) (calls : List Call) : Scheduler :=
  calls.foldl (perform plan) (new config)

/-- One step of a scheduler. -/
inductive Step (plan : Plan) : Scheduler → Scheduler → Prop
  | note (s : Scheduler) (notice : Notice) : Step plan s (s.note notice)
  | remark (s : Scheduler) {event : Event} : event.isRemark = true → Step plan s (s.record event)
  | enroll {s : Scheduler} {id : TaskId} {registry : Registry} {priority : Int32}
    {program : Program} : s.registry.insert priority program = .ok (id, registry) →
    Step plan s ({ s with registry }.record (.taskAdmitted id priority program.size))
  | openSweep (s : Scheduler) : Step plan s s.openSweep
  | lose {s : Scheduler} {id : TaskId} {task begun : Task} {processor : Processor}
    {recorded : List Processor.Event} : s.registry.get? id = some task →
    task.isCompleted = false → task.begin? = some (processor, begun) →
    (plan s.registry.dispatches).carryOut begun.program processor = .lost recorded →
    Step plan s ((s.handOver processor begun).recordRun begun.id recorded)
  | join {s : Scheduler} {id : TaskId} {task begun : Task} {processor : Processor}
    {run : Processor.Run} {raised : Bool} : s.registry.get? id = some task →
    task.isCompleted = false → task.begin? = some (processor, begun) →
    (plan s.registry.dispatches).carryOut begun.program processor = .joined run raised →
    Step plan s ((s.handOver processor begun).close begun run raised)

/-- A sequence of steps. -/
abbrev Steps (plan : Plan) : Scheduler → Scheduler → Prop :=
  Relation.ReflTransGen (Step plan)

/-- One stride of a scheduler: a whole sweep, or a step outside of sweeps. -/
inductive Stride (plan : Plan) : Scheduler → Scheduler → Prop
  | note (s : Scheduler) (notice : Notice) : Stride plan s (s.note notice)
  | remark (s : Scheduler) {event : Event} : event.isRemark = true →
    Stride plan s (s.record event)
  | enroll {s : Scheduler} {id : TaskId} {registry : Registry} {priority : Int32}
    {program : Program} : s.registry.insert priority program = .ok (id, registry) →
    Stride plan s ({ s with registry }.record (.taskAdmitted id priority program.size))
  | sweep (s : Scheduler) : Stride plan s (s.sweep plan).2

/-- A sequence of strides. -/
abbrev Strides (plan : Plan) : Scheduler → Scheduler → Prop :=
  Relation.ReflTransGen (Stride plan)

variable {plan : Plan}

/-! ## Admissions -/

theorem strides_submit (s : Scheduler) (priority : Int32) (program : Program) :
    Strides plan s (s.submit priority program).2 := by
  unfold submit
  split
  · rename_i task registry inserted
    have admitted : Strides plan s
        ((({ s with registry }).note (.taskRegistered task priority)).record
          (.taskAdmitted task priority program.size)) := by
      refine .tail (.single (.note s (.taskRegistered task priority))) ?_
      exact .enroll (s := s.note (.taskRegistered task priority)) inserted
    simp only [recordAdmission]
    split
    · exact admitted
    · exact .tail admitted (.note _ _)
  · exact .single (.remark s rfl)

theorem strides_submitEach (programs : List (Int32 × Program)) (s : Scheduler) :
    Strides plan s (submitEach programs s).2 := by
  induction programs generalizing s with
  | nil => exact .refl
  | cons head rest ih =>
    rcases head with ⟨priority, program⟩
    have first : Strides plan s (s.submit priority program).2 := strides_submit s priority program
    simp only [submitEach]
    split
    · rename_i task next admitted
      rw [admitted] at first
      exact first.trans (ih next)
    · rename_i error next refused
      rw [refused] at first
      exact first.trans (ih next)

theorem strides_submitAll (s : Scheduler) (programs : List (Int32 × Program)) :
    Strides plan s (s.submitAll programs).2 := by
  have each : Strides plan s (submitEach programs s).2 := strides_submitEach programs s
  unfold submitAll
  simp only
  split
  · exact each
  · exact .tail each (.note _ _)

theorem strides_submitSource (s : Scheduler) (priority : Int32) (source : String) :
    Strides plan s (s.submitSource priority source).2 := by
  unfold submitSource
  split
  · exact .refl
  · exact strides_submit s priority _

/-! ## Runs -/

section Runs

variable {s s' : Scheduler} {sweeps : Nat}

/-- Where a sweep fails, so do the sweeps of a run. -/
theorem sweepUntilDone_of_error {error : SchedulerError} (left : s.registry.incompleteCount ≠ 0)
    (free : usedUp s.config.maxSweeps sweeps = none) (failed : s.sweep plan = (.error error, s')) :
    sweepUntilDone plan sweeps s = (.error error, s') := by
  rw [sweepUntilDone, if_neg left, free]
  dsimp only
  split
  · rename_i other next made
    obtain ⟨same, rfl⟩ := Prod.mk.inj (made.symm.trans failed)
    rw [Except.error.inj same]
  · rename_i exits next made
    cases (Prod.mk.inj (made.symm.trans failed)).1

/-- Where a sweep succeeds, a run that is not finished goes on. -/
theorem sweepUntilDone_of_ok {exits : List (TaskId × Exit)}
    (left : s.registry.incompleteCount ≠ 0) (free : usedUp s.config.maxSweeps sweeps = none)
    (swept : s.sweep plan = (.ok exits, s')) :
    sweepUntilDone plan sweeps s = sweepUntilDone plan (sweeps + 1) s' := by
  rw [sweepUntilDone, if_neg left, free]
  dsimp only
  split
  · rename_i error next made
    cases (Prod.mk.inj (made.symm.trans swept)).1
  · rename_i exits' next made
    obtain ⟨_, rfl⟩ := Prod.mk.inj (made.symm.trans swept)
    rfl

end Runs

theorem strides_sweepUntilDone (sweeps : Nat) (s : Scheduler) :
    Strides plan s (sweepUntilDone plan sweeps s).2 := by
  fun_induction sweepUntilDone plan sweeps s with
  | case1 => exact .refl
  | case2 => exact .single (.note _ _)
  | case3 sweeps s _ _ error next made =>
    have swept : Stride plan s (s.sweep plan).2 := .sweep s
    rw [made] at swept
    exact .single swept
  | case4 sweeps s _ _ exits next made ih =>
    have swept : Stride plan s (s.sweep plan).2 := .sweep s
    rw [made] at swept
    exact .head swept ih

theorem strides_run (s : Scheduler) : Strides plan s (s.run plan).2 := by
  have started : Strides plan s
      (s.record (.schedulerStarted s.registry.size s.config.timeSlice.micros)) :=
    .single (.remark s rfl)
  have swept := started.trans (strides_sweepUntilDone 0 _)
  unfold run
  simp only
  split
  · rename_i error last failed
    rw [failed] at swept
    exact swept
  · rename_i sweeps last done
    rw [done] at swept
    exact swept.tail (.remark _ rfl)

/-! ## Calls -/

theorem strides_perform (s : Scheduler) (call : Call) : Strides plan s (s.perform plan call) := by
  cases call with
  | submit priority program => exact strides_submit s priority program
  | submitSource priority source => exact strides_submitSource s priority source
  | submitAll programs => exact strides_submitAll s programs
  | sweep => exact .single (.sweep s)
  | run => exact strides_run s

theorem strides_calls (s : Scheduler) (calls : List Call) :
    Strides plan s (calls.foldl (perform plan) s) := by
  induction calls generalizing s with
  | nil => exact .refl
  | cons call rest ih => exact (strides_perform s call).trans (ih _)

/-- Every state between calls is reached by strides. -/
theorem strides_after (plan : Plan) (config : Config) (calls : List Call) :
    Strides plan (new config) (after plan config calls) :=
  strides_calls (new config) calls

/-! ## Sweeps as steps -/

theorem steps_dispatch {id : TaskId} {s s' : Scheduler} {result : Except SchedulerError Exit}
    (runnable : id ∈ s.registry.runnable)
    (h : dispatch (plan s.registry.dispatches) id s = (result, s')) : Steps plan s s' := by
  obtain ⟨task, found, incomplete⟩ := Registry.mem_runnable_iff.1 runnable
  rcases dispatch_cases h with
    ⟨_, rfl, _⟩ | ⟨other, processor, begun, found', began, ends⟩
  · exact .refl
  · obtain rfl := Option.some.inj (found.symm.trans found')
    rcases ends with ⟨recorded, lost, _, rfl⟩ | ⟨run, raised, joined, _, rfl⟩
    · exact .single (.lose found incomplete began lost)
    · exact .single (.join found incomplete began joined)

/-- A dispatch that succeeds leaves the other tasks alone. -/
theorem get?_dispatch_of_ne {interruption : Interruption} {id other : TaskId} {s s' : Scheduler}
    {exit : Exit} (h : dispatch interruption id s = (.ok exit, s')) (ne : id ≠ other) :
    s'.registry.get? other = s.registry.get? other := by
  obtain ⟨old, new, _, rfl, registry, _⟩ := registry_dispatch h
  rw [registry, Registry.get?_set_of_ne ne]

/-- After a dispatch that succeeds the others of a list can still be dispatched. -/
theorem runnable_of_dispatch {interruption : Interruption} {id : TaskId} {rest : List TaskId}
    {s s' : Scheduler} {exit : Exit} (distinct : (id :: rest).Nodup)
    (runnable : ∀ other ∈ id :: rest, other ∈ s.registry.runnable)
    (h : dispatch interruption id s = (.ok exit, s')) :
    ∀ other ∈ rest, other ∈ s'.registry.runnable := by
  intro other mem
  have ne : id ≠ other := by
    rintro rfl
    exact (List.nodup_cons.1 distinct).1 mem
  rw [Registry.mem_runnable_iff, get?_dispatch_of_ne h ne, ← Registry.mem_runnable_iff]
  exact runnable other (List.mem_cons_of_mem _ mem)

theorem steps_dispatchEach {ids : List TaskId} {s s' : Scheduler}
    {result : Except SchedulerError (List (TaskId × Exit))} (distinct : ids.Nodup)
    (runnable : ∀ id ∈ ids, id ∈ s.registry.runnable)
    (h : dispatchEach plan ids s = (result, s')) : Steps plan s s' := by
  induction ids generalizing s result with
  | nil =>
    obtain ⟨_, rfl⟩ := Prod.mk.inj h
    exact .refl
  | cons id rest ih =>
    have here := runnable id List.mem_cons_self
    rcases dispatchEach_cons h with ⟨_, failed, _⟩ | ⟨exit, next, others, dispatched, rest_done, _⟩
    · exact steps_dispatch here failed
    · have later := runnable_of_dispatch distinct runnable dispatched
      exact (steps_dispatch here dispatched).trans
        (ih (List.nodup_cons.1 distinct).2 later rest_done)

theorem steps_sweep (s : Scheduler) : Steps plan s (s.sweep plan).2 := by
  unfold sweep
  split
  · exact .refl
  · rename_i id rest runnable
    refine .head (.openSweep s) (steps_dispatchEach ?_ ?_ rfl)
    · rw [← runnable]
      exact s.registry.nodup_runnable
    · rw [← runnable]
      exact fun _ mem => mem

/-! ## Strides as steps -/

theorem Stride.steps {s s' : Scheduler} (stride : Stride plan s s') : Steps plan s s' := by
  cases stride with
  | note notice => exact .single (.note s notice)
  | remark remark => exact .single (.remark s remark)
  | enroll inserted => exact .single (.enroll inserted)
  | sweep => exact steps_sweep s

theorem Strides.steps {s s' : Scheduler} (strides : Strides plan s s') : Steps plan s s' := by
  induction strides with
  | refl => exact .refl
  | tail _ stride ih => exact ih.trans stride.steps

theorem steps_sweepUntilDone (sweeps : Nat) (s : Scheduler) :
    Steps plan s (sweepUntilDone plan sweeps s).2 :=
  Strides.steps (strides_sweepUntilDone sweeps s)

/-- Every state between calls is reached by steps. -/
theorem steps_after (plan : Plan) (config : Config) (calls : List Call) :
    Steps plan (new config) (after plan config calls) :=
  Strides.steps (strides_after plan config calls)

/-- Further calls are further steps. -/
theorem steps_after_append (plan : Plan) (config : Config) (calls more : List Call) :
    Steps plan (after plan config calls) (after plan config (calls ++ more)) := by
  rw [after, after, List.foldl_append]
  exact Strides.steps (strides_calls _ more)

/-! ## The configuration -/

/-- No step changes the configuration. -/
theorem Step.config {s s' : Scheduler} (step : Step plan s s') : s'.config = s.config := by
  cases step with
  | note _ => rfl
  | remark _ => rfl
  | enroll _ => rfl
  | openSweep => rfl
  | lose _ _ _ _ => rfl
  | join _ _ _ _ => exact config_close _ _ _ _

theorem Steps.config {s s' : Scheduler} (steps : Steps plan s s') : s'.config = s.config := by
  induction steps with
  | refl => rfl
  | tail _ step ih => rw [step.config, ih]

theorem config_sweep (plan : Plan) (s : Scheduler) : (s.sweep plan).2.config = s.config :=
  Steps.config (steps_sweep s)

/-! ## Programs and lives -/

/-- A program that pushes a word and pops it into another register. -/
def pushPop : Program :=
  ⟨[.load ⟨0, by decide⟩ 7, .push ⟨0, by decide⟩, .pop ⟨1, by decide⟩, .halt]⟩

/-- A program that pushes a word and has no `HALT`. -/
def endPush : Program :=
  ⟨[.load ⟨0, by decide⟩ 7, .push ⟨0, by decide⟩]⟩

/-- A program of one instruction, which has no `HALT`. -/
def loadOnly : Program :=
  ⟨[.load ⟨0, by decide⟩ 1]⟩

/-- Slices of two instructions; the second context breaks down after one. -/
def lossyPlan : Plan := fun number =>
  if number = 1 then .breakdown 1 0 else .expiry 2

/-- Two tasks and two sweeps. -/
def lossyCalls : List Call :=
  [.submit 1 pushPop, .submit 9 pushPop, .sweep, .sweep]

/-- Slices of two instructions. -/
def calmPlan : Plan := fun _ => .expiry 2

/-- A task that has been dispatched once, and one that has not. -/
def calmCalls : List Call :=
  [.submit 1 pushPop, .sweep, .submit 9 pushPop]

end Scheduler

end TimeShare
