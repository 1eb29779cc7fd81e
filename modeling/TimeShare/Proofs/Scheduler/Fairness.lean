import Mathlib.Data.List.TakeWhile
import TimeShare.Proofs.Scheduler.Chronicle
import TimeShare.Proofs.Scheduler.Termination

/-!
# Round robin

A sweep lists the incomplete tasks before it dispatches them, and tasks are
completed while it goes on; admissions come between sweeps, also between those
of a run that was stopped. `round_robin` says that every sweep is a round over
the tasks incomplete at its beginning, and that the rounds are fair.

* `Round`: the sweep dispatches these tasks, in the order of their identifiers,
  and no other. `round_of_sweep`: every sweep that succeeds is one.
* `Fair`: without a breakdown an incomplete task was dispatched in every sweep
  since its admission, and a completed one in no more. `Stride.fair`: every
  stride keeps this.
-/

namespace TimeShare

/-- Whether an event admits a task. -/
def Event.admits (id : TaskId) : Event → Bool
  | taskAdmitted task _ _ => task = id
  | _ => false

namespace Scheduler

/-- How many sweeps the trace tells of before it admits a task. -/
def sweepsBefore (id : TaskId) (trace : List Event) : Nat :=
  told .sweep (trace.takeWhile fun event => !event.admits id)

/-- How many sweeps the trace tells of after it has admitted a task. -/
def sweepsSince (id : TaskId) (trace : List Event) : Nat :=
  told .sweep (trace.dropWhile fun event => !event.admits id)

variable {plan : Plan} {s s' : Scheduler}

/-! ## Rounds -/

/-- What a sweep does that succeeds with some exits. -/
structure Round (s : Scheduler) (exits : List (TaskId × Exit)) (s' : Scheduler) : Prop where
  /-- The tasks are those that were incomplete. -/
  incomplete : ∀ id, id ∈ exits.map Prod.fst ↔
    ∃ task, s.registry.get? id = some task ∧ task.isCompleted = false
  ascending : (exits.map Prod.fst).Pairwise (· < ·)
  /-- They are dispatched in this order, each once, and nothing else is. -/
  dispatched : ∃ more, s'.dispatchLog = s.dispatchLog ++ more ∧
    more.map Dispatch.task = exits.map Prod.fst
  lastExit : ∀ entry ∈ exits, ∃ task, s'.registry.get? entry.1 = some task ∧
    task.lastExit = some entry.2
  completed : ∀ id task, s.registry.get? id = some task → task.isCompleted = true →
    s'.registry.get? id = some task

/-- A task that was dispatched has the exit of its dispatch. -/
theorem lastExit_dispatch {interruption : Interruption} {id : TaskId} {exit : Exit}
    (h : dispatch interruption id s = (.ok exit, s')) :
    ∃ task, s'.registry.get? id = some task ∧ task.lastExit = some exit := by
  obtain ⟨_, processor, begun, run, raised, found, began, _, rfl, rfl⟩ := dispatch_ok h
  obtain rfl := Registry.id_of_begin found began
  refine ⟨begun.finish run.processor run.report.exit raised, ?_, rfl⟩
  rw [registry_join]
  exact Registry.get?_set_self found

/-- Dispatching some tasks gives them their exits and leaves the others alone. -/
theorem exits_dispatchEach {ids : List TaskId} {exits : List (TaskId × Exit)}
    (distinct : ids.Nodup) (h : dispatchEach plan ids s = (.ok exits, s')) :
    exits.map Prod.fst = ids ∧
      (∀ entry ∈ exits, ∃ task, s'.registry.get? entry.1 = some task ∧
        task.lastExit = some entry.2) ∧
      ∀ id, id ∉ ids → s'.registry.get? id = s.registry.get? id := by
  induction ids generalizing s exits with
  | nil =>
    obtain ⟨ok, rfl⟩ := Prod.mk.inj h
    obtain rfl := Except.ok.inj ok
    exact ⟨rfl, nofun, fun _ _ => rfl⟩
  | cons id rest ih =>
    obtain ⟨once, distinct_rest⟩ := List.nodup_cons.1 distinct
    rcases dispatchEach_cons h with ⟨_, _, failed⟩ | ⟨exit, next, result, dispatched, rest_done, ok⟩
    · cases failed
    · cases result with
      | error _ => cases ok
      | ok others =>
        obtain rfl := Except.ok.inj ok
        obtain ⟨ids, lasts, alone⟩ := ih distinct_rest rest_done
        refine ⟨?_, ?_, ?_⟩
        · rw [List.map_cons, ids]
        · intro entry mem
          rcases List.mem_cons.1 mem with rfl | later
          · rw [alone id once]
            exact lastExit_dispatch dispatched
          · exact lasts entry later
        · intro other never
          have ne : id ≠ other := Ne.symm (List.ne_of_not_mem_cons never)
          rw [alone other (List.not_mem_of_not_mem_cons never), get?_dispatch_of_ne dispatched ne]

/-- Every sweep that succeeds is a round. -/
theorem round_of_sweep {exits : List (TaskId × Exit)} (h : s.sweep plan = (.ok exits, s')) :
    Round s exits s' := by
  have swept : exits.map Prod.fst = s.registry.runnable ∧
      (∀ entry ∈ exits, ∃ task, s'.registry.get? entry.1 = some task ∧
        task.lastExit = some entry.2) ∧
      ∀ id, id ∉ s.registry.runnable → s'.registry.get? id = s.registry.get? id := by
    rcases Nat.eq_zero_or_pos s.registry.incompleteCount with finished | left
    · have none_left : s.registry.runnable = [] := by
        rwa [← Registry.length_runnable, List.length_eq_zero_iff] at finished
      rw [sweep_of_finished plan finished] at h
      obtain ⟨ok, rfl⟩ := Prod.mk.inj h
      obtain rfl := Except.ok.inj ok
      exact ⟨none_left.symm, nofun, fun _ _ => rfl⟩
    · rw [sweep_of_unfinished plan (Nat.pos_iff_ne_zero.1 left)] at h
      have each := exits_dispatchEach s.registry.nodup_runnable h
      rwa [registry_openSweep] at each
  obtain ⟨ids, lasts, alone⟩ := swept
  obtain ⟨more, tasks, log⟩ := dispatchLog_sweep h
  refine ⟨?_, ?_, ⟨more, log, tasks.trans ids.symm⟩, lasts, ?_⟩
  · intro id
    rw [ids, Registry.mem_runnable_iff]
  · rw [ids]
    exact s.registry.pairwise_runnable
  · intro id task found completed
    rw [alone id ?_, found]
    intro runnable
    obtain ⟨other, found_other, incomplete⟩ := Registry.mem_runnable_iff.1 runnable
    obtain rfl := Option.some.inj (found.symm.trans found_other)
    rw [completed] at incomplete
    cases incomplete

/-! ## Admissions -/

/-- The trace admits the tasks that there are. -/
def Enrolled (s : Scheduler) : Prop :=
  ∀ id : TaskId, (∃ event ∈ s.trace, event.admits id = true) ↔ id.toNat < s.registry.size

theorem enrolled_new (config : Config) : (new config).Enrolled := by
  intro id
  refine iff_of_false ?_ (Nat.not_lt_zero id.toNat)
  rintro ⟨event, mem, _⟩
  cases mem

/-- What admits no task and adds none keeps the trace in line with the registry. -/
theorem Enrolled.of_append {more : List Event} (enrolled : s.Enrolled)
    (size : s'.registry.size = s.registry.size) (trace : s'.trace = s.trace ++ more)
    (quiet : ∀ event ∈ more, ∀ id, event.admits id = false) : s'.Enrolled := by
  intro id
  rw [size, ← enrolled id, trace]
  constructor
  · rintro ⟨event, mem, admits⟩
    rcases List.mem_append.1 mem with earlier | later
    · exact ⟨event, earlier, admits⟩
    · rw [quiet event later id] at admits
      cases admits
  · rintro ⟨event, mem, admits⟩
    exact ⟨event, List.mem_append_left _ mem, admits⟩

/-- What a context records admits no task. -/
theorem admits_of_mem_map_ran {task : TaskId} {events : List Processor.Event} {event : Event}
    (mem : event ∈ events.map (.ran task)) (id : TaskId) : event.admits id = false := by
  obtain ⟨_, _, rfl⟩ := List.mem_map.1 mem
  rfl

theorem admits_closing (task : TaskId) (run : Processor.Run) (id : TaskId) :
    (closing task run).admits id = false := by
  unfold closing
  split <;> rfl

theorem enrolled_lose (enrolled : s.Enrolled) (processor : Processor) (task : Task)
    (recorded : List Processor.Event) :
    ((s.handOver processor task).recordRun task.id recorded).Enrolled := by
  have given : (s.handOver processor task).Enrolled := by
    refine enrolled.of_append (Registry.size_set _ _) (trace_handOver s processor task) ?_
    intro event mem id
    rw [List.mem_singleton.1 mem]
    rfl
  exact given.of_append rfl (trace_recordRun _ _ _) fun event mem => admits_of_mem_map_ran mem

theorem Step.enrolled (step : Step plan s s') (enrolled : s.Enrolled) : s'.Enrolled := by
  cases step with
  | note notice =>
    intro id
    rw [trace_note]
    exact enrolled id
  | @remark event remark =>
    refine enrolled.of_append rfl (trace_record s event) ?_
    intro other mem id
    obtain rfl := List.mem_singleton.1 mem
    cases other <;> first | rfl | cases remark
  | @enroll new registry priority program inserted =>
    intro id
    -- The identifiers below the new size are those below the old one, and the new one.
    have place := (Registry.insert_eq_ok inserted).1
    rw [registry_record, Registry.size_insert inserted, Nat.lt_succ_iff_lt_or_eq, ← enrolled id,
      ← place, UInt32.toNat_inj, trace_record]
    simp only [List.mem_append, List.mem_singleton, or_and_right, exists_or, exists_eq_left]
    rw [Event.admits, decide_eq_true_iff, eq_comm]
    rfl
  | openSweep =>
    refine enrolled.of_append rfl (trace_openSweep s) ?_
    intro event mem id
    rw [List.mem_singleton.1 mem]
    rfl
  | @lose _ _ begun processor recorded _ _ _ _ =>
    exact enrolled_lose enrolled processor begun recorded
  | @join _ _ begun processor run raised _ _ _ _ =>
    have size : ((s.handOver processor begun).close begun run raised).registry.size =
        ((s.handOver processor begun).recordRun begun.id run.events).registry.size := by
      rw [registry_close, Registry.size_set, registry_recordRun]
    refine (enrolled_lose enrolled processor begun run.events).of_append size
      (trace_close_eq _ begun run raised) ?_
    intro event mem id
    rw [List.mem_singleton.1 mem]
    exact admits_closing begun.id run id

/-! ## Sweeps since an admission -/

section Since

variable {id : TaskId} {trace : List Event}

theorem sweepsBefore_add_sweepsSince (id : TaskId) (trace : List Event) :
    sweepsBefore id trace + sweepsSince id trace = told .sweep trace := by
  rw [sweepsBefore, sweepsSince, ← told_append, List.takeWhile_append_dropWhile]

/-- Once a task is admitted, further sweeps are sweeps since then. -/
theorem sweepsSince_append (more : List Event)
    (admitted : ∃ event ∈ trace, event.admits id = true) :
    sweepsSince id (trace ++ more) = sweepsSince id trace + told .sweep more := by
  have reached : ¬ (trace.dropWhile fun event => !event.admits id).isEmpty = true := by
    rw [List.isEmpty_iff, List.dropWhile_eq_nil_iff]
    obtain ⟨event, mem, admits⟩ := admitted
    intro never
    simpa [admits] using never event mem
  rw [sweepsSince, List.dropWhile_append, if_neg reached, told_append, sweepsSince]

/-- No sweep follows an admission at the end. -/
theorem sweepsSince_admission {priority : Int32} {instructions : Nat}
    (never : ¬ ∃ event ∈ trace, event.admits id = true) :
    sweepsSince id (trace ++ [.taskAdmitted id priority instructions]) = 0 := by
  have nothing : trace.dropWhile (fun event => !event.admits id) = [] := by
    rw [List.dropWhile_eq_nil_iff]
    intro event mem
    simpa using fun admits => never ⟨event, mem, admits⟩
  rw [sweepsSince, List.dropWhile_append, nothing, List.isEmpty_nil, if_pos rfl]
  simp [List.dropWhile, Event.admits, Event.kind]

end Since

/-! ## The pace of the tasks -/

/-- A task is dispatched at most once a sweep since its admission, and while it is incomplete in
every sweep. -/
def Paced (s : Scheduler) : Prop :=
  ∀ id task, s.registry.get? id = some task → task.dispatches ≤ sweepsSince id s.trace ∧
    (task.isCompleted = false → task.dispatches = sweepsSince id s.trace)

theorem Enrolled.admitted {id : TaskId} {task : Task} (enrolled : s.Enrolled)
    (found : s.registry.get? id = some task) : ∃ event ∈ s.trace, event.admits id = true :=
  (enrolled id).2 (Array.getElem?_eq_some_iff.1 found).1

/-- What changes no task and tells of no sweep keeps the pace. -/
theorem Paced.of_quiet {more : List Event} (paced : s.Paced) (enrolled : s.Enrolled)
    (registry : s'.registry = s.registry) (trace : s'.trace = s.trace ++ more)
    (quiet : told .sweep more = 0) : s'.Paced := by
  intro id task found
  rw [registry] at found
  rw [trace, sweepsSince_append more (enrolled.admitted found), quiet, Nat.add_zero]
  exact paced id task found

/-- A task begins with no dispatch and no sweep, and lets the others keep their pace. -/
theorem paced_enroll {new : TaskId} {registry : Registry} {priority : Int32} {program : Program}
    (paced : s.Paced) (enrolled : s.Enrolled)
    (inserted : s.registry.insert priority program = .ok (new, registry)) :
    ({ s with registry }.record (.taskAdmitted new priority program.size)).Paced := by
  intro id task found
  have trace : ({ s with registry }.record (.taskAdmitted new priority program.size)).trace =
      s.trace ++ [.taskAdmitted new priority program.size] := trace_record _ _
  rw [trace]
  rcases Registry.get?_insert_split inserted found with earlier | ⟨unknown, rfl⟩
  · rw [sweepsSince_append _ (enrolled.admitted earlier)]
    exact paced id task earlier
  · have never : ¬ ∃ event ∈ s.trace, event.admits id = true := by
      rw [enrolled id]
      exact fun inside => (Array.getElem?_eq_none_iff.1 unknown).not_gt inside
    rw [← Registry.id_of_get? found] at never ⊢
    have none_since : sweepsSince new
        (s.trace ++ [.taskAdmitted new priority program.size]) = 0 :=
      sweepsSince_admission never
    exact ⟨Nat.zero_le _, fun _ => none_since.symm⟩

/-- A sweep without a breakdown dispatches every incomplete task once. -/
theorem paced_sweep {made : Sweep} {exits : List (TaskId × Exit)} (paced : s.Paced)
    (enrolled : s.Enrolled) (coherent : s.Coherent) (before : s.Recorded) (after : s'.Recorded)
    (h : s.sweep plan = (.ok exits, s')) (trace : s'.trace = s.trace ++ made.events) :
    s'.Paced := by
  intro id task' found'
  obtain ⟨more, tasks, log⟩ := dispatchLog_sweep h
  have inside : id.toNat < s.registry.tasks.size := by
    rw [← Registry.size, ← size_sweep h]
    exact (Array.getElem?_eq_some_iff.1 found').1
  obtain ⟨task, found⟩ : ∃ task, s.registry.get? id = some task :=
    ⟨_, Array.getElem?_eq_getElem inside⟩
  obtain ⟨at_most, exactly⟩ := paced id task found
  have dispatches : task'.dispatches = task.dispatches + s.registry.runnable.count id := by
    rw [after id task' found', log, dispatchesOf_append, ← before id task found, dispatchesOf,
      tasks]
  have once : s.registry.runnable.count id ≤ 1 :=
    List.nodup_iff_count_le_one.1 s.registry.nodup_runnable id
  rw [trace, sweepsSince_append _ (enrolled.admitted found), told_sweep_events, dispatches]
  refine ⟨Nat.add_le_add at_most once, fun incomplete' => ?_⟩
  -- What is incomplete after the sweep was so before, and was dispatched.
  have runnable : id ∈ s.registry.runnable :=
    runnable_of_sweep coherent h (Registry.mem_runnable_iff.2 ⟨_, found', incomplete'⟩)
  obtain ⟨same, found_same, incomplete⟩ := Registry.mem_runnable_iff.1 runnable
  obtain rfl := Option.some.inj (found_same.symm.trans found)
  rw [exactly incomplete, List.count_eq_one_of_mem s.registry.nodup_runnable runnable]

/-- Every stride of a life without a breakdown keeps the pace. -/
theorem Stride.paced {config : Config} (earlier : Strides plan (new config) s)
    (stride : Stride plan s s') (paced : s.Paced) (unbroken : s'.Unbroken plan) : s'.Paced := by
  have enrolled : s.Enrolled :=
    earlier.holds (fun step _ => step.enrolled) (enrolled_new config)
  cases stride with
  | note notice =>
    exact paced.of_quiet enrolled rfl (by rw [trace_note, List.append_nil]) (told_nil .sweep)
  | remark remark =>
    refine paced.of_quiet enrolled rfl (trace_record s _) ?_
    rw [told_cons, kind_of_isRemark remark]
    rfl
  | enroll inserted => exact paced_enroll paced enrolled inserted
  | sweep =>
    rcases Nat.eq_zero_or_pos s.registry.incompleteCount with finished | left
    · rwa [sweep_of_finished plan finished]
    -- Without a breakdown the sweep succeeds, and its part of the trace is that of one sweep.
    · have ordered := (Strides.steps earlier).inOrder (inOrder_new plan config)
      have lost := earlier.holds Step.lostOnlyByContext (lostOnlyByContext_new plan config)
      have recorded := earlier.holds Step.recorded (recorded_new config)
      have recorded' := Strides.holds Step.recorded (recorded_new config)
        (earlier.tail (.sweep s))
      obtain ⟨passages, chronicle⟩ := earlier.chronicled
      obtain ⟨made, trace⟩ := trace_sweep chronicle ordered (Nat.pos_iff_ne_zero.1 left)
      obtain ⟨exits, ok⟩ := sweep_succeeds ordered.coherent lost rfl unbroken
      have swept : s.sweep plan = (.ok exits, (s.sweep plan).2) := Prod.ext ok rfl
      exact paced_sweep paced enrolled ordered.coherent recorded recorded' swept trace

theorem Strides.paced {config : Config} (strides : Strides plan (new config) s)
    (unbroken : s.Unbroken plan) : s.Paced := by
  induction strides with
  | refl =>
    intro id task found
    cases found
  | tail earlier stride ih =>
    have coherent := Steps.coherent (Strides.steps earlier) (coherent_new config)
    exact stride.paced earlier (ih (unbroken.of_steps stride.steps coherent)) unbroken

/-! ## Between calls -/

/-- What the tasks' dispatches have to do with the sweeps since their admission. -/
structure Fair (s : Scheduler) : Prop where
  admitted : ∀ id task, s.registry.get? id = some task →
    ∃ event ∈ s.trace, event.admits id = true
  incomplete : ∀ id task, s.registry.get? id = some task → task.isCompleted = false →
    task.dispatches = sweepsSince id s.trace
  completed : ∀ id task, s.registry.get? id = some task → task.isCompleted = true →
    task.dispatches ≤ sweepsSince id s.trace
  /-- Incomplete tasks that were admitted between the same sweeps have the same dispatches. -/
  together : ∀ id other task fellow, s.registry.get? id = some task →
    s.registry.get? other = some fellow → task.isCompleted = false →
    fellow.isCompleted = false → sweepsBefore id s.trace = sweepsBefore other s.trace →
    task.dispatches = fellow.dispatches

theorem Paced.fair (paced : s.Paced) (enrolled : s.Enrolled) : s.Fair where
  admitted := fun _ _ found => enrolled.admitted found
  incomplete := fun id task found => (paced id task found).2
  completed := fun id task found _ => (paced id task found).1
  together := by
    intro id other task fellow found found' incomplete incomplete' same
    have whole := sweepsBefore_add_sweepsSince id s.trace
    have whole' := sweepsBefore_add_sweepsSince other s.trace
    rw [(paced id task found).2 incomplete, (paced other fellow found').2 incomplete']
    omega

/-- A sweep with an incomplete task counts one sweep more. -/
theorem sweeps_sweep (coherent : s.Coherent) (counted : s.Counted plan)
    {made : Sweep} (trace : (s.sweep plan).2.trace = s.trace ++ made.events) :
    (s.sweep plan).2.statistics.sweeps = s.statistics.sweeps + 1 := by
  have counted' : (s.sweep plan).2.Counted plan :=
    (steps_sweep s).keep Step.counted coherent counted
  have shows : s.statistics.sweeps = UInt64.ofNat (told .sweep s.trace) := counted .sweeps
  have shows' : (s.sweep plan).2.statistics.sweeps =
      UInt64.ofNat (told .sweep (s.sweep plan).2.trace) := counted' .sweeps
  rw [shows', trace, told_append, told_sweep_events, UInt64.ofNat_add, shows]
  rfl

/-- Every sweep that succeeds is a round over the incomplete tasks. Without an incomplete task a
sweep gives no exit, records nothing and counts nothing; with one it gives some exit if it succeeds,
records its beginning and counts one sweep. A life without a breakdown is fair to its tasks. -/
theorem round_robin (plan : Plan) (config : Config) (calls : List Call) :
    (∀ exits s', (after plan config calls).sweep plan = (.ok exits, s') →
      Round (after plan config calls) exits s') ∧
    ((after plan config calls).isFinished = true →
      (after plan config calls).sweep plan = (.ok [], after plan config calls)) ∧
    ((after plan config calls).isFinished = false →
      ((after plan config calls).sweep plan).1 ≠ .ok [] ∧
      (∃ made : Sweep, ((after plan config calls).sweep plan).2.trace =
        (after plan config calls).trace ++ made.events) ∧
      ((after plan config calls).sweep plan).2.statistics.sweeps =
        (after plan config calls).statistics.sweeps + 1) ∧
    ((after plan config calls).Unbroken plan → (after plan config calls).Fair) := by
  have strides := strides_after plan config calls
  have ordered := (steps_after plan config calls).inOrder (inOrder_new plan config)
  obtain ⟨passages, chronicle⟩ := strides.chronicled
  refine ⟨fun _ _ => round_of_sweep, ?_, ?_, ?_⟩
  · intro finished
    exact sweep_of_finished plan (of_decide_eq_true finished)
  · intro unfinished
    have left : (after plan config calls).registry.incompleteCount ≠ 0 :=
      of_decide_eq_false unfinished
    obtain ⟨made, trace⟩ := trace_sweep chronicle ordered left
    refine ⟨?_, ⟨made, trace⟩, sweeps_sweep ordered.coherent ordered.counted trace⟩
    intro none_dispatched
    have round : Round (after plan config calls) [] _ :=
      round_of_sweep (Prod.ext none_dispatched rfl)
    rw [← Registry.length_runnable, Ne, List.length_eq_zero_iff] at left
    obtain ⟨id, mem⟩ := List.exists_mem_of_ne_nil _ left
    cases (round.incomplete id).2 (Registry.mem_runnable_iff.1 mem)
  · intro unbroken
    have enrolled := strides.holds (fun step _ => step.enrolled) (enrolled_new config)
    exact (strides.paced unbroken).fair enrolled

/-- A calm life goes on with a round over two tasks of which the first was admitted one sweep before
the second. -/
theorem round_robin_calm :
    (∃ s', (after calmPlan .standard calmCalls).sweep calmPlan =
        (.ok [(0, .halted), (1, .preempted)], s') ∧
      Round (after calmPlan .standard calmCalls) [(0, .halted), (1, .preempted)] s') ∧
    (after calmPlan .standard (calmCalls ++ [.sweep])).Fair ∧
    (after calmPlan .standard (calmCalls ++ [.sweep])).registry.tasks.toList.map
        (fun task => task.dispatches) = [2, 1] := by
  refine ⟨?_, ?_, by decide +kernel⟩
  · have ok : ((after calmPlan .standard calmCalls).sweep calmPlan).1 =
        .ok [(0, .halted), (1, .preempted)] := by
      decide +kernel
    obtain ⟨s', swept⟩ : ∃ s', (after calmPlan .standard calmCalls).sweep calmPlan =
        (.ok [(0, .halted), (1, .preempted)], s') := by
      rw [← ok]
      exact ⟨_, rfl⟩
    obtain ⟨rounds, _⟩ := round_robin calmPlan .standard calmCalls
    have round := rounds _ s' swept
    exact ⟨s', swept, round⟩
  · obtain ⟨_, _, _, fair⟩ := round_robin calmPlan .standard (calmCalls ++ [.sweep])
    exact fair (unbroken_calmPlan _)

end Scheduler

end TimeShare
