import TimeShare.Proofs.Scheduler.Accounts

/-!
# Statistics, tasks and trace

The fields of the tasks change at other moments of a dispatch than the counters
do. Still the statistics, the tasks and the trace say the same between calls.

* `Balanced`: what the tasks have to do with the trace. `Step.balanced`: every
  step keeps it.
* `books_agree`: between calls all three agree, as long as no count outgrows its
  counter.
-/

namespace TimeShare

/-- Whether a context has the task. -/
def Task.isDispatched (task : Task) : Bool :=
  task.phase = .dispatched

/-- The position of a task; a task without its processor state is at none. -/
def Task.pc (task : Task) : Nat :=
  task.processor.elim 0 Processor.pc

namespace Scheduler

open Processor (executedIn faultsIn)

variable {plan : Plan} {s s' : Scheduler}

/-! ## The tasks -/

/-- What the tasks have to do with the trace. -/
structure Balanced (plan : Plan) (s : Scheduler) : Prop where
  size : s.registry.size = told .admission s.trace
  dispatches : s.registry.dispatches = told .dispatch s.trace
  completions : s.registry.count Task.isCompleted = told .completion s.trace
  /-- A dispatch was preempted, or completed its task, or a context still has the task. -/
  ends : told .dispatch s.trace =
    told .preemption s.trace + told .completion s.trace + s.registry.count Task.isDispatched
  /-- Without a breakdown every instruction that was executed moved some task on. -/
  positions : s.Unbroken plan →
    executedIn (joinedRecords (s.dispatches plan)) = s.registry.total Task.pc

theorem balanced_new (plan : Plan) (config : Config) : (new config).Balanced plan where
  size := rfl
  dispatches := rfl
  completions := rfl
  ends := rfl
  positions := fun _ => rfl

/-- A step that changes no task and tells of none keeps the balance. -/
theorem balanced_of_quiet (before : s.Balanced plan) (registry : s'.registry = s.registry)
    (dispatches : s'.dispatches plan = s.dispatches plan)
    (same : ∀ kind, kind ≠ .sweep → kind ≠ .other → told kind s'.trace = told kind s.trace) :
    s'.Balanced plan where
  size := by rw [registry, same .admission nofun nofun, before.size]
  dispatches := by rw [registry, same .dispatch nofun nofun, before.dispatches]
  completions := by rw [registry, same .completion nofun nofun, before.completions]
  ends := by
    rw [registry, same .dispatch nofun nofun, same .preemption nofun nofun,
      same .completion nofun nofun, before.ends]
  positions := by
    rw [Unbroken, registry, dispatches]
    exact before.positions

theorem told_concat_of_ne {kind : Event.Kind} {event : Event} (other : event.kind ≠ kind)
    (trace : List Event) : told kind (trace ++ [event]) = told kind trace := by
  rw [told_append, told_cons, if_neg other, told_nil, Nat.add_zero]

section Dispatch

variable {id : TaskId} {task begun : Task} {processor : Processor}

theorem count_set (registry : Registry) {old new : Task} (found : registry.get? id = some old)
    (evolves : old.Evolves new) (p : Task → Bool) :
    (registry.set new).count p + (p old).toNat = registry.count p + (p new).toNat := by
  rw [Registry.count_eq_total, Registry.count_eq_total]
  exact total_set found evolves _

/-- A task that waits for its dispatch is with no context. -/
theorem isDispatched_eq_false (coherent : s.Coherent) (found : s.registry.get? id = some task)
    (incomplete : task.isCompleted = false) (held : task.processor = some processor) :
    task.isDispatched = false := by
  have sound := coherent.sound _ _ found
  rcases (sound.waiting incomplete held).1 with phase | phase
  · rw [Task.isDispatched, phase]
    rfl
  · rw [Task.isDispatched, phase]
    rfl

theorem isDispatched_finish (task : Task) (left : Processor) (exit : Exit) (raised : Bool) :
    (task.finish left exit raised).isDispatched = false := by
  cases exit <;> rfl

theorem isCompleted_finish (task : Task) (left : Processor) (exit : Exit) (raised : Bool) :
    (task.finish left exit raised).isCompleted = exit.isTerminal := by
  cases exit <;> rfl

theorem pc_finish (task : Task) (left : Processor) (exit : Exit) (raised : Bool) :
    (task.finish left exit raised).pc = left.pc := rfl

theorem pc_of_held (held : task.processor = some processor) : task.pc = processor.pc := by
  rw [Task.pc, held, Option.elim_some]

theorem told_lose (kind : Event.Kind) (s : Scheduler) (processor : Processor) (task : Task)
    (recorded : List Processor.Event) :
    told kind ((s.handOver processor task).recordRun task.id recorded).trace =
      told kind s.trace + (if Event.Kind.dispatch = kind then 1 else 0) +
        if Event.Kind.other = kind then recorded.length else 0 := by
  rw [trace_recordRun, trace_handOver, told_append, told_append, told_map_ran, told_cons,
    told_nil, Nat.zero_add, Event.kind]

theorem told_join (kind : Event.Kind) (s : Scheduler) (processor : Processor) (task : Task)
    (run : Processor.Run) (raised : Bool) :
    told kind ((s.handOver processor task).close task run raised).trace =
      told kind s.trace + (if Event.Kind.dispatch = kind then 1 else 0) +
        (if Event.Kind.other = kind then run.events.length else 0) +
        if (if run.report.exit.isTerminal then Event.Kind.completion else .preemption) = kind
          then 1 else 0 := by
  have last : (closing task.id run).kind =
      if run.report.exit.isTerminal then Event.Kind.completion else .preemption := by
    rw [closing]
    split <;> rfl
  rw [trace_close, ← List.append_assoc, ← trace_recordRun, told_append, told_lose, told_cons,
    told_nil, Nat.zero_add, last]

/-- A dispatch whose context breaks down leaves the task with its context. -/
theorem balanced_lose {recorded : List Processor.Event} (coherent : s.Coherent)
    (found : s.registry.get? id = some task) (incomplete : task.isCompleted = false)
    (began : task.begin? = some (processor, begun))
    (lost : (plan s.registry.dispatches).carryOut begun.program processor = .lost recorded)
    (before : s.Balanced plan) :
    ((s.handOver processor begun).recordRun begun.id recorded).Balanced plan := by
  have evolves := (coherent.sound _ _ found).evolves_of_begin incomplete began
  obtain ⟨held, begun_eq⟩ := Task.begin?_eq_some_iff.1 began
  have completed := count_set s.registry found evolves Task.isCompleted
  have dispatched := count_set s.registry found evolves Task.isDispatched
  have total := dispatches_set found evolves (by rw [begun_eq])
  have gone : begun.isCompleted = false ∧ begun.isDispatched = true := by
    rw [begun_eq]
    exact ⟨rfl, rfl⟩
  rw [incomplete, gone.1] at completed
  rw [isDispatched_eq_false coherent found incomplete held, gone.2] at dispatched
  simp only [Bool.toNat_false, Bool.toNat_true] at completed dispatched
  obtain ⟨size, dispatches, completions, ends, _⟩ := before
  refine ⟨?_, ?_, ?_, ?_, ?_⟩
  · rw [told_lose, registry_recordRun, registry_handOver, Registry.size_set, size]
    rfl
  · rw [told_lose, registry_recordRun, registry_handOver, total, dispatches]
    rfl
  · rw [told_lose, registry_recordRun, registry_handOver]
    simp only [reduceCtorEq, if_false]
    omega
  · simp only [told_lose, registry_recordRun, registry_handOver, reduceCtorEq, if_false, if_true]
    omega
  · intro unbroken
    rw [Unbroken, dispatches_lose coherent found incomplete began lost] at unbroken
    have broken := unbroken _ (List.mem_append_right _ (List.mem_singleton_self _))
    cases broken

/-- A dispatch whose context comes back is either preempted or completes its task. -/
theorem balanced_join {run : Processor.Run} {raised : Bool} (coherent : s.Coherent)
    (found : s.registry.get? id = some task) (incomplete : task.isCompleted = false)
    (began : task.begin? = some (processor, begun))
    (joined : (plan s.registry.dispatches).carryOut begun.program processor =
      .joined run raised)
    (before : s.Balanced plan) :
    ((s.handOver processor begun).close begun run raised).Balanced plan := by
  have evolves := (coherent.sound _ _ found).evolves_finish incomplete began run.processor
    run.report.exit raised
  obtain ⟨held, begun_eq⟩ := Task.begin?_eq_some_iff.1 began
  have completed := count_set s.registry found evolves Task.isCompleted
  have dispatched := count_set s.registry found evolves Task.isDispatched
  have position := total_set found evolves Task.pc
  have total := dispatches_set found evolves (by rw [begun_eq]; rfl)
  rw [incomplete, isCompleted_finish] at completed
  rw [isDispatched_eq_false coherent found incomplete held, isDispatched_finish] at dispatched
  simp only [Bool.toNat_false] at completed dispatched
  obtain ⟨size, dispatches, completions, ends, positions⟩ := before
  refine ⟨?_, ?_, ?_, ?_, ?_⟩
  · rw [told_join, registry_join, Registry.size_set, size]
    cases run.report.exit <;> rfl
  · rw [told_join, registry_join, total, dispatches]
    cases run.report.exit <;> rfl
  · rw [told_join, registry_join]
    cases terminal : run.report.exit.isTerminal
    · rw [terminal, Bool.toNat_false] at completed
      simp only [reduceCtorEq, Bool.false_eq_true, if_false]
      omega
    · rw [terminal, Bool.toNat_true] at completed
      simp only [reduceCtorEq, if_false, if_true]
      omega
  · simp only [told_join, registry_join]
    cases terminal : run.report.exit.isTerminal
    · simp only [reduceCtorEq, Bool.false_eq_true, if_false, if_true]
      omega
    · simp only [reduceCtorEq, if_false, if_true]
      omega
  · intro unbroken
    rw [Unbroken, dispatches_join coherent found incomplete began joined] at unbroken
    rw [dispatches_join coherent found incomplete began joined]
    have earlier := positions fun entry mem => unbroken entry (List.mem_append_left _ mem)
    obtain ⟨poll, rfl⟩ := exists_run_of_carryOut_eq_joined joined
    have loop := Processor.loop_run begun.program poll processor
    have records := loop.records.1
    have moved := loop.pc
    rw [pc_of_held held, pc_finish] at position
    rw [joinedRecords_append, Processor.executedIn_append, earlier, registry_join,
      joinedRecords_cons, joinedRecords_nil, List.append_nil, if_neg Bool.false_ne_true]
    dsimp only
    omega

end Dispatch

/-- An admitted task was never dispatched and has not moved. -/
theorem balanced_enroll {id : TaskId} {registry : Registry} {priority : Int32} {program : Program}
    (inserted : s.registry.insert priority program = .ok (id, registry))
    (same : ({ s with registry }.record (.taskAdmitted id priority program.size)).dispatches plan =
      s.dispatches plan)
    (before : s.Balanced plan) :
    ({ s with registry }.record (.taskAdmitted id priority program.size)).Balanced plan := by
  have grown := Registry.size_insert inserted
  have total : ∀ weight, weight (Task.fresh id priority program) = 0 →
      registry.total weight = s.registry.total weight := by
    intro weight nothing
    rw [Registry.total_insert inserted, nothing, Nat.add_zero]
  have trace : ({ s with registry }.record (.taskAdmitted id priority program.size)).trace =
      s.trace ++ [.taskAdmitted id priority program.size] := trace_record _ _
  obtain ⟨size, dispatches, completions, ends, positions⟩ := before
  rw [Registry.count_eq_total] at completions ends
  refine ⟨?_, ?_, ?_, ?_, ?_⟩
  · rw [trace, told_append, registry_record, grown, size]
    rfl
  · rw [trace, told_append, registry_record, Registry.dispatches, total _ rfl]
    exact dispatches
  · rw [trace, told_append, registry_record, Registry.count_eq_total, total _ rfl]
    exact completions
  · rw [trace, told_append, told_append, told_append, registry_record, Registry.count_eq_total,
      total _ rfl]
    exact ends
  · rw [Unbroken, same, registry_record, total _ rfl]
    exact positions

theorem Step.balanced (step : Step plan s s') (coherent : s.Coherent)
    (before : s.Balanced plan) : s'.Balanced plan := by
  have whole := step
  cases step with
  | note notice =>
    refine balanced_of_quiet before rfl
      (dispatches_quiet whole coherent (dispatchLog_note s notice)) ?_
    intro kind _ _
    rw [trace_note]
  | @remark event remark =>
    refine balanced_of_quiet before rfl
      (dispatches_quiet whole coherent (dispatchLog_remark s remark)) ?_
    intro kind _ other
    rw [trace_record, told_concat_of_ne]
    rw [kind_of_isRemark remark]
    exact other.symm
  | enroll inserted =>
    exact balanced_enroll inserted
      (dispatches_quiet whole coherent (dispatchLog_enroll _ _ _ _ _)) before
  | openSweep =>
    refine balanced_of_quiet before rfl
      (dispatches_quiet whole coherent (dispatchLog_openSweep s)) ?_
    intro kind sweep _
    rw [trace_openSweep, told_concat_of_ne]
    exact sweep.symm
  | lose found incomplete began lost =>
    exact balanced_lose coherent found incomplete began lost before
  | join found incomplete began joined =>
    exact balanced_join coherent found incomplete began joined before

/-! ## Between calls -/

/-- The statistics, the tasks and the trace agree. -/
structure BooksAgree (plan : Plan) (s : Scheduler) : Prop where
  sweeps : s.statistics.sweeps.toNat = told .sweep s.trace
  dispatches : s.statistics.dispatches.toNat = told .dispatch s.trace
  dispatches_tasks : s.statistics.dispatches.toNat = s.registry.dispatches
  preemptions : s.statistics.preemptions.toNat = told .preemption s.trace
  completions : s.statistics.completions.toNat = told .completion s.trace
  completions_tasks : s.statistics.completions.toNat = s.registry.count Task.isCompleted
  ends : s.statistics.dispatches.toNat =
    s.statistics.preemptions.toNat + s.statistics.completions.toNat +
      s.registry.count Task.isDispatched
  tasks : s.registry.size = told .admission s.trace
  instructions : s.statistics.instructions.toNat = executedIn (joinedRecords (s.dispatches plan))
  unknownOpcodes : s.statistics.unknownOpcodes.toNat =
    faultsIn .unknownOpcode (joinedRecords (s.dispatches plan))
  stackOverflows : s.statistics.stackOverflows.toNat =
    faultsIn .stackOverflow (joinedRecords (s.dispatches plan))
  stackUnderflows : s.statistics.stackUnderflows.toNat =
    faultsIn .stackUnderflow (joinedRecords (s.dispatches plan))
  /-- Without a breakdown, the positions of the tasks tell the instructions, too. -/
  positions : s.Unbroken plan → s.statistics.instructions.toNat = s.registry.total Task.pc

/-- Between calls the statistics, the tasks and the trace agree, unless some count has outgrown its
counter. -/
theorem books_agree (plan : Plan) (config : Config) (calls : List Call)
    (fits : ∀ counter, account (after plan config calls).trace
      ((after plan config calls).dispatches plan) counter < UInt64.size) :
    (after plan config calls).BooksAgree plan := by
  have counted := holds_after Step.counted (counted_new plan config) calls
  have balanced := holds_after Step.balanced (balanced_new plan config) calls
  generalize after plan config calls = s at *
  have shows : ∀ counter, (s.statistics.get counter).toNat =
      account s.trace (s.dispatches plan) counter := by
    intro counter
    rw [counted counter]
    exact UInt64.toNat_ofNat_of_lt' (fits counter)
  have dispatches : s.statistics.dispatches.toNat = told .dispatch s.trace := shows .dispatches
  have preemptions : s.statistics.preemptions.toNat = told .preemption s.trace := shows .preemptions
  have completions : s.statistics.completions.toNat = told .completion s.trace := shows .completions
  have instructions : s.statistics.instructions.toNat =
      executedIn (joinedRecords (s.dispatches plan)) :=
    shows .instructions
  exact
    { sweeps := shows .sweeps
      dispatches
      dispatches_tasks := dispatches.trans balanced.dispatches.symm
      preemptions
      completions
      completions_tasks := completions.trans balanced.completions.symm
      ends := by rw [dispatches, preemptions, completions, balanced.ends]
      tasks := balanced.size
      instructions
      unknownOpcodes := shows (.faults .unknownOpcode)
      stackOverflows := shows (.faults .stackOverflow)
      stackUnderflows := shows (.faults .stackUnderflow)
      positions := fun unbroken => instructions.trans (balanced.positions unbroken) }

/-- The books of a life with a lost context agree: the instruction that the broken context recorded
is in none of them. In a calm life the eight instructions that were executed are the positions of
the two tasks. -/
theorem books_agree_lives :
    (after lossyPlan .standard lossyCalls).BooksAgree lossyPlan ∧
      (after lossyPlan .standard lossyCalls).statistics.instructions = 4 ∧
      (after calmPlan .standard (calmCalls ++ [.run])).registry.total Task.pc = 8 := by
  refine ⟨books_agree lossyPlan .standard lossyCalls ?_, by decide +kernel, ?_⟩
  · rintro (_ | _ | _ | _ | _ | fault)
    case faults => cases fault <;> decide +kernel
    all_goals decide +kernel
  · have agree := books_agree calmPlan .standard (calmCalls ++ [.run]) (by
      rintro (_ | _ | _ | _ | _ | fault)
      case faults => cases fault <;> decide +kernel
      all_goals decide +kernel)
    rw [← agree.positions (by decide +kernel)]
    decide +kernel

end Scheduler

end TimeShare
