import TimeShare.Proofs.Processor.Transcript
import TimeShare.Proofs.Scheduler.Dispatches

/-!
# Preemption does not show in the trace

The contexts of all tasks record into one trace, each in pieces that the slices
cut. What the trace tells of one task is what its program records when it runs
alone: nothing is lost, repeated or out of order where a task was preempted and
resumed.

* `Transcribed`: the transcripts of all tasks are those of their programs alone.
  `Step.transcribed`: every step keeps this.
* `transcript_eq`: so they are between calls.
-/

namespace TimeShare

open Processor (exhaustion)

/-- What the processor of a task recorded, if an event tells of that. -/
def Event.ranBy? (id : TaskId) : Event → Option Processor.Event
  | .ran task event => if task = id then some event else none
  | _ => none

/-- The events of a task's contexts are those of its program alone up to the task's position. Of a
task that was lost they are the first of those of an undisturbed run. -/
structure Task.Transcribed (task : Task) (events : List Processor.Event) : Prop where
  held : ∀ processor, task.processor = some processor →
    events = task.program.transcript processor.pc ++ exhaustion task.lastExit processor.pc
  lost : task.processor = none → events <+: task.program.undisturbed

namespace Scheduler

/-- What the contexts of a task recorded, in order. -/
def transcript (s : Scheduler) (id : TaskId) : List Processor.Event :=
  s.trace.filterMap (Event.ranBy? id)

/-- The transcripts of all tasks are those of their programs alone, and there are no others. -/
structure Transcribed (s : Scheduler) : Prop where
  tasks : ∀ id task, s.registry.get? id = some task → task.Transcribed (s.transcript id)
  others : ∀ id, s.registry.get? id = none → s.transcript id = []

variable {plan : Plan} {s s' : Scheduler}

/-! ## The transcripts after each operation -/

theorem transcript_of_trace_append {more : List Event} (trace : s'.trace = s.trace ++ more)
    (id : TaskId) : s'.transcript id = s.transcript id ++ more.filterMap (Event.ranBy? id) := by
  rw [transcript, trace, List.filterMap_append, transcript]

/-- An event of the scheduler itself is in no transcript. -/
theorem transcript_of_quiet {event : Event} (trace : s'.trace = s.trace ++ [event])
    (quiet : ∀ id, Event.ranBy? id event = none) (id : TaskId) :
    s'.transcript id = s.transcript id := by
  rw [transcript_of_trace_append trace, List.filterMap_cons_none (quiet id), List.filterMap_nil,
    List.append_nil]

theorem ranBy?_of_isRemark {event : Event} (remark : event.isRemark = true) (id : TaskId) :
    Event.ranBy? id event = none := by
  cases event <;> first | rfl | cases remark

theorem ranBy?_closing (task : TaskId) (run : Processor.Run) (id : TaskId) :
    Event.ranBy? id (closing task run) = none := by
  unfold closing
  split <;> rfl

/-- What a context records is in the transcript of its task only. -/
theorem filterMap_ranBy?_map_ran (task id : TaskId) (events : List Processor.Event) :
    (events.map (.ran task)).filterMap (Event.ranBy? id) = if task = id then events else [] := by
  rw [List.filterMap_map]
  split
  · rename_i same
    have each : Event.ranBy? id ∘ Event.ran task = some := by
      funext event
      exact if_pos same
    rw [each, List.filterMap_some]
  · rename_i other
    exact List.filterMap_eq_nil_iff.2 fun event _ => if_neg other

theorem transcript_lose (s : Scheduler) (processor : Processor) (task : Task)
    (recorded : List Processor.Event) (id : TaskId) :
    ((s.handOver processor task).recordRun task.id recorded).transcript id =
      s.transcript id ++ if task.id = id then recorded else [] := by
  rw [transcript_of_trace_append (trace_recordRun _ _ _), filterMap_ranBy?_map_ran,
    transcript_of_quiet (trace_handOver s processor task) fun _ => rfl]

theorem transcript_join (s : Scheduler) (processor : Processor) (task : Task)
    (run : Processor.Run) (raised : Bool) (id : TaskId) :
    ((s.handOver processor task).close task run raised).transcript id =
      s.transcript id ++ if task.id = id then run.events else [] := by
  rw [← transcript_lose s processor]
  exact transcript_of_quiet (trace_close_eq _ task run raised) (ranBy?_closing task.id run) id

/-! ## One dispatch -/

section Dispatch

variable {id : TaskId} {task begun : Task} {processor : Processor}

/-- Up to a dispatch the transcript of a task is that of its program up to where it waits. -/
theorem Transcribed.waiting (transcribed : s.Transcribed) (coherent : s.Coherent)
    (found : s.registry.get? id = some task) (incomplete : task.isCompleted = false)
    (held : task.processor = some processor) :
    s.transcript id = task.program.transcript processor.pc := by
  obtain ⟨_, exit, _⟩ := (coherent.sound id task found).waiting incomplete held
  have unfinished : exhaustion task.lastExit processor.pc = [] := by
    rcases exit with exit | exit <;> rw [exit] <;> rfl
  rw [(transcribed.tasks id task found).held processor held, unfinished, List.append_nil]

theorem recordedBefore_prefix {executed further : Nat} {events recorded : List Processor.Event}
    (before : Interruption.recordedBefore executed further events = some recorded) :
    recorded <+: events := by
  fun_induction Interruption.recordedBefore executed further events generalizing recorded with
  | case1 =>
    obtain rfl := Option.some.inj before
    exact List.nil_prefix
  | case2 => cases before
  | case3 further event rest ih =>
    obtain ⟨earlier, taken, rfl⟩ := Option.map_eq_some_iff.1 before
    exact (List.prefix_cons_inj event).2 (ih taken)
  | case4 executed further event rest ih =>
    obtain ⟨earlier, taken, rfl⟩ := Option.map_eq_some_iff.1 before
    exact (List.prefix_cons_inj event).2 (ih taken)

/-- What a context recorded before it broke down are the first events of an undisturbed run. -/
theorem prefix_of_carryOut_eq_lost {interruption : Interruption} {program : Program}
    {recorded : List Processor.Event}
    (lost : interruption.carryOut program processor = .lost recorded) :
    recorded <+: (processor.run program Processor.neverRaised).events := by
  cases interruption with
  | none => cases lost
  | expiry _ => cases lost
  | breakdown executed further =>
    simp only [Interruption.carryOut] at lost
    split at lost
    · rename_i before
      obtain rfl := ContextEnd.lost.inj lost
      exact recordedBefore_prefix before
    · cases lost

/-- A task that breaks down leaves the first events of an undisturbed run. -/
theorem transcribed_begin {recorded : List Processor.Event} (transcribed : s.Transcribed)
    (coherent : s.Coherent) (found : s.registry.get? id = some task)
    (incomplete : task.isCompleted = false) (began : task.begin? = some (processor, begun))
    (lost : (plan s.registry.dispatches).carryOut begun.program processor = .lost recorded) :
    begun.Transcribed (s.transcript id ++ recorded) := by
  obtain ⟨held, rfl⟩ := Task.begin?_eq_some_iff.1 began
  have sound := coherent.sound id task found
  obtain ⟨_, _, _, inside, free⟩ := sound.waiting incomplete held
  refine ⟨nofun, fun _ => ?_⟩
  have first := prefix_of_carryOut_eq_lost lost
  rw [sound.straight processor held] at first
  rw [transcribed.waiting coherent found incomplete held, Processor.undisturbed_split free inside]
  exact (List.prefix_append_right_inj _).2 first

/-- A task that comes back has gone on in its transcript to where it stopped. -/
theorem transcribed_finish {run : Processor.Run} {raised : Bool} (transcribed : s.Transcribed)
    (coherent : s.Coherent) (found : s.registry.get? id = some task)
    (incomplete : task.isCompleted = false) (began : task.begin? = some (processor, begun))
    (joined : (plan s.registry.dispatches).carryOut begun.program processor =
      .joined run raised) :
    (begun.finish run.processor run.report.exit raised).Transcribed
      (s.transcript id ++ run.events) := by
  obtain ⟨held, rfl⟩ := Task.begin?_eq_some_iff.1 began
  obtain ⟨poll, rfl⟩ := exists_run_of_carryOut_eq_joined joined
  have straight := (coherent.sound id task found).straight processor held
  refine ⟨?_, nofun⟩
  rintro _ ⟨⟩
  rw [transcribed.waiting coherent found incomplete held]
  exact (Processor.loop_run task.program poll processor).resumed straight

end Dispatch

/-! ## Every step -/

/-- A step that leaves tasks and transcripts as they are keeps them in line. -/
theorem Transcribed.of_quiet (transcribed : s.Transcribed) (registry : s'.registry = s.registry)
    (same : ∀ id, s'.transcript id = s.transcript id) : s'.Transcribed where
  tasks := by
    intro id task found
    rw [registry] at found
    rw [same]
    exact transcribed.tasks id task found
  others := by
    intro id unknown
    rw [registry] at unknown
    rw [same, transcribed.others id unknown]

/-- A step that replaces one task, with what its context recorded, keeps the others in line. -/
theorem Transcribed.of_set {id : TaskId} {old new : Task} {more : List Processor.Event}
    (transcribed : s.Transcribed) (found : s.registry.get? id = some old)
    (evolves : old.Evolves new) (registry : s'.registry = s.registry.set new)
    (added : ∀ other,
      s'.transcript other = s.transcript other ++ if new.id = other then more else [])
    (here : new.Transcribed (s.transcript id ++ more)) : s'.Transcribed := by
  have new_id : new.id = id := evolves.id.trans (Registry.id_of_get? found)
  have here_found : s'.registry.get? new.id = some new := by
    rw [registry, new_id]
    exact get?_set_of_evolves found evolves
  refine ⟨fun other task found_task => ?_, fun other unknown => ?_⟩
  · rw [added]
    rw [registry] at found_task
    rcases Registry.get?_set_cases found_task with rfl | ⟨ne, before⟩
    · have same : other = id := (Registry.id_of_get? found_task).symm.trans new_id
      rw [if_pos (new_id.trans same.symm), same]
      exact here
    · rw [if_neg ne, List.append_nil]
      exact transcribed.tasks other task before
  · have ne : new.id ≠ other := by
      rintro rfl
      cases unknown.symm.trans here_found
    rw [registry, Registry.get?_set_of_ne ne] at unknown
    rw [added, if_neg ne, List.append_nil, transcribed.others other unknown]

/-- An admitted task has recorded nothing. -/
theorem transcribed_enroll {id : TaskId} {registry : Registry} {priority : Int32}
    {program : Program} (transcribed : s.Transcribed)
    (inserted : s.registry.insert priority program = .ok (id, registry)) :
    ({ s with registry }.record (.taskAdmitted id priority program.size)).Transcribed := by
  have same : ∀ other,
      ({ s with registry }.record (.taskAdmitted id priority program.size)).transcript other =
        s.transcript other :=
    transcript_of_quiet (trace_record _ _) fun _ => rfl
  refine ⟨fun other task found => ?_, fun other unknown => ?_⟩
  · rw [same]
    rcases Registry.get?_insert_split inserted found with earlier | ⟨unknown, rfl⟩
    · exact transcribed.tasks other task earlier
    · rw [transcribed.others other unknown]
      refine ⟨?_, nofun⟩
      rintro _ ⟨⟩
      rfl
  · rw [same]
    cases earlier : s.registry.get? other with
    | some old => cases unknown.symm.trans (Registry.get?_insert_of_some inserted earlier)
    | none => exact transcribed.others other earlier

theorem Step.transcribed (step : Step plan s s') (coherent : s.Coherent)
    (before : s.Transcribed) : s'.Transcribed := by
  cases step with
  | note notice =>
    refine before.of_quiet rfl fun id => ?_
    rw [transcript, trace_note, transcript]
  | remark remark =>
    exact before.of_quiet rfl (transcript_of_quiet (trace_record s _) (ranBy?_of_isRemark remark))
  | enroll inserted => exact transcribed_enroll before inserted
  | openSweep => exact before.of_quiet rfl (transcript_of_quiet (trace_openSweep s) fun _ => rfl)
  | @lose _ _ begun processor recorded found incomplete began lost =>
    exact before.of_set found ((coherent.sound _ _ found).evolves_of_begin incomplete began) rfl
      (transcript_lose s processor begun recorded)
      (transcribed_begin before coherent found incomplete began lost)
  | @join _ _ begun processor run raised found incomplete began joined =>
    exact before.of_set found ((coherent.sound _ _ found).evolves_finish incomplete began _ _ _)
      (registry_join s processor begun run raised) (transcript_join s processor begun run raised)
      (transcribed_finish before coherent found incomplete began joined)

theorem transcribed_after (plan : Plan) (config : Config) (calls : List Call) :
    (after plan config calls).Transcribed :=
  holds_after Step.transcribed ⟨nofun, fun _ _ => rfl⟩ calls

/-! ## Between calls -/

/-- A task has recorded the first events of an undisturbed run, and all of them once it is
complete. -/
theorem Transcribed.prefix_undisturbed (transcribed : s.Transcribed) (coherent : s.Coherent)
    {id : TaskId} {task : Task} (found : s.registry.get? id = some task) :
    s.transcript id <+: task.program.undisturbed := by
  have sound := coherent.sound id task found
  cases held : task.processor with
  | none => exact (transcribed.tasks id task found).lost held
  | some processor =>
    cases completed : task.isCompleted with
    | true =>
      obtain ⟨exit, pc⟩ := sound.ended completed held
      have whole : s.transcript id = task.program.undisturbed := by
        rw [(transcribed.tasks id task found).held processor held, Processor.undisturbed_eq, exit,
          pc]
      exact ⟨[], by rw [List.append_nil, whole]⟩
    | false =>
      obtain ⟨_, _, _, inside, free⟩ := sound.waiting completed held
      rw [transcribed.waiting coherent found completed held,
        Processor.undisturbed_split free inside]
      exact List.prefix_append _ _

/-- Between calls, what the trace tells of a task that has its processor state are the events of
its program's steps up to the task's position, and one event more if it ran past the end; what the
trace tells of any task, with its processor state or lost, are the first events that one
undisturbed run records. -/
theorem transcript_eq (plan : Plan) (config : Config) (calls : List Call) {task : Task}
    (mem : task ∈ (after plan config calls).registry.tasks) :
    (∀ processor, task.processor = some processor →
      (after plan config calls).transcript task.id =
        task.program.transcript processor.pc ++
          if task.lastExit = some .exhausted then [.exhausted processor.pc] else []) ∧
    (after plan config calls).transcript task.id <+:
      (Processor.fresh.run task.program Processor.neverRaised).events := by
  have coherent := coherent_after plan config calls
  have transcribed := transcribed_after plan config calls
  have found := Registry.get?_id_of_mem mem
  exact ⟨(transcribed.tasks task.id task found).held,
    transcribed.prefix_undisturbed coherent found⟩

/-- A task without a `HALT` beside another one, and two sweeps. -/
def endPushCalls : List Call :=
  [.submit 1 endPush, .submit 9 pushPop, .sweep, .sweep]

/-- The first task is preempted behind its last instruction and finds none left in its second
dispatch; the second task is lost in between. -/
theorem transcript_eq_lossy :
    (after lossyPlan .standard endPushCalls).transcript 0 =
        endPush.transcript 2 ++ [.exhausted 2] ∧
      (after lossyPlan .standard endPushCalls).transcript 1 <+:
        (Processor.fresh.run pushPop Processor.neverRaised).events := by
  have first : ((after lossyPlan .standard endPushCalls).registry.tasks[0]?.bind fun task =>
      task.processor.map fun processor =>
        (task.id, task.program, task.lastExit, processor.pc)) =
      some (0, endPush, some .exhausted, 2) := by
    decide +kernel
  have second : ((after lossyPlan .standard endPushCalls).registry.tasks[1]?.map fun task =>
      (task.id, task.program)) = some (1, pushPop) := by
    decide +kernel
  obtain ⟨task, found, held⟩ := Option.bind_eq_some_iff.1 first
  obtain ⟨processor, held, fields⟩ := Option.map_eq_some_iff.1 held
  obtain ⟨other, found_other, fields_other⟩ := Option.map_eq_some_iff.1 second
  simp only [Prod.mk.injEq] at fields fields_other
  obtain ⟨id, program, exit, pc⟩ := fields
  obtain ⟨id_other, program_other⟩ := fields_other
  have whole := (transcript_eq lossyPlan .standard endPushCalls
    (Array.mem_of_getElem? found)).1 processor held
  have cut := (transcript_eq lossyPlan .standard endPushCalls
    (Array.mem_of_getElem? found_other)).2
  rw [id, program, exit, pc] at whole
  rw [id_other, program_other] at cut
  exact ⟨whole, cut⟩

end Scheduler

end TimeShare
