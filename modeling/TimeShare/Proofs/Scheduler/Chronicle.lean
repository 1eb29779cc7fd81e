import TimeShare.Proofs.Scheduler.Books
import TimeShare.Proofs.Scheduler.Grammar
import TimeShare.Proofs.Scheduler.Transcripts

/-!
# Every life follows the grammar

Scheduler, tasks and processors record into one trace, and a context may break
down at any event. `trace_wellFormed` says that the trace follows the grammar all
the same, that its brackets are the dispatches of the scheduler's life, and what
a run adds to it.

* `Bracketed`: what the brackets so far have to do with the tasks.
  `bracketed_dispatch`: a dispatch adds one bracket to them or changes nothing.
* `Chronicle`: what the passages so far have to do with the scheduler.
  `chronicle_sweep`, `Stride.chronicle`: every stride goes on with it.
-/

namespace TimeShare.Scheduler

open Processor (executedIn)

variable {plan : Plan} {s s' : Scheduler}

/-! ## Brackets -/

/-- The brackets are the dispatches of the scheduler's life, and every task that waits for a
dispatch waits where its last one was preempted. -/
structure Bracketed (plan : Plan) (brackets : List Bracket) (s : Scheduler) : Prop where
  successive : Successive Bracket.Follows brackets
  entries : brackets.map Bracket.entry = s.dispatches plan
  waiting : ∀ id task processor, s.registry.get? id = some task → task.isCompleted = false →
    task.processor = some processor → processor.pc = Bracket.resumePoint id brackets ∧
      ∀ bracket ∈ brackets, bracket.task = id → bracket.ending = .preempted

theorem map_fst_dispatches (plan : Plan) (s : Scheduler) :
    (s.dispatches plan).map Prod.fst = s.dispatchLog := by
  refine List.ext_getElem? fun number => ?_
  rw [dispatches, List.getElem?_map, List.getElem?_mapIdx, Option.map_map]
  exact Option.map_id'

/-- Brackets are of tasks that there are. -/
theorem Bracketed.known {brackets : List Bracket} (bracketed : Bracketed plan brackets s)
    (coherent : s.Coherent) {bracket : Bracket} (mem : bracket ∈ brackets) :
    ∃ task, s.registry.get? bracket.task = some task := by
  have entry : bracket.entry ∈ s.dispatches plan := by
    rw [← bracketed.entries]
    exact List.mem_map_of_mem mem
  have logged : bracket.toDispatch ∈ s.dispatchLog := by
    rw [← map_fst_dispatches plan]
    exact List.mem_map_of_mem entry
  exact coherent.known bracket.toDispatch logged

/-- What changes no task and tells of no dispatch leaves the brackets as they are. -/
theorem Bracketed.of_quiet {brackets : List Bracket} (bracketed : Bracketed plan brackets s)
    (registry : s'.registry = s.registry) (same : s'.dispatches plan = s.dispatches plan) :
    Bracketed plan brackets s' where
  successive := bracketed.successive
  entries := by rw [bracketed.entries, same]
  waiting := by
    intro id task processor found
    rw [registry] at found
    exact bracketed.waiting id task processor found

/-- An admitted task waits at its start and has no bracket. -/
theorem bracketed_enroll {id : TaskId} {registry : Registry} {priority : Int32} {program : Program}
    {brackets : List Bracket} (bracketed : Bracketed plan brackets s) (coherent : s.Coherent)
    (inserted : s.registry.insert priority program = .ok (id, registry)) :
    Bracketed plan brackets
      ({ s with registry }.record (.taskAdmitted id priority program.size)) := by
  have admitted : Step plan s _ := .enroll inserted
  have same := dispatches_quiet admitted coherent
    (dispatchLog_enroll s registry id priority program.size)
  refine ⟨bracketed.successive, bracketed.entries.trans same.symm, ?_⟩
  intro other task processor found incomplete held
  rcases Registry.get?_insert_split inserted found with earlier | ⟨unknown, rfl⟩
  · exact bracketed.waiting other task processor earlier incomplete held
  · have never : ∀ bracket ∈ brackets, bracket.task ≠ other := by
      rintro bracket mem rfl
      obtain ⟨old, known⟩ := bracketed.known coherent mem
      cases unknown.symm.trans known
    obtain rfl := Option.some.inj held
    rw [Bracket.resumePoint_of_never never]
    exact ⟨rfl, fun bracket mem same => absurd same (never bracket mem)⟩

section Dispatch

variable {id : TaskId} {task begun new : Task} {processor : Processor} {bracket : Bracket}
  {brackets : List Bracket}

/-- One more bracket of a task that waited for its dispatch fits, if it tells where the task is
now. -/
theorem Bracketed.concat (bracketed : Bracketed plan brackets s)
    (found : s.registry.get? id = some task) (incomplete : task.isCompleted = false)
    (held : task.processor = some processor) (evolves : task.Evolves new)
    (registry : s'.registry = s.registry.set new)
    (dispatches : s'.dispatches plan = s.dispatches plan ++ [bracket.entry])
    (same : bracket.task = id) (start : bracket.pc = processor.pc)
    (stepwise : bracket.recorded.filterMap Processor.Event.executedAt? =
      List.range' bracket.pc bracket.retired)
    (stops : ∀ stopped, new.isCompleted = false → new.processor = some stopped →
      stopped.pc = bracket.stop ∧ bracket.ending = .preempted) :
    Bracketed plan (brackets ++ [bracket]) s' := by
  obtain ⟨here, unfinished⟩ := bracketed.waiting id task processor found incomplete held
  have follows : bracket.Follows brackets := by
    refine ⟨?_, ?_, stepwise⟩
    · rw [start, here, same]
    · rw [same]
      exact unfinished
  refine ⟨bracketed.successive.concat follows, ?_, ?_⟩
  · rw [List.map_append, List.map_singleton, bracketed.entries, dispatches]
  · intro other waiting stopped found_waiting incomplete_waiting held_waiting
    rw [registry] at found_waiting
    have new_id : new.id = id := evolves.id.trans (Registry.id_of_get? found)
    rcases Registry.get?_set_cases found_waiting with rfl | ⟨ne, before⟩
    · have other_id : other = bracket.task := by
        rw [same, ← new_id, Registry.id_of_get? found_waiting]
      subst other_id
      obtain ⟨stop, preempted⟩ := stops stopped incomplete_waiting held_waiting
      refine ⟨stop.trans (Bracket.resumePoint_concat_self brackets bracket).symm, ?_⟩
      intro any mem any_id
      rcases List.mem_append.1 mem with earlier | last
      · exact unfinished any earlier (any_id.trans same)
      · rw [List.mem_singleton.1 last]
        exact preempted
    · have other_ne : bracket.task ≠ other := by
        rw [same, ← new_id]
        exact ne
      obtain ⟨there, preempted⟩ :=
        bracketed.waiting other waiting stopped before incomplete_waiting held_waiting
      refine ⟨there.trans (Bracket.resumePoint_concat_of_ne other_ne brackets).symm, ?_⟩
      intro any mem any_id
      rcases List.mem_append.1 mem with earlier | last
      · exact preempted any earlier any_id
      · rw [List.mem_singleton.1 last] at any_id
        exact absurd any_id other_ne

/-- A dispatch whose context breaks down leaves a bracket without an end. -/
theorem bracketed_lose {recorded : List Processor.Event} (bracketed : Bracketed plan brackets s)
    (coherent : s.Coherent) (found : s.registry.get? id = some task)
    (incomplete : task.isCompleted = false) (began : task.begin? = some (processor, begun))
    (lost : (plan s.registry.dispatches).carryOut begun.program processor = .lost recorded) :
    Bracketed plan (brackets ++ [⟨⟨begun.id, processor.pc, recorded⟩, begun.priority, .broken⟩])
      ((s.handOver processor begun).recordRun begun.id recorded) := by
  have evolves := (coherent.sound _ _ found).evolves_of_begin incomplete began
  have more := dispatches_lose coherent found incomplete began lost
  have first := prefix_of_carryOut_eq_lost lost
  obtain ⟨held, begun_eq⟩ := Task.begin?_eq_some_iff.1 began
  refine bracketed.concat found incomplete held evolves rfl more
    (evolves.id.trans (Registry.id_of_get? found)) rfl ?_ ?_
  · exact (Processor.loop_run _ _ processor).positions_of_first first
  · intro stopped _ gone
    rw [begun_eq] at gone
    cases gone

/-- How the trace shows the end of a run with an exit. -/
def endingOf (exit : Exit) : Bracket.Ending :=
  if exit.isTerminal then .completed else .preempted

/-- A dispatch whose context comes back leaves a bracket with its end. -/
theorem bracketed_join {run : Processor.Run} {raised : Bool}
    (bracketed : Bracketed plan brackets s) (coherent : s.Coherent)
    (found : s.registry.get? id = some task) (incomplete : task.isCompleted = false)
    (began : task.begin? = some (processor, begun))
    (joined : (plan s.registry.dispatches).carryOut begun.program processor =
      .joined run raised) :
    Bracketed plan (brackets ++
        [⟨⟨begun.id, processor.pc, run.events⟩, begun.priority, endingOf run.report.exit⟩])
      ((s.handOver processor begun).close begun run raised) := by
  have evolves := (coherent.sound _ _ found).evolves_finish incomplete began run.processor
    run.report.exit raised
  have more := dispatches_join coherent found incomplete began joined
  obtain ⟨held, begun_eq⟩ := Task.begin?_eq_some_iff.1 began
  obtain ⟨poll, rfl⟩ := exists_run_of_carryOut_eq_joined joined
  have loop := Processor.loop_run begun.program poll processor
  refine bracketed.concat found incomplete held evolves (registry_join ..) ?_
    (evolves.id.trans (Registry.id_of_get? found)) rfl ?_ ?_
  · rw [more, Bracket.entry]
    cases (processor.run begun.program poll).report.exit <;> rfl
  · rw [loop.positions, Bracket.retired, loop.records.1]
  · rintro _ unfinished ⟨⟩
    rw [isCompleted_finish] at unfinished
    rw [Bracket.stop, Bracket.retired, ← loop.records.1, endingOf, unfinished]
    exact ⟨loop.pc, rfl⟩

end Dispatch

/-- The event that ends a bracket is the one that ends the dispatch. -/
theorem closing_of_loop {program : Program} {poll : Nat → Bool} {processor : Processor}
    {run : Processor.Run} (loop : Processor.Loop program poll 0 processor run) (id : TaskId)
    (priority : Int32) :
    (Bracket.mk ⟨id, processor.pc, run.events⟩ priority (endingOf run.report.exit)).closing =
      [closing id run] := by
  rw [Bracket.closing, endingOf, closing, loop.pc, loop.records.1]
  cases run.report.exit <;> rfl

/-- A dispatch fails and changes nothing, or adds a bracket, which has no end if it fails. -/
theorem bracketed_dispatch {id : TaskId} {brackets : List Bracket}
    {result : Except SchedulerError Exit} (bracketed : Bracketed plan brackets s)
    (coherent : s.Coherent) (runnable : id ∈ s.registry.runnable)
    (h : dispatch (plan s.registry.dispatches) id s = (result, s')) :
    ((∃ error, result = .error error) ∧ s' = s) ∨
      ∃ bracket, bracket.task = id ∧ Bracketed plan (brackets ++ [bracket]) s' ∧
        s'.trace = s.trace ++ bracket.events ∧
        (bracket.ending = .broken → ∃ error, result = .error error) := by
  obtain ⟨task, found, incomplete⟩ := Registry.mem_runnable_iff.1 runnable
  rcases dispatch_cases h with
    ⟨⟨_, failed⟩, same, _⟩ | ⟨other, processor, begun, found', began, ends⟩
  · exact .inl ⟨⟨_, failed⟩, same⟩
  · obtain rfl := Option.some.inj (found.symm.trans found')
    have same : begun.id = id := Registry.id_of_begin found began
    rcases ends with ⟨recorded, lost, failed, rfl⟩ | ⟨run, raised, joined, _, rfl⟩
    · refine .inr ⟨_, same, bracketed_lose bracketed coherent found incomplete began lost, ?_,
        fun _ => ⟨_, failed⟩⟩
      rw [trace_recordRun, trace_handOver, List.append_assoc, Bracket.events, Bracket.closing,
        List.append_nil, List.singleton_append]
    · refine .inr ⟨_, same, bracketed_join bracketed coherent found incomplete began joined, ?_,
        fun broken => ?_⟩
      · obtain ⟨poll, rfl⟩ := exists_run_of_carryOut_eq_joined joined
        rw [trace_close, trace_handOver, List.append_assoc, Bracket.events,
          closing_of_loop (Processor.loop_run begun.program poll processor),
          List.singleton_append]
      · dsimp only at broken
        cases exit : run.report.exit <;> rw [exit] at broken <;> cases broken

/-- Dispatching some tasks adds brackets of the first of them, with an end but for the last. -/
theorem bracketed_dispatchEach {ids : List TaskId} {brackets : List Bracket}
    {result : Except SchedulerError (List (TaskId × Exit))}
    (bracketed : Bracketed plan brackets s) (coherent : s.Coherent) (distinct : ids.Nodup)
    (runnable : ∀ id ∈ ids, id ∈ s.registry.runnable)
    (h : dispatchEach plan ids s = (result, s')) :
    ∃ more, Bracketed plan (brackets ++ more) s' ∧
      s'.trace = s.trace ++ more.flatMap Bracket.events ∧
      more.map (fun bracket => bracket.task) <+: ids ∧
      ∀ bracket ∈ more.dropLast, bracket.ending ≠ .broken := by
  induction ids generalizing s brackets result with
  | nil =>
    obtain ⟨_, rfl⟩ := Prod.mk.inj h
    refine ⟨[], ?_, ?_, List.prefix_rfl, nofun⟩
    · rwa [List.append_nil]
    · rw [List.flatMap_nil, List.append_nil]
  | cons id rest ih =>
    have here := runnable id List.mem_cons_self
    rcases dispatchEach_cons h with
      ⟨error, failed, _⟩ | ⟨exit, next, others, dispatched, rest_done, _⟩
    · rcases bracketed_dispatch bracketed coherent here failed with
        ⟨_, rfl⟩ | ⟨bracket, same, added, trace, _⟩
      · refine ⟨[], ?_, ?_, List.nil_prefix, nofun⟩
        · rwa [List.append_nil]
        · rw [List.flatMap_nil, List.append_nil]
      · refine ⟨[bracket], added, ?_, ?_, nofun⟩
        · rw [trace, List.flatMap_singleton]
        · rw [List.map_singleton, same]
          exact ⟨rest, rfl⟩
    · rcases bracketed_dispatch bracketed coherent here dispatched with
        ⟨⟨_, failed⟩, _⟩ | ⟨bracket, same, added, trace, ended⟩
      · cases failed
      · have later := runnable_of_dispatch distinct runnable dispatched
        have coherent' := Steps.coherent (steps_dispatch here dispatched) coherent
        obtain ⟨more, added', trace', first, whole⟩ :=
          ih added coherent' (List.nodup_cons.1 distinct).2 later rest_done
        refine ⟨bracket :: more, ?_, ?_, ?_, ?_⟩
        · rwa [List.append_cons]
        · rw [trace', trace, List.flatMap_cons, List.append_assoc]
        · rw [List.map_cons, same]
          exact (List.prefix_cons_inj id).2 first
        · intro any mem
          cases more with
          | nil => cases mem
          | cons second others =>
            rcases List.mem_cons.1 mem with rfl | mem
            · intro broken
              obtain ⟨_, failed⟩ := ended broken
              cases failed
            · exact whole any mem

/-! ## Passages -/

/-- The passages are the trace, and their brackets fit the tasks. -/
structure Chronicle (plan : Plan) (passages : List Passage) (s : Scheduler) : Prop where
  trace : s.trace = eventsIn passages
  successive : Successive Passage.Follows passages
  numbered : told .sweep (eventsIn passages) = (sweepsIn passages).length
  bracketed : Bracketed plan (bracketsIn passages) s

/-- What every step keeps of tasks, statistics and trace. -/
structure InOrder (plan : Plan) (s : Scheduler) : Prop where
  coherent : s.Coherent
  counted : s.Counted plan
  balanced : s.Balanced plan

theorem inOrder_new (plan : Plan) (config : Config) : (new config).InOrder plan :=
  ⟨coherent_new config, counted_new plan config, balanced_new plan config⟩

theorem Steps.inOrder (steps : Steps plan s s') (ordered : s.InOrder plan) : s'.InOrder plan where
  coherent := Steps.coherent steps ordered.coherent
  counted := Steps.keep Step.counted steps ordered.coherent ordered.counted
  balanced := Steps.keep Step.balanced steps ordered.coherent ordered.balanced

/-- The tasks that are admitted and not completed, by the trace, are the incomplete ones. -/
theorem Balanced.incomplete (balanced : s.Balanced plan) :
    s.registry.incompleteCount + told .completion s.trace = told .admission s.trace := by
  rw [← balanced.size, ← balanced.completions, Registry.incompleteCount, Registry.count,
    Registry.count, Registry.size, ← Array.length_toList,
    List.length_eq_countP_add_countP Task.isCompleted, Nat.add_comm]
  congr 2
  funext task
  cases task.isCompleted <;> rfl

theorem Chronicle.concat {passages : List Passage} {passage : Passage}
    (chronicle : Chronicle plan passages s) (follows : passage.Follows passages)
    (trace : s'.trace = s.trace ++ passage.events)
    (bracketed : Bracketed plan (bracketsIn (passages ++ [passage])) s') :
    Chronicle plan (passages ++ [passage]) s' where
  trace := by rw [trace, chronicle.trace, eventsIn_append, eventsIn_singleton]
  successive := chronicle.successive.concat follows
  numbered := by
    rw [eventsIn_append, eventsIn_singleton, told_append, chronicle.numbered, follows.told_sweep,
      sweepsIn_append, List.length_append]
  bracketed := bracketed

/-- A sweep is one passage. -/
theorem chronicle_sweep {passages : List Passage} (chronicle : Chronicle plan passages s)
    (ordered : s.InOrder plan) (left : s.registry.incompleteCount ≠ 0) :
    ∃ made, Chronicle plan (passages ++ [.sweep made]) (s.sweep plan).2 := by
  rw [sweep_of_unfinished plan left]
  have opened : Step plan s s.openSweep := .openSweep s
  have bracketed : Bracketed plan (bracketsIn passages) s.openSweep :=
    chronicle.bracketed.of_quiet (registry_openSweep s)
      (dispatches_quiet opened ordered.coherent (dispatchLog_openSweep s))
  obtain ⟨brackets, bracketed, trace, first, broken_last⟩ :=
    bracketed_dispatchEach bracketed (opened.coherent ordered.coherent) s.registry.nodup_runnable
      (fun _ mem => mem) rfl
  have number : (s.statistics.sweeps + 1).toNat =
      ((sweepsIn passages).length + 1) % UInt64.size := by
    have shows : s.statistics.sweeps = UInt64.ofNat (told .sweep s.trace) := ordered.counted .sweeps
    rw [shows, chronicle.trace, chronicle.numbered, UInt64.toNat_add, UInt64.toNat_ofNat']
    exact Nat.mod_add_mod _ _ _
  have incomplete := ordered.balanced.incomplete
  rw [chronicle.trace] at incomplete
  refine ⟨⟨(s.statistics.sweeps + 1).toNat, s.registry.incompleteCount, brackets⟩,
    chronicle.concat ⟨number, incomplete, ?_, broken_last⟩ ?_ ?_⟩
  · exact s.registry.pairwise_runnable.sublist first.sublist
  · rw [trace, trace_openSweep, List.append_assoc]
    rfl
  · rw [bracketsIn_concat_sweep]
    exact bracketed

/-- A sweep with an incomplete task records the events of one sweep. -/
theorem trace_sweep {passages : List Passage} (chronicle : Chronicle plan passages s)
    (ordered : s.InOrder plan) (left : s.registry.incompleteCount ≠ 0) :
    ∃ made : Sweep, (s.sweep plan).2.trace = s.trace ++ made.events := by
  obtain ⟨made, after⟩ := chronicle_sweep chronicle ordered left
  refine ⟨made, ?_⟩
  rw [after.trace, eventsIn_append, eventsIn_singleton, ← chronicle.trace, Passage.events]

theorem chronicle_note {passages : List Passage} (chronicle : Chronicle plan passages s)
    (coherent : s.Coherent) (notice : Notice) : Chronicle plan passages (s.note notice) where
  trace := by rw [trace_note, chronicle.trace]
  successive := chronicle.successive
  numbered := chronicle.numbered
  bracketed := chronicle.bracketed.of_quiet rfl
    (dispatches_quiet (.note s notice) coherent (dispatchLog_note s notice))

theorem chronicle_remark {passages : List Passage} (chronicle : Chronicle plan passages s)
    (coherent : s.Coherent) {event : Event} (remark : event.isRemark = true) :
    Chronicle plan (passages ++ [.remark event]) (s.record event) := by
  refine chronicle.concat remark (trace_record s event) ?_
  rw [bracketsIn_concat_of_aside rfl]
  exact chronicle.bracketed.of_quiet (registry_record s event)
    (dispatches_quiet (.remark s remark) coherent (dispatchLog_remark s remark))

/-- Every stride goes on with the passages. -/
theorem Stride.chronicle {passages : List Passage} (stride : Stride plan s s')
    (ordered : s.InOrder plan) (chronicle : Chronicle plan passages s) :
    ∃ more, Chronicle plan (passages ++ more) s' := by
  cases stride with
  | note notice =>
    refine ⟨[], ?_⟩
    rw [List.append_nil]
    exact chronicle_note chronicle ordered.coherent notice
  | remark remark => exact ⟨_, chronicle_remark chronicle ordered.coherent remark⟩
  | @enroll id registry priority program inserted =>
    refine ⟨[.admission id priority program.size], chronicle.concat trivial (trace_record _ _) ?_⟩
    rw [bracketsIn_concat_of_aside rfl]
    exact bracketed_enroll chronicle.bracketed ordered.coherent inserted
  | sweep =>
    rcases Nat.eq_zero_or_pos s.registry.incompleteCount with finished | left
    · rw [sweep_of_finished plan finished]
      refine ⟨[], ?_⟩
      rwa [List.append_nil]
    · obtain ⟨made, next⟩ := chronicle_sweep chronicle ordered (Nat.pos_iff_ne_zero.1 left)
      exact ⟨_, next⟩

theorem Strides.chronicle {passages : List Passage} (strides : Strides plan s s')
    (ordered : s.InOrder plan) (chronicle : Chronicle plan passages s) :
    ∃ more, Chronicle plan (passages ++ more) s' := by
  induction strides with
  | refl => exact ⟨[], by rwa [List.append_nil]⟩
  | tail earlier stride ih =>
    obtain ⟨more, middle⟩ := ih
    obtain ⟨further, last⟩ :=
      stride.chronicle (Steps.inOrder (Strides.steps earlier) ordered) middle
    exact ⟨more ++ further, by rwa [← List.append_assoc]⟩

theorem chronicle_new (plan : Plan) (config : Config) : Chronicle plan [] (new config) := by
  refine ⟨rfl, successive_nil, rfl, successive_nil, rfl, ?_⟩
  intro id task processor found
  cases found

/-- Wherever strides lead, some passages are the trace. -/
theorem Strides.chronicled {config : Config} (strides : Strides plan (new config) s) :
    ∃ passages, Chronicle plan passages s := by
  obtain ⟨passages, chronicle⟩ :=
    strides.chronicle (inOrder_new plan config) (chronicle_new plan config)
  exact ⟨_, chronicle⟩

/-! ## Runs -/

/-- The sweeps of a run are as many passages. -/
theorem chronicle_sweepUntilDone {passages : List Passage} {sweeps : Nat}
    {result : Except SchedulerError Nat} (chronicle : Chronicle plan passages s)
    (ordered : s.InOrder plan) (h : sweepUntilDone plan sweeps s = (result, s')) :
    ∃ made : List Sweep, Chronicle plan (passages ++ made.map .sweep) s' ∧
      ∀ total, result = .ok total → total = sweeps + made.length := by
  fun_induction sweepUntilDone plan sweeps s generalizing passages with
  | case1 sweeps s _ =>
    obtain ⟨rfl, rfl⟩ := Prod.mk.inj h
    refine ⟨[], ?_, ?_⟩
    · rwa [List.map_nil, List.append_nil]
    · rintro total ⟨⟩
      rfl
  | case2 sweeps s _ limit _ =>
    obtain ⟨rfl, rfl⟩ := Prod.mk.inj h
    refine ⟨[], ?_, ?_⟩
    · rw [List.map_nil, List.append_nil]
      exact chronicle_note chronicle ordered.coherent _
    · rintro total ⟨⟩
  | case3 sweeps s left _ error next made =>
    obtain ⟨rfl, rfl⟩ := Prod.mk.inj h
    obtain ⟨sweep, after⟩ := chronicle_sweep chronicle ordered left
    rw [made] at after
    refine ⟨[sweep], after, ?_⟩
    rintro total ⟨⟩
  | case4 sweeps s left _ exits next made ih =>
    obtain ⟨sweep, after⟩ := chronicle_sweep chronicle ordered left
    have steps : Steps plan s (s.sweep plan).2 := steps_sweep s
    rw [made] at after steps
    obtain ⟨others, last, sum⟩ := ih after (Steps.inOrder steps ordered) h
    refine ⟨sweep :: others, ?_, ?_⟩
    · rwa [List.map_cons, List.append_cons]
    · intro total ok
      rw [sum total ok, List.length_cons]
      omega

/-- The event with which a run ends, if it succeeds. -/
def runEnding : Except SchedulerError Summary → List Event
  | .ok summary => [.allCompleted summary.sweeps]
  | .error _ => []

theorem eventsIn_map_sweep (made : List Sweep) :
    eventsIn (made.map .sweep) = made.flatMap Sweep.events :=
  List.flatMap_map ..

/-- Sweeps tell of as many sweeps as they are. -/
theorem told_sweeps (made : List Sweep) :
    told .sweep (made.flatMap Sweep.events) = made.length := by
  induction made with
  | nil => rfl
  | cons sweep rest ih =>
    rw [List.flatMap_cons, told_append, ih, told_sweep_events, List.length_cons, Nat.add_comm]

/-- A run records its start, its sweeps and, if it succeeds, its end with their number. -/
theorem trace_run {passages : List Passage} (chronicle : Chronicle plan passages s)
    (ordered : s.InOrder plan) :
    ∃ made : List Sweep, (s.run plan).2.trace =
        s.trace ++ .schedulerStarted s.registry.size s.config.timeSlice.micros ::
          (made.flatMap Sweep.events ++ runEnding (s.run plan).1) ∧
      ∀ summary, (s.run plan).1 = .ok summary →
        summary.sweeps = told .sweep (made.flatMap Sweep.events) := by
  have start : Step plan s
      (s.record (.schedulerStarted s.registry.size s.config.timeSlice.micros)) := .remark s rfl
  have started : Chronicle plan _
      (s.record (.schedulerStarted s.registry.size s.config.timeSlice.micros)) :=
    chronicle_remark chronicle ordered.coherent rfl
  have ordered' := Steps.inOrder (.single start) ordered
  obtain ⟨made, after, counts⟩ := chronicle_sweepUntilDone started ordered' rfl
  have swept := after.trace
  rw [eventsIn_append, ← started.trace, trace_record, eventsIn_map_sweep, List.append_assoc,
    List.singleton_append] at swept
  refine ⟨made, ?_⟩
  unfold run
  simp only
  split
  · rename_i error last failed
    rw [failed] at swept
    refine ⟨?_, nofun⟩
    rw [swept, runEnding, List.append_nil]
  · rename_i sweeps last done
    rw [done] at swept counts
    refine ⟨?_, ?_⟩
    · rw [trace_record, swept, runEnding, List.append_assoc, List.cons_append]
    · rintro summary ⟨⟩
      rw [counts sweeps rfl, Nat.zero_add, told_sweeps]

/-- The trace between calls follows the grammar. Its brackets are the dispatches of the scheduler's
life, those without an end are the ones whose context broke down, and a bracket follows those of
its own task. All the way the incomplete tasks are those that the trace admits and does not
complete. A run begins with one event and, exactly if it succeeds, ends with another, which gives
the number of sweeps between the two. -/
theorem trace_wellFormed (plan : Plan) (config : Config) (calls : List Call) :
    (∃ passages, (after plan config calls).trace = eventsIn passages ∧
      Successive Passage.Follows passages ∧
      Successive Bracket.Follows (bracketsIn passages) ∧
      (bracketsIn passages).map Bracket.entry = (after plan config calls).dispatches plan) ∧
    (∀ s, Steps plan (new config) s →
      s.registry.incompleteCount + told .completion s.trace = told .admission s.trace) ∧
    (∃ made : List Sweep, ((after plan config calls).run plan).2.trace =
        (after plan config calls).trace ++
          .schedulerStarted (after plan config calls).registry.size config.timeSlice.micros ::
            (made.flatMap Sweep.events ++ runEnding ((after plan config calls).run plan).1) ∧
      ∀ summary, ((after plan config calls).run plan).1 = .ok summary →
        summary.sweeps = told .sweep (made.flatMap Sweep.events)) := by
  have ordered := (steps_after plan config calls).inOrder (inOrder_new plan config)
  have kept : (after plan config calls).config = config :=
    Steps.config (steps_after plan config calls)
  obtain ⟨passages, chronicle⟩ := (strides_after plan config calls).chronicled
  refine ⟨?_, ?_, ?_⟩
  · exact ⟨_, chronicle.trace, chronicle.successive, chronicle.bracketed.successive,
      chronicle.bracketed.entries⟩
  · intro s steps
    exact (steps.inOrder (inOrder_new plan config)).balanced.incomplete
  · have recorded := trace_run chronicle ordered
    rwa [kept] at recorded

end TimeShare.Scheduler
