import TimeShare.Proofs.Scheduler.Observer

/-!
# Scheduling without priorities

`Observer.withoutPriority` sees everything but the priorities of tasks.
`priority_independent` says that priorities go nowhere but into the reports of
them: lives whose admissions differ in nothing but priorities cannot be told
apart once the priorities are taken out of tasks, snapshots and events.

* `Task.begin_withoutPriority`: a task is dispatched as if it had another priority.
* `Call.SameButPriority.sameCall`: such calls look the same without priorities.
-/

namespace TimeShare

/-! ## Taking priorities out -/

def Task.withoutPriority (task : Task) : Task :=
  { task with priority := 0 }

def Snapshot.withoutPriority (snapshot : Snapshot) : Snapshot :=
  { snapshot with priority := 0 }

def Event.withoutPriority : Event → Event
  | taskAdmitted task _ instructions => taskAdmitted task 0 instructions
  | taskDispatched task _ pc => taskDispatched task 0 pc
  | event => event

def Summary.withoutPriority (summary : Summary) : Summary :=
  { summary with tasks := summary.tasks.map Snapshot.withoutPriority }

/-- An answer without the priorities that it reports; only a finished run reports any. -/
def Scheduler.Answer.withoutPriority : Scheduler.Answer → Scheduler.Answer
  | ran result => ran (result.map Summary.withoutPriority)
  | answer => answer

/-- Two calls differ in nothing but the priorities of the programs that they offer. -/
inductive Call.SameButPriority : Call → Call → Prop
  | submit (priority priority' : Int32) (program : Program) :
    SameButPriority (.submit priority program) (.submit priority' program)
  | submitSource (priority priority' : Int32) (source : String) :
    SameButPriority (.submitSource priority source) (.submitSource priority' source)
  | submitAll {programs programs' : List (Int32 × Program)} :
    programs.map Prod.snd = programs'.map Prod.snd →
    SameButPriority (.submitAll programs) (.submitAll programs')
  | sweep : SameButPriority .sweep .sweep
  | run : SameButPriority .run .run

/-! ## An observer without priorities -/

section Observer

variable {first second : Task}

/-- Tasks that differ in nothing but priorities agree in whatever has nothing to do with them. -/
theorem Task.eq_of_withoutPriority {β : Type} {f : Task → β}
    (same : first.withoutPriority = second.withoutPriority)
    (blind : ∀ task : Task, f task.withoutPriority = f task) : f first = f second := by
  rw [← blind first, same, blind]

theorem Task.finish_withoutPriority (task : Task) (processor : Processor) (exit : Exit)
    (raised : Bool) :
    (task.finish processor exit raised).withoutPriority =
      task.withoutPriority.finish processor exit raised := rfl

/-- A dispatch begins alike whatever the priority is. -/
theorem Task.begin_withoutPriority (same : first.withoutPriority = second.withoutPriority) :
    (first.begin?.map fun handed => (handed.1, handed.2.withoutPriority)) =
      second.begin?.map fun handed => (handed.1, handed.2.withoutPriority) := by
  have handed : ∀ task : Task, task.withoutPriority.begin? =
      task.begin?.map fun handed => (handed.1, handed.2.withoutPriority) := by
    intro task
    rw [begin?, begin?, Option.map_map]
    rfl
  rw [← handed, ← handed, same]

end Observer

/-- One who sees everything but priorities. -/
def Observer.withoutPriority : Observer Task where
  task := Task.withoutPriority
  event event := some event.withoutPriority
  snapshot := Snapshot.withoutPriority
  loadError error := error
  id same := Task.eq_of_withoutPriority same fun _ => rfl
  isCompleted same := Task.eq_of_withoutPriority same fun _ => rfl
  dispatches same := Task.eq_of_withoutPriority same fun _ => rfl
  snapshot_eq same := congrArg Task.snapshot same
  unavailable := by
    intro first second same gone
    have begins := Task.begin_withoutPriority same
    rwa [gone, Option.map_none, eq_comm, Option.map_eq_none_iff] at begins
  dispatch := by
    intro first second processor begun same began
    have begins := Task.begin_withoutPriority same
    rw [began, Option.map_some, eq_comm, Option.map_eq_some_iff] at begins
    obtain ⟨⟨_, begun'⟩, began', handed⟩ := begins
    obtain ⟨rfl, alike'⟩ := Prod.mk.inj handed
    have alike : begun.withoutPriority = begun'.withoutPriority := alike'.symm
    have id : begun.id = begun'.id := Task.eq_of_withoutPriority alike fun _ => rfl
    have program : begun.program = begun'.program :=
      Task.eq_of_withoutPriority alike fun _ => rfl
    refine ⟨_, begun', began', ?_, fun interruption => ?_⟩
    · rw [Event.withoutPriority, Event.withoutPriority, id]
    · rw [program]
      -- The contexts are the same, so whatever they leave is.
      cases interruption.carryOut begun'.program _ with
      | lost recorded =>
        refine .lost alike ?_
        rw [id]
      | joined run raised =>
        refine .joined rfl ?_ ?_ ?_
        · rw [Task.finish_withoutPriority, alike, Task.finish_withoutPriority]
        · rw [id]
        · rw [id]

/-- What is seen of an answer without priorities is the answer without them. -/
theorem Observer.answer_withoutPriority (answer : Scheduler.Answer) :
    Observer.withoutPriority.answer answer = answer.withoutPriority := by
  cases answer with
  | admitted result =>
    rcases result with (_ | _ | _ | _ | _) | _ <;> rfl
  | admittedAll tasks => rfl
  | swept result => rfl
  | ran result => rfl

/-- A program is admitted alike whatever its priority is. -/
theorem sameAdmission_withoutPriority (priority priority' : Int32) (program : Program) :
    Observer.withoutPriority.SameAdmission (priority, program) (priority', program) :=
  fun _ => ⟨rfl, rfl⟩

theorem Call.SameButPriority.sameCall {call call' : Call} (same : call.SameButPriority call') :
    Observer.withoutPriority.SameCall call call' := by
  cases same with
  | submit priority priority' program =>
    exact .submit (sameAdmission_withoutPriority priority priority' program)
  | submitSource priority priority' source =>
    cases loaded : Program.ofString source with
    | error error => exact .unloadable loaded loaded rfl
    | ok program =>
      exact .submitSource loaded loaded (sameAdmission_withoutPriority priority priority' program)
  | submitAll same =>
    refine .submitAll ?_
    rw [← List.forall₂_eq_eq_eq, List.forall₂_map_left_iff, List.forall₂_map_right_iff] at same
    refine same.imp ?_
    rintro ⟨priority, program⟩ ⟨priority', _⟩ rfl
    exact sameAdmission_withoutPriority priority priority' program
  | sweep => exact .sweep
  | run => exact .run

namespace Scheduler

/-! ## Two lives -/

/-- Two schedulers differ in nothing but priorities. -/
structure SameButPriority (s t : Scheduler) : Prop where
  tasks : s.registry.tasks.toList.map Task.withoutPriority =
    t.registry.tasks.toList.map Task.withoutPriority
  snapshots : s.registry.snapshots.map Snapshot.withoutPriority =
    t.registry.snapshots.map Snapshot.withoutPriority
  statistics : s.statistics = t.statistics
  trace : s.trace.map Event.withoutPriority = t.trace.map Event.withoutPriority

theorem Agree.sameButPriority {s t : Scheduler} (agree : Agree Observer.withoutPriority s t) :
    SameButPriority s t where
  tasks := agree.tasks.tasks
  snapshots := agree.tasks.snapshots
  statistics := agree.statistics
  trace := by
    rw [← List.filterMap_eq_map]
    exact agree.trace

/-- Two lives whose admissions differ in nothing but priorities differ in nothing but priorities
after every call, and so do the answers to their calls. -/
theorem priority_independent (plan : Plan) (config : Config) {calls calls' : List Call}
    (same : List.Forall₂ Call.SameButPriority calls calls') :
    (answers plan config calls).map Answer.withoutPriority =
        (answers plan config calls').map Answer.withoutPriority ∧
      ∀ count, SameButPriority (after plan config (calls.take count))
        (after plan config (calls'.take count)) := by
  have sameCalls : List.Forall₂ Observer.withoutPriority.SameCall calls calls' :=
    same.imp fun _ _ => Call.SameButPriority.sameCall
  refine ⟨?_, fun count => ?_⟩
  · have answers := (agree_after Observer.withoutPriority plan config sameCalls).1
    rwa [funext Observer.answer_withoutPriority] at answers
  · exact (agree_after Observer.withoutPriority plan config
      (List.forall₂_take count sameCalls)).2.sameButPriority

/-- Six programs with two priorities, the last of which finds the registry full. -/
def rankedCalls (first second : Int32) : List Call :=
  [.submit first pushPop, .submit second pushPop, .submitAll (List.replicate 4 (second, endPush)),
    .sweep, .run]

/-- Two lives with the priorities exchanged lose the same context; their snapshots differ. -/
theorem priority_independent_lossy :
    (∀ count, SameButPriority (after lossyPlan .standard ((rankedCalls 1 9).take count))
        (after lossyPlan .standard ((rankedCalls 9 1).take count))) ∧
      (after lossyPlan .standard (rankedCalls 1 9)).registry.snapshots ≠
        (after lossyPlan .standard (rankedCalls 9 1)).registry.snapshots := by
  have same : List.Forall₂ Call.SameButPriority (rankedCalls 1 9) (rankedCalls 9 1) :=
    .cons (.submit 1 9 pushPop) (.cons (.submit 9 1 pushPop)
      (.cons (.submitAll rfl) (.cons .sweep (.cons .run .nil))))
  exact ⟨(priority_independent lossyPlan .standard same).2, by decide +kernel⟩

end Scheduler

end TimeShare
