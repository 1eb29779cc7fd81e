import TimeShare.Proofs.Scheduler.Observer

/-!
# Flags between dispatches

The flag of a task stays raised after the slice that raised it, and may be raised
or cleared from outside while no context polls it. None of this matters: a
dispatch clears the flag before its context polls it, and nothing else reads it.
`stale_flags_inert` says so of two lives with different flags, and of the flags
themselves as soon as a task has been dispatched.

* `dispatchPolling`: a dispatch whose context polls the flag of its task;
  `dispatch_eq_dispatchPolling`: every dispatch is one.
* `Observer.flags`: one who sees everything but flags, or the flags of some tasks
  from some dispatch on.
* `agree_moves`: to such a one a life with changes of flags from outside looks
  like the life without them.
-/

namespace TimeShare

/-- A task with its flag cleared. -/
def Task.lowered (task : Task) : Task :=
  { task with raised := false }

/-- What may happen to a scheduler: a call, or a change of a task's flag from outside. -/
inductive Move
  | call (call : Call)
  | setFlag (task : TaskId) (raised : Bool)

def Move.call? : Move → Option Call
  | call made => some made
  | setFlag _ _ => none

/-! ## What a context sees of the flag -/

namespace Interruption

/-- The flag after a number of instructions of a context that found it raised or not. -/
def flagFrom (raised : Bool) (interruption : Interruption) (n : Nat) : Bool :=
  raised || interruption.poll n

/-- Runs a program in a context that polls a flag which is raised already or not. -/
def carryOutFrom (raised : Bool) (interruption : Interruption) (program : Program)
    (processor : Processor) : ContextEnd :=
  let run := processor.run program (interruption.flagFrom raised)
  let joined := ContextEnd.joined run (interruption.flagFrom raised run.report.retired)
  match interruption with
  | none => joined
  | expiry _ => joined
  | breakdown executed further =>
    match recordedBefore executed further run.events with
    | some recorded => .lost recorded
    | Option.none => joined

/-- A context that finds the flag cleared sees no more of it than its slice's end. -/
theorem carryOutFrom_false (interruption : Interruption) (program : Program)
    (processor : Processor) :
    interruption.carryOutFrom false program processor =
      interruption.carryOut program processor := by
  have cleared : interruption.flagFrom false = interruption.poll := by
    funext n
    exact Bool.false_or _
  unfold carryOutFrom
  rw [cleared]
  cases interruption <;> rfl

end Interruption

namespace Scheduler

/-- A dispatch whose context polls the flag of the task as it was handed over. -/
def dispatchPolling (interruption : Interruption) (id : TaskId) (s : Scheduler) :
    Except SchedulerError Exit × Scheduler :=
  match s.registry.get? id with
  | none => (.error (.dispatch id SchedulerError.unknownTask), s)
  | some task =>
    match task.begin? with
    | none => (.error (.dispatch id SchedulerError.stateLost), s)
    | some (processor, task) =>
      let s := s.handOver processor task
      match interruption.carryOutFrom task.raised task.program processor with
      | .lost recorded =>
        (.error (.dispatch id SchedulerError.contextBroken), s.recordRun task.id recorded)
      | .joined run raised => (.ok run.report.exit, s.close task run raised)

/-- The flag is cleared before a context polls it. -/
theorem dispatch_eq_dispatchPolling (interruption : Interruption) (id : TaskId) (s : Scheduler) :
    dispatch interruption id s = dispatchPolling interruption id s := by
  unfold dispatch dispatchPolling
  cases s.registry.get? id with
  | none => rfl
  | some task =>
    dsimp only
    cases began : task.begin? with
    | none => rfl
    | some handed =>
      obtain ⟨processor, begun⟩ := handed
      obtain ⟨_, rfl⟩ := Task.begin?_eq_some_iff.1 began
      cases carried : interruption.carryOut task.program processor <;>
        simp only [Interruption.carryOutFrom_false, carried]

end Scheduler

/-! ## An observer without flags -/

/-- A dispatch begins alike whether the flag is raised or not. -/
theorem Task.begin?_lowered (task : Task) : task.lowered.begin? = task.begin? := rfl

/-- What is seen of a task if its flag is seen after some dispatches only. -/
def Task.flagged (sees : TaskId → Nat → Bool) (task : Task) : Task :=
  if sees task.id task.dispatches then task else task.lowered

section Flagged

variable {sees : TaskId → Nat → Bool} {first second : Task}

theorem Task.lowered_flagged (sees : TaskId → Nat → Bool) (task : Task) :
    (task.flagged sees).lowered = task.lowered := by
  rw [flagged]
  split <;> rfl

theorem Task.flagged_eq_lowered {task : Task} (unseen : sees task.id task.dispatches = false) :
    task.flagged sees = task.lowered :=
  if_neg (by rw [unseen]; exact Bool.false_ne_true)

/-- Tasks that look the same differ in nothing but their flags. -/
theorem Task.lowered_eq (same : first.flagged sees = second.flagged sees) :
    first.lowered = second.lowered := by
  rw [← lowered_flagged sees, same, lowered_flagged]

/-- Whatever has nothing to do with flags is the same of tasks that look the same. -/
theorem Task.eq_of_flagged {β : Type} {f : Task → β}
    (same : first.flagged sees = second.flagged sees)
    (blind : ∀ task : Task, f task.lowered = f task) : f first = f second := by
  rw [← blind first, lowered_eq same, blind]

end Flagged

/-- One who sees everything but flags, and the flag of a task after so many dispatches as `sees`
says. -/
def Observer.flags (sees : TaskId → Nat → Bool) : Observer Task where
  task := Task.flagged sees
  event := some
  snapshot snapshot := snapshot
  loadError error := error
  id same := Task.eq_of_flagged same fun _ => rfl
  isCompleted same := Task.eq_of_flagged same fun _ => rfl
  dispatches same := Task.eq_of_flagged same fun _ => rfl
  snapshot_eq same := Task.eq_of_flagged same fun _ => rfl
  unavailable same gone := (Task.eq_of_flagged same Task.begin?_lowered).symm.trans gone
  dispatch := by
    intro first second processor begun same began
    have began' := (Task.eq_of_flagged same Task.begin?_lowered).symm.trans began
    refine ⟨processor, begun, began', rfl, fun interruption => ?_⟩
    cases interruption.carryOut begun.program processor with
    | lost recorded => exact .lost rfl rfl
    | joined run raised => exact .joined rfl rfl rfl rfl

/-- Flags are no part of an answer. -/
theorem Observer.answer_flags (sees : TaskId → Nat → Bool) (answer : Scheduler.Answer) :
    (Observer.flags sees).answer answer = answer := by
  cases answer with
  | admitted result => rcases result with (_ | _ | _) | _ <;> rfl
  | admittedAll tasks => rfl
  | swept result => rfl
  | ran result =>
    cases result with
    | error error => rfl
    | ok summary =>
      have same : (Observer.flags sees).summary summary = summary := by
        rw [Observer.summary]
        exact congrArg (fun tasks => { summary with tasks }) (List.map_id _)
      rw [Observer.answer, Except.map, same]

/-- A call looks to everyone like itself. -/
theorem Observer.SameCall.refl {View : Type} (O : Observer View) (call : Call) :
    O.SameCall call call := by
  have admission : ∀ offer : Int32 × Program, O.SameAdmission offer offer := fun _ _ => ⟨rfl, rfl⟩
  cases call with
  | submit priority program => exact .submit (admission _)
  | submitSource priority source =>
    cases loaded : Program.ofString source with
    | error error => exact .unloadable loaded loaded rfl
    | ok program => exact .submitSource loaded loaded (admission _)
  | submitAll programs => exact .submitAll (List.forall₂_same.2 fun offer _ => admission offer)
  | sweep => exact .sweep
  | run => exact .run

namespace Scheduler

open Observer (SameTasks)

variable {View : Type} {O : Observer View} {plan : Plan} {s t u : Scheduler}
  {sees : TaskId → Nat → Bool}

theorem Agree.refl (s : Scheduler) : Agree O s s :=
  ⟨⟨rfl, rfl⟩, rfl, rfl⟩

theorem Agree.symm (agree : Agree O s t) : Agree O t s :=
  ⟨⟨agree.tasks.capacity.symm, agree.tasks.tasks.symm⟩, agree.statistics.symm, agree.trace.symm⟩

theorem Agree.trans (first : Agree O s t) (second : Agree O t u) : Agree O s u where
  tasks := ⟨first.tasks.capacity.trans second.tasks.capacity,
    first.tasks.tasks.trans second.tasks.tasks⟩
  statistics := first.statistics.trans second.statistics
  trace := first.trace.trans second.trace

/-! ## Changes of flags from outside -/

/-- Gives the flag of a task a value from outside. -/
def setFlag (s : Scheduler) (id : TaskId) (raised : Bool) : Scheduler :=
  { s with registry := s.registry.setFlag id raised }

def move (plan : Plan) (s : Scheduler) : Move → Scheduler
  | .call call => s.perform plan call
  | .setFlag id raised => s.setFlag id raised

/-- The state that some moves leave. -/
def moves (plan : Plan) (s : Scheduler) (moves : List Move) : Scheduler :=
  moves.foldl (move plan) s

/-- What a scheduler answers to the calls among some moves. -/
def answersAmong (plan : Plan) : List Move → Scheduler → List Answer
  | [], _ => []
  | .call call :: rest, s => s.answer plan call :: answersAmong plan rest (s.perform plan call)
  | .setFlag id raised :: rest, s => answersAmong plan rest (s.setFlag id raised)

theorem config_moves (plan : Plan) (s : Scheduler) (moves : List Move) :
    (s.moves plan moves).config = s.config := by
  induction moves generalizing s with
  | nil => rfl
  | cons head rest ih =>
    refine (ih _).trans ?_
    cases head with
    | call call => exact config_perform plan s call
    | setFlag id raised => rfl

/-- Where the flag of a task is not seen, a change of it is not seen either. -/
theorem agree_setFlag {id : TaskId} (unseen : ∀ dispatches, sees id dispatches = false)
    (s : Scheduler) (raised : Bool) : Agree (.flags sees) (s.setFlag id raised) s := by
  refine ⟨?_, rfl, rfl⟩
  rw [setFlag, Registry.setFlag]
  cases found : s.registry.get? id with
  | none => exact ⟨rfl, rfl⟩
  | some task =>
    obtain rfl := Registry.id_of_get? found
    refine ⟨rfl, Registry.map_set found ?_⟩
    have lowered : ∀ raised, Task.flagged sees { task with raised } = task.lowered :=
      fun _ => Task.flagged_eq_lowered (unseen task.dispatches)
    exact (lowered raised).trans (lowered task.raised).symm

/-- A life in which flags that are not seen change from outside looks like its calls alone. -/
theorem agree_calls (plan : Plan) {moves : List Move}
    (unseen : ∀ id raised, .setFlag id raised ∈ moves → ∀ dispatches, sees id dispatches = false)
    (agree : Agree (.flags sees) s t) (config : s.config = t.config) :
    answersAmong plan moves s = answerEach plan (moves.filterMap Move.call?) t ∧
      Agree (.flags sees) (s.moves plan moves)
        ((moves.filterMap Move.call?).foldl (Scheduler.perform plan) t) := by
  induction moves generalizing s t with
  | nil => exact ⟨rfl, agree⟩
  | cons head rest ih =>
    have later := fun id raised mem => unseen id raised (List.mem_cons_of_mem head mem)
    cases head with
    | call call =>
      obtain ⟨answer, agree'⟩ := agree.perform plan config (Observer.SameCall.refl _ call)
      rw [Observer.answer_flags, Observer.answer_flags] at answer
      have config' : (s.perform plan call).config = (t.perform plan call).config := by
        rw [config_perform, config_perform, config]
      obtain ⟨answers, agree''⟩ := ih later agree' config'
      refine ⟨?_, agree''⟩
      rw [answersAmong, answer, answers]
      rfl
    | setFlag id raised =>
      have aside := agree_setFlag (unseen id raised List.mem_cons_self) s raised
      exact ih later (aside.trans agree) config

/-- Two lives with the same calls, in which only flags that are not seen change from outside. -/
theorem agree_moves (plan : Plan) {first second : List Move}
    (calls : first.filterMap Move.call? = second.filterMap Move.call?)
    (unseen : ∀ id raised, .setFlag id raised ∈ first ++ second →
      ∀ dispatches, sees id dispatches = false)
    (agree : Agree (.flags sees) s t) (config : s.config = t.config) :
    answersAmong plan first s = answersAmong plan second t ∧
      Agree (.flags sees) (s.moves plan first) (t.moves plan second) := by
  have here := agree_calls plan
    (fun id raised mem => unseen id raised (List.mem_append_left _ mem)) agree config
  have there := agree_calls plan
    (fun id raised mem => unseen id raised (List.mem_append_right _ mem)) (Agree.refl t) rfl
  rw [← calls] at there
  exact ⟨here.1.trans there.1.symm, here.2.trans there.2.symm⟩

/-! ## Lives that differ in flags -/

/-- Two schedulers differ in nothing but flags. -/
structure SameButFlags (s t : Scheduler) : Prop where
  config : s.config = t.config
  capacity : s.registry.capacity = t.registry.capacity
  tasks : s.registry.tasks.toList.map Task.lowered = t.registry.tasks.toList.map Task.lowered
  statistics : s.statistics = t.statistics
  trace : s.trace = t.trace

/-- Schedulers that differ in nothing but flags look the same without the flags of their tasks. -/
theorem SameButFlags.agree (same : SameButFlags s t)
    (unseen : ∀ task ∈ s.registry.tasks, sees task.id task.dispatches = false) :
    Agree (.flags sees) s t := by
  have lowered : ∀ {registry : Registry},
      (∀ task ∈ registry.tasks, sees task.id task.dispatches = false) →
      registry.tasks.toList.map (Task.flagged sees) = registry.tasks.toList.map Task.lowered :=
    fun unseen => List.map_congr_left fun task mem =>
      Task.flagged_eq_lowered (unseen task (Array.mem_toList_iff.1 mem))
  have unseen' : ∀ task ∈ t.registry.tasks, sees task.id task.dispatches = false := by
    intro task mem
    have listed : task.lowered ∈ s.registry.tasks.toList.map Task.lowered := by
      rw [same.tasks]
      exact List.mem_map_of_mem (Array.mem_toList_iff.2 mem)
    obtain ⟨other, mem', alike⟩ := List.mem_map.1 listed
    have id : other.id = task.id := (congrArg Task.id alike :)
    have dispatches : other.dispatches = task.dispatches := (congrArg Task.dispatches alike :)
    rw [← id, ← dispatches]
    exact unseen other (Array.mem_toList_iff.1 mem')
  refine ⟨⟨same.capacity, ?_⟩, same.statistics, congrArg (List.filterMap some) same.trace⟩
  exact (lowered unseen).trans (same.tasks.trans (lowered unseen').symm)

/-- Schedulers that look the same without flags differ in nothing but flags. -/
theorem Agree.sameButFlags (agree : Agree (.flags sees) s t) (config : s.config = t.config) :
    SameButFlags s t where
  config := config
  capacity := agree.tasks.capacity
  tasks := Observer.map_eq_of_seen Task.lowered_eq agree.tasks.tasks
  statistics := agree.statistics
  trace := by
    have trace := agree.trace
    rwa [show (Observer.flags sees).event = some from rfl, List.filterMap_some,
      List.filterMap_some] at trace

/-- A change of a flag changes nothing else. -/
theorem sameButFlags_setFlag (s : Scheduler) (id : TaskId) (raised : Bool) :
    SameButFlags (s.setFlag id raised) s := by
  have blind : Agree (.flags fun _ _ => false) (s.setFlag id raised) s :=
    agree_setFlag (fun _ => rfl) s raised
  exact blind.sameButFlags rfl

/-- Two lives show no more of the flags they differ in. -/
structure Inert (plan : Plan) (s t : Scheduler) (first second : List Move) : Prop where
  /-- The calls are answered alike. -/
  answers : answersAmong plan first s = answersAmong plan second t
  /-- What is left differs in nothing but flags. -/
  states : SameButFlags (s.moves plan first) (t.moves plan second)
  /-- If both lives go on with the same calls and leave the flag of a task alone, then the task is
  the same in both, with its flag, as soon as it has been dispatched. -/
  flags : ∀ (id : TaskId) (later later' : List Move),
    later.filterMap Move.call? = later'.filterMap Move.call? →
    (∀ raised, .setFlag id raised ∉ later ++ later') →
    ∀ task, ((s.moves plan first).moves plan later).registry.get? id = some task →
    (∀ before, (s.moves plan first).registry.get? id = some before →
      before.dispatches < task.dispatches) →
    ((t.moves plan second).moves plan later').registry.get? id = some task

/-- Sees the flag of one task only, and only if the task has been dispatched since. -/
def seesSince (id : TaskId) (before : Option Task) (other : TaskId) (dispatches : Nat) : Bool :=
  other = id ∧ ∀ task ∈ before, task.dispatches < dispatches

theorem seesSince_eq_false {before : Option Task} {id other : TaskId} {dispatches : Nat}
    (aside : other = id → ∃ task ∈ before, dispatches ≤ task.dispatches) :
    seesSince id before other dispatches = false := by
  refine decide_eq_false ?_
  rintro ⟨here, since⟩
  obtain ⟨task, mem, earlier⟩ := aside here
  exact Nat.not_lt.2 earlier (since task mem)

/-- A task is the same in two lives, with its flag, if it has been dispatched since they began to
differ in flags. -/
theorem SameButFlags.get?_eq (same : SameButFlags s t) {first second : List Move} {id : TaskId}
    {task : Task} (calls : first.filterMap Move.call? = second.filterMap Move.call?)
    (alone : ∀ raised, .setFlag id raised ∉ first ++ second)
    (found : (s.moves plan first).registry.get? id = some task)
    (dispatched : ∀ before, s.registry.get? id = some before →
      before.dispatches < task.dispatches) :
    (t.moves plan second).registry.get? id = some task := by
  let sees := seesSince id (s.registry.get? id)
  have aside : ∀ other raised, .setFlag other raised ∈ first ++ second →
      ∀ dispatches, sees other dispatches = false := by
    intro other raised mem dispatches
    refine seesSince_eq_false ?_
    rintro rfl
    exact absurd mem (alone raised)
  have unseen : ∀ before ∈ s.registry.tasks, sees before.id before.dispatches = false := by
    intro before mem
    refine seesSince_eq_false fun here => ⟨before, ?_, Nat.le_refl _⟩
    rw [← here]
    exact Registry.get?_id_of_mem mem
  obtain ⟨_, agree⟩ := agree_moves plan calls aside (same.agree unseen) same.config
  have look := agree.tasks.get? id
  rw [found, Option.map_some, eq_comm, Option.map_eq_some_iff] at look
  obtain ⟨task', found', alike⟩ := look
  have whole : ∀ {seen : Task}, sees seen.id seen.dispatches = true → seen.flagged sees = seen :=
    fun visible => if_pos visible
  have visible : sees task.id task.dispatches = true :=
    decide_eq_true ⟨Registry.id_of_get? found, dispatched⟩
  have visible' : sees task'.id task'.dispatches = true := by
    rw [(Observer.flags sees).id alike, (Observer.flags sees).dispatches alike]
    exact visible
  rw [found', ← whole visible, ← whole visible']
  exact congrArg some alike

/-- Whatever flags are raised, and however they change between calls, nothing but flags depends on
it: a dispatch clears the flag of its task before the context polls it. -/
theorem stale_flags_inert (plan : Plan) {s t : Scheduler} (same : SameButFlags s t)
    {first second : List Move}
    (calls : first.filterMap Move.call? = second.filterMap Move.call?) :
    Inert plan s t first second ∧
      ∀ interruption id u, dispatch interruption id u = dispatchPolling interruption id u := by
  have blind : Agree (.flags fun _ _ => false) s t := same.agree fun _ _ => rfl
  obtain ⟨answers, agree⟩ := agree_moves plan calls (fun _ _ _ _ => rfl) blind same.config
  have config : (s.moves plan first).config = (t.moves plan second).config := by
    rw [config_moves, config_moves, same.config]
  have states := agree.sameButFlags config
  refine ⟨⟨answers, states, ?_⟩, dispatch_eq_dispatchPolling⟩
  intro id later later' calls' alone task found dispatched
  exact states.get?_eq calls' alone found dispatched

/-- The first task was stopped by its flag, which was cleared since in one life and not in the
other; in the other the flag of the second task is raised before the next sweep. -/
theorem stale_flags_inert_calm :
    ((after calmPlan .standard calmCalls).registry.get? 0).map Task.raised = some true ∧
      Inert calmPlan ((after calmPlan .standard calmCalls).setFlag 0 false)
        (after calmPlan .standard calmCalls) [.call .sweep] [.setFlag 1 true, .call .sweep] :=
  ⟨by decide +kernel,
    (stale_flags_inert calmPlan
      (sameButFlags_setFlag (after calmPlan .standard calmCalls) 0 false) (by rfl)).1⟩

end Scheduler

end TimeShare
