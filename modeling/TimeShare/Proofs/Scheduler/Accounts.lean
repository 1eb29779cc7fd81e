import TimeShare.Proofs.Processor.Records
import TimeShare.Proofs.Scheduler.Dispatches

/-!
# What the statistics count

The counters go up at different moments of a dispatch, and a context may break
down between them. `account` is what they should show, by the trace and by what
the contexts recorded that came back; `Step.counted` says that every step keeps
them so, up to their width.
-/

namespace TimeShare

/-- What an event of the scheduler tells of. -/
inductive Event.Kind
  | admission
  | sweep
  | dispatch
  | preemption
  | completion
  | other
  deriving DecidableEq

def Event.kind : Event → Kind
  | taskAdmitted .. => .admission
  | sweepStarted .. => .sweep
  | taskDispatched .. => .dispatch
  | taskPreempted .. => .preemption
  | taskCompleted .. => .completion
  | _ => .other

/-- The counters of the statistics. -/
inductive Counter
  | sweeps
  | dispatches
  | preemptions
  | completions
  | instructions
  | faults (fault : Fault)

def Statistics.get (statistics : Statistics) : Counter → UInt64
  | .sweeps => statistics.sweeps
  | .dispatches => statistics.dispatches
  | .preemptions => statistics.preemptions
  | .completions => statistics.completions
  | .instructions => statistics.instructions
  | .faults .unknownOpcode => statistics.unknownOpcodes
  | .faults .stackOverflow => statistics.stackOverflows
  | .faults .stackUnderflow => statistics.stackUnderflows

namespace Scheduler

open Processor (executedIn faultsIn)

/-- How many events of a kind there are. -/
def told (kind : Event.Kind) (events : List Event) : Nat :=
  events.countP fun event => event.kind = kind

/-- What the contexts recorded that came back. -/
def joinedRecords (dispatches : List (Dispatch × Bool)) : List Processor.Event :=
  (dispatches.filter fun entry => !entry.2).flatMap fun entry => entry.1.recorded

/-- What a counter should show. -/
def account (trace : List Event) (dispatches : List (Dispatch × Bool)) : Counter → Nat
  | .sweeps => told .sweep trace
  | .dispatches => told .dispatch trace
  | .preemptions => told .preemption trace
  | .completions => told .completion trace
  | .instructions => executedIn (joinedRecords dispatches)
  | .faults fault => faultsIn fault (joinedRecords dispatches)

@[simp] theorem told_nil (kind : Event.Kind) : told kind [] = 0 := rfl

@[simp] theorem joinedRecords_nil : joinedRecords [] = [] := rfl

@[simp] theorem told_append (kind : Event.Kind) (first second : List Event) :
    told kind (first ++ second) = told kind first + told kind second :=
  List.countP_append ..

@[simp] theorem told_cons (kind : Event.Kind) (event : Event) (events : List Event) :
    told kind (event :: events) = told kind events + if event.kind = kind then 1 else 0 := by
  rw [told, List.countP_cons, told]
  simp only [decide_eq_true_eq]

/-- What a context records is of no kind that the scheduler counts. -/
@[simp] theorem told_map_ran (kind : Event.Kind) (task : TaskId) (events : List Processor.Event) :
    told kind (events.map (.ran task)) = if Event.Kind.other = kind then events.length else 0 := by
  induction events with
  | nil => simp [told]
  | cons event rest ih =>
    rw [List.map_cons, told_cons, ih]
    cases kind <;> rfl

@[simp] theorem joinedRecords_cons (dispatch : Dispatch) (broken : Bool)
    (dispatches : List (Dispatch × Bool)) :
    joinedRecords ((dispatch, broken) :: dispatches) =
      (if broken then [] else dispatch.recorded) ++ joinedRecords dispatches := by
  cases broken <;> simp [joinedRecords]

theorem joinedRecords_append (first second : List (Dispatch × Bool)) :
    joinedRecords (first ++ second) = joinedRecords first ++ joinedRecords second := by
  rw [joinedRecords, List.filter_append, List.flatMap_append, joinedRecords, joinedRecords]

theorem account_append (trace more : List Event) (dispatches further : List (Dispatch × Bool))
    (counter : Counter) :
    account (trace ++ more) (dispatches ++ further) counter =
      account trace dispatches counter + account more further counter := by
  cases counter with
  | sweeps => exact told_append _ _ _
  | dispatches => exact told_append _ _ _
  | preemptions => exact told_append _ _ _
  | completions => exact told_append _ _ _
  | instructions => rw [account, joinedRecords_append, Processor.executedIn_append]; rfl
  | faults fault => rw [account, joinedRecords_append, Processor.faultsIn_append]; rfl

variable {plan : Plan} {s s' : Scheduler}

/-! ## The counters -/

/-- The counters show what they should, up to their width. -/
def Counted (plan : Plan) (s : Scheduler) : Prop :=
  ∀ counter, s.statistics.get counter =
    UInt64.ofNat (account s.trace (s.dispatches plan) counter)

theorem kind_of_isRemark {event : Event} (remark : event.isRemark = true) :
    event.kind = .other := by
  cases event <;> first | rfl | cases remark

theorem account_split (more : List Event) (further : List (Dispatch × Bool)) (counter : Counter) :
    account more further counter = account more [] counter + account [] further counter := by
  have split := account_append more [] [] further counter
  rwa [List.append_nil, List.nil_append] at split

theorem account_events (first second : List Event) (counter : Counter) :
    account (first ++ second) [] counter = account first [] counter + account second [] counter :=
  account_append first second [] [] counter

/-! ### What each operation adds -/

/-- An event without a counter adds nothing. -/
theorem account_of_kind {event : Event} (aside : event.kind = .admission ∨ event.kind = .other)
    (counter : Counter) : account [event] [] counter = 0 := by
  rcases aside with kind | kind <;> cases counter <;> simp [account, kind]

/-- What a context records adds nothing by itself. -/
theorem account_map_ran (task : TaskId) (events : List Processor.Event) (counter : Counter) :
    account (events.map (.ran task)) [] counter = 0 := by
  cases counter <;> simp [account]

theorem account_lost (dispatch : Dispatch) (counter : Counter) :
    account [] [(dispatch, true)] counter = 0 := by
  cases counter <;> simp [account]

theorem get_countSweep (statistics : Statistics) (sweep incomplete : Nat) (counter : Counter) :
    statistics.countSweep.get counter =
      statistics.get counter + UInt64.ofNat (account [.sweepStarted sweep incomplete] [] counter)
    := by
  rcases counter with _ | _ | _ | _ | _ | fault
  case faults => cases fault <;> exact (UInt64.add_zero _).symm
  all_goals simp [account, Event.kind, Statistics.get, Statistics.countSweep]

theorem get_countDispatch (statistics : Statistics) (task : TaskId) (priority : Int32) (pc : Nat)
    (counter : Counter) :
    statistics.countDispatch.get counter =
      statistics.get counter + UInt64.ofNat (account [.taskDispatched task priority pc] [] counter)
    := by
  rcases counter with _ | _ | _ | _ | _ | fault
  case faults => cases fault <;> exact (UInt64.add_zero _).symm
  all_goals simp [account, Event.kind, Statistics.get, Statistics.countDispatch]

theorem get_countExit (statistics : Statistics) (task : TaskId) (run : Processor.Run)
    (counter : Counter) :
    (statistics.countExit run.report.exit).get counter =
      statistics.get counter + UInt64.ofNat (account [closing task run] [] counter) := by
  rw [Statistics.countExit, closing]
  split
  · rcases counter with _ | _ | _ | _ | _ | fault
    case faults => cases fault <;> exact (UInt64.add_zero _).symm
    all_goals simp [account, Event.kind, Statistics.get, Statistics.countCompletion]
  · rcases counter with _ | _ | _ | _ | _ | fault
    case faults => cases fault <;> exact (UInt64.add_zero _).symm
    all_goals simp [account, Event.kind, Statistics.get, Statistics.countPreemption]

/-- The report of a run counts what its context recorded. -/
theorem get_countRun (statistics : Statistics) {program : Program} {poll : Nat → Bool}
    {executed : Nat} {processor : Processor} {run : Processor.Run}
    (loop : Processor.Loop program poll executed processor run) (task : TaskId) (pc : Nat)
    (counter : Counter) :
    (statistics.countRun run.report).get counter =
      statistics.get counter +
        UInt64.ofNat (account [] [(⟨task, pc, run.events⟩, false)] counter) := by
  obtain ⟨retired, faulted⟩ := loop.records
  cases counter with
  | instructions =>
    simp only [account, joinedRecords_cons, joinedRecords_nil, Bool.false_eq_true, if_false,
      List.append_nil, ← retired]
    rfl
  | faults fault =>
    simp only [account, joinedRecords_cons, joinedRecords_nil, Bool.false_eq_true, if_false,
      List.append_nil, ← faulted]
    cases fault <;> rfl
  | _ => exact (UInt64.add_zero _).symm

/-! ### What each step adds -/

/-- What a step adds to the trace and to the dispatches is what it adds to the counters. -/
theorem Step.adds (step : Step plan s s') (coherent : s.Coherent) :
    ∃ more further, s'.trace = s.trace ++ more ∧
      s'.dispatches plan = s.dispatches plan ++ further ∧
      ∀ counter, s'.statistics.get counter =
        s.statistics.get counter + UInt64.ofNat (account more further counter) := by
  have whole := step
  have quiet : s'.dispatchLog = s.dispatchLog →
      s'.dispatches plan = s.dispatches plan ++ [] := by
    intro log
    rw [dispatches_quiet whole coherent log, List.append_nil]
  have still : ∀ count : UInt64, count = count + UInt64.ofNat 0 :=
    fun count => (UInt64.add_zero count).symm
  cases step with
  | note notice =>
    refine ⟨[], [], by rw [trace_note, List.append_nil], quiet (dispatchLog_note s notice), ?_⟩
    intro counter
    cases counter <;> exact still _
  | @remark event remark =>
    refine ⟨[event], [], trace_record s event, quiet (dispatchLog_remark s remark), ?_⟩
    intro counter
    rw [account_of_kind (.inr (kind_of_isRemark remark))]
    exact still _
  | enroll inserted =>
    refine ⟨_, [], trace_record _ _, quiet (dispatchLog_enroll _ _ _ _ _), ?_⟩
    intro counter
    rw [account_of_kind (.inl rfl)]
    exact still _
  | openSweep =>
    refine ⟨_, [], trace_openSweep s, quiet (dispatchLog_openSweep s), ?_⟩
    intro counter
    rw [statistics_openSweep]
    exact get_countSweep _ _ _ _
  | @lose id task begun processor recorded found incomplete began lost =>
    refine ⟨[.taskDispatched begun.id begun.priority processor.pc] ++ recorded.map (.ran begun.id),
      _, ?_, dispatches_lose coherent found incomplete began lost, ?_⟩
    · rw [trace_recordRun, trace_handOver, List.append_assoc]
    · intro counter
      rw [statistics_recordRun, statistics_handOver,
        get_countDispatch _ begun.id begun.priority processor.pc, account_split (_ ++ _),
        account_lost, account_events, account_map_ran, Nat.add_zero]
  | @join id task begun processor run raised found incomplete began joined =>
    refine ⟨[.taskDispatched begun.id begun.priority processor.pc] ++
        (run.events.map (.ran begun.id) ++ [closing begun.id run]),
      _, ?_, dispatches_join coherent found incomplete began joined, ?_⟩
    · rw [trace_close, trace_handOver, List.append_assoc]
    -- The dispatch was counted when it began, its report and its end when the context came back.
    · obtain ⟨poll, rfl⟩ := exists_run_of_carryOut_eq_joined joined
      have loop := Processor.loop_run begun.program poll processor
      intro counter
      rw [statistics_close, statistics_handOver, get_countExit _ begun.id,
        get_countRun _ loop begun.id processor.pc,
        get_countDispatch _ begun.id begun.priority processor.pc, account_split (_ ++ _),
        account_events, account_events, account_map_ran, Nat.zero_add, UInt64.ofNat_add,
        UInt64.ofNat_add]
      ac_rfl

theorem Step.counted (step : Step plan s s') (coherent : s.Coherent) (before : s.Counted plan) :
    s'.Counted plan := by
  obtain ⟨more, further, trace, dispatches, adds⟩ := step.adds coherent
  intro counter
  rw [adds, before, trace, dispatches, account_append, UInt64.ofNat_add]

theorem counted_new (plan : Plan) (config : Config) : (new config).Counted plan := by
  rintro (_ | _ | _ | _ | _ | fault)
  case faults => cases fault <;> rfl
  all_goals rfl

end Scheduler

end TimeShare
