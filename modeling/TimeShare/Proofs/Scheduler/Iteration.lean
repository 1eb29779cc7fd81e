import TimeShare.Proofs.Scheduler.Observer
import TimeShare.Proofs.Scheduler.Termination

/-!
# Runs are iterated sweeps

A run makes sweeps until no task is incomplete or its limit is used up, and the
next run goes on from there. `run_eq_sweeps` says that runs with and without
limits, one or several, come to what single sweeps come to.

* `Alike`: two states differ only in where runs began and ended, which an
  observer may overlook (`alike_iff_agree`).
  `Alike.sweep`: sweeps of such states have the same result and keep them so.
* `exists_finishesIn`: some number of sweeps completes all tasks.
* `sweepUntilDone_ok`, `sweepUntilDone_limit`: how a run's sweeps end.
-/

namespace TimeShare

/-- Whether an event tells of the beginning or the end of a run. -/
def Event.framesRun : Event → Bool
  | schedulerStarted _ _ => true
  | allCompleted _ => true
  | _ => false

namespace Scheduler

/-- The state after a number of sweeps. -/
def sweepTimes (plan : Plan) : Nat → Scheduler → Scheduler
  | 0, s => s
  | n + 1, s => sweepTimes plan n (s.sweep plan).2

/-- The same state under another limit on sweeps. -/
def limited (s : Scheduler) (limit : Option UInt64) : Scheduler :=
  { s with config := { s.config with maxSweeps := limit } }

/-- The state after runs under some limits, one after another. -/
def runEach (plan : Plan) (limits : List (Option UInt64)) (s : Scheduler) : Scheduler :=
  limits.foldl (fun s limit => ((s.limited limit).run plan).2) s

/-- What happened, apart from where runs began and ended. -/
def unframed (s : Scheduler) : List Event :=
  s.trace.filter fun event => !event.framesRun

/-- Two states have the same tasks and statistics, and traces that differ only in where runs began
and ended. -/
structure Alike (s t : Scheduler) : Prop where
  registry : s.registry = t.registry
  statistics : s.statistics = t.statistics
  unframed : s.unframed = t.unframed

variable {plan : Plan} {s s' t t' u : Scheduler}

/-! ## Alike states -/

theorem Alike.refl (s : Scheduler) : Alike s s :=
  ⟨rfl, rfl, rfl⟩

theorem Alike.symm (alike : Alike s t) : Alike t s :=
  ⟨alike.registry.symm, alike.statistics.symm, alike.unframed.symm⟩

theorem Alike.trans (first : Alike s t) (second : Alike t u) : Alike s u :=
  ⟨first.registry.trans second.registry, first.statistics.trans second.statistics,
    first.unframed.trans second.unframed⟩

theorem unframed_of_trace_append {more : List Event} (trace : s'.trace = s.trace ++ more) :
    s'.unframed = s.unframed ++ more.filter fun event => !event.framesRun := by
  rw [Scheduler.unframed, trace, List.filter_append, Scheduler.unframed]

theorem alike_limited (s : Scheduler) (limit : Option UInt64) : Alike (s.limited limit) s :=
  ⟨rfl, rfl, rfl⟩

theorem alike_note (s : Scheduler) (notice : Notice) : Alike (s.note notice) s where
  registry := rfl
  statistics := rfl
  unframed := by rw [Scheduler.unframed, trace_note, Scheduler.unframed]

theorem alike_frame (s : Scheduler) {event : Event} (frame : event.framesRun = true) :
    Alike (s.record event) s where
  registry := rfl
  statistics := rfl
  unframed := by
    rw [unframed_of_trace_append (trace_record s event), List.filter_cons_of_neg (by simp [frame]),
      List.filter_nil, List.append_nil]

/-- One who sees everything but where runs began and ended. -/
def unframing : Observer Task where
  task := id
  event := Option.guard fun event => !event.framesRun
  snapshot := id
  loadError := id
  id := congrArg Task.id
  isCompleted := congrArg Task.isCompleted
  dispatches := congrArg Task.dispatches
  snapshot_eq := congrArg Task.snapshot
  unavailable := by
    rintro task _ rfl began
    exact began
  dispatch := by
    rintro task _ processor begun rfl began
    refine ⟨processor, begun, began, rfl, fun interruption => ?_⟩
    cases interruption.carryOut begun.program processor with
    | lost recorded => exact .lost rfl rfl
    | joined run raised => exact .joined rfl rfl rfl rfl

/-- Alike states are those between which an observer sees no difference who does not see where runs
began and ended. -/
theorem alike_iff_agree : Alike s t ↔ Agree unframing s t := by
  have seen : ∀ u : Scheduler, u.trace.filterMap unframing.event = u.unframed :=
    fun u => congrFun List.filterMap_eq_filter u.trace
  constructor
  · intro alike
    refine ⟨⟨?_, ?_⟩, alike.statistics, ?_⟩
    · rw [alike.registry]
    · rw [alike.registry]
    · rw [seen, seen, alike.unframed]
  · intro agree
    refine ⟨?_, agree.statistics, ?_⟩
    · have tasks := agree.tasks.tasks
      rw [unframing, List.map_id, List.map_id] at tasks
      exact Registry.ext agree.tasks.capacity (Array.toList_inj.1 tasks)
    · rw [← seen, ← seen, agree.trace]

/-- Sweeps of alike states have the same result and leave alike states. -/
theorem Alike.sweep (plan : Plan) {result : Except SchedulerError (List (TaskId × Exit))}
    (alike : Alike s t) (h : s.sweep plan = (result, s')) :
    ∃ t', t.sweep plan = (result, t') ∧ Alike s' t' := by
  obtain ⟨t', swept, agree⟩ := (alike_iff_agree.1 alike).sweep plan h
  exact ⟨t', swept, alike_iff_agree.2 agree⟩

theorem Alike.sweepTimes (plan : Plan) (alike : Alike s t) (n : Nat) :
    Alike (sweepTimes plan n s) (sweepTimes plan n t) := by
  induction n generalizing s t with
  | zero => exact alike
  | succ n ih =>
    obtain ⟨t', swept, alike'⟩ := alike.sweep plan rfl
    rw [Scheduler.sweepTimes, Scheduler.sweepTimes, swept]
    exact ih alike'

theorem Alike.isFinished (alike : Alike s t) : s.isFinished = t.isFinished := by
  rw [Scheduler.isFinished, alike.registry, Scheduler.isFinished]

/-! ## Iterated sweeps -/

theorem sweepTimes_add (plan : Plan) (m n : Nat) (s : Scheduler) :
    sweepTimes plan (m + n) s = sweepTimes plan n (sweepTimes plan m s) := by
  induction m generalizing s with
  | zero => rw [Nat.zero_add, sweepTimes]
  | succ m ih => rw [Nat.succ_add, sweepTimes, ih, sweepTimes]

theorem isFinished_iff {s : Scheduler} :
    s.isFinished = true ↔ s.registry.incompleteCount = 0 :=
  decide_eq_true_iff

/-- Further sweeps of a finished scheduler do nothing. -/
theorem sweepTimes_of_finished (finished : s.isFinished = true) (n : Nat) :
    sweepTimes plan n s = s := by
  induction n with
  | zero => rfl
  | succ n ih => rw [sweepTimes, sweep_of_finished plan (isFinished_iff.1 finished), ih]

theorem steps_sweepTimes (n : Nat) (s : Scheduler) : Steps plan s (sweepTimes plan n s) := by
  induction n generalizing s with
  | zero => exact .refl
  | succ n ih => exact (steps_sweep s).trans (ih _)

/-- No sweep from a state on fails. -/
def Smooth (plan : Plan) (s : Scheduler) : Prop :=
  ∀ n, ∃ exits, ((sweepTimes plan n s).sweep plan).1 = .ok exits

/-- Sweeps fail only if a context breaks down or broke down. -/
theorem smooth_of_unbroken (coherent : s.Coherent) (lost : s.LostOnlyByContext plan)
    (unbroken : ∀ n, (sweepTimes plan n s).Unbroken plan) : s.Smooth plan := by
  intro n
  have steps : Steps plan s (sweepTimes plan n s) := steps_sweepTimes n s
  refine sweep_succeeds (steps.coherent coherent)
    (Steps.keep Step.lostOnlyByContext steps coherent lost) rfl ?_
  have next := unbroken (n + 1)
  rwa [sweepTimes_add] at next

theorem Smooth.sweepTimes (smooth : s.Smooth plan) (m : Nat) :
    (sweepTimes plan m s).Smooth plan := by
  intro n
  rw [← sweepTimes_add]
  exact smooth (m + n)

theorem Smooth.sweep (smooth : s.Smooth plan) : (s.sweep plan).2.Smooth plan :=
  smooth.sweepTimes 1

theorem Smooth.of_alike (smooth : s.Smooth plan) (alike : Alike s t) : t.Smooth plan := by
  intro n
  obtain ⟨exits, ok⟩ := smooth n
  obtain ⟨_, swept, _⟩ := (alike.sweepTimes plan n).sweep plan rfl
  rw [swept]
  exact ⟨exits, ok⟩

/-- So many sweeps complete all tasks, and no fewer. -/
def FinishesIn (plan : Plan) (s : Scheduler) (n : Nat) : Prop :=
  ∀ m, (sweepTimes plan m s).isFinished = true ↔ n ≤ m

theorem finishesIn_zero (finished : s.isFinished = true) : s.FinishesIn plan 0 := by
  intro m
  rw [sweepTimes_of_finished finished]
  exact iff_of_true finished (Nat.zero_le m)

/-- One sweep of a scheduler that is not finished is one of the sweeps that finish it. -/
theorem finishesIn_succ {n : Nat} (unfinished : s.isFinished = false) :
    s.FinishesIn plan (n + 1) ↔ (s.sweep plan).2.FinishesIn plan n := by
  constructor
  · intro finishes m
    exact (finishes (m + 1)).trans Nat.add_le_add_iff_right
  · intro finishes m
    cases m with
    | zero =>
      rw [sweepTimes, unfinished]
      exact iff_of_false Bool.false_ne_true (Nat.not_succ_le_zero n)
    | succ m => exact (finishes m).trans Nat.add_le_add_iff_right.symm

/-- Some number of sweeps completes all tasks, as each leaves less work. -/
theorem exists_finishesIn (smooth : s.Smooth plan) : ∃ n, s.FinishesIn plan n := by
  induction work : s.registry.work using Nat.strong_induction_on generalizing s with
  | h amount ih =>
    cases finished : s.isFinished with
    | true => exact ⟨0, finishesIn_zero finished⟩
    | false =>
      obtain ⟨exits, ok⟩ := smooth 0
      have left : s.registry.incompleteCount ≠ 0 := of_decide_eq_false finished
      have less : (s.sweep plan).2.registry.work < amount := by
        rw [← work]
        exact work_sweep_lt (Prod.ext ok rfl) left
      obtain ⟨n, finishes⟩ := ih _ less smooth.sweep rfl
      exact ⟨n + 1, (finishesIn_succ finished).2 finishes⟩

theorem FinishesIn.of_alike {n : Nat} (finishes : s.FinishesIn plan n) (alike : Alike s t) :
    t.FinishesIn plan n := by
  intro m
  rw [← (alike.sweepTimes plan m).isFinished]
  exact finishes m

theorem FinishesIn.unfinished {n m : Nat} (finishes : s.FinishesIn plan n) (early : m < n) :
    (sweepTimes plan m s).registry.incompleteCount ≠ 0 := by
  rw [Ne, ← isFinished_iff, finishes m]
  exact Nat.not_le_of_lt early

theorem FinishesIn.left {n : Nat} (finishes : s.FinishesIn plan n) (some_sweep : 0 < n) :
    s.registry.incompleteCount ≠ 0 :=
  finishes.unfinished some_sweep

/-! ## The sweeps of a run -/

/-- A run that is not finished and may go on makes one sweep and goes on. -/
theorem sweepUntilDone_step {made : Nat} (smooth : s.Smooth plan)
    (left : s.registry.incompleteCount ≠ 0) (free : usedUp s.config.maxSweeps made = none) :
    sweepUntilDone plan made s = sweepUntilDone plan (made + 1) (s.sweep plan).2 := by
  obtain ⟨exits, ok⟩ := smooth 0
  exact sweepUntilDone_of_ok left free (Prod.ext ok rfl)

theorem usedUp_eq_none {limit : Option UInt64} {made : Nat}
    (free : ∀ bound, limit = some bound → made < bound.toNat) : usedUp limit made = none := by
  cases limit with
  | none => rfl
  | some bound =>
    have less := Nat.not_le_of_lt (free bound rfl)
    rw [usedUp, Option.filter_some, if_neg (by simpa using less)]

/-- Within its limit a run makes the sweeps that complete all tasks. -/
theorem sweepUntilDone_ok (made : Nat) {n : Nat} (smooth : s.Smooth plan)
    (finishes : s.FinishesIn plan n)
    (within : ∀ bound, s.config.maxSweeps = some bound → made + n ≤ bound.toNat) :
    sweepUntilDone plan made s = (.ok (made + n), sweepTimes plan n s) := by
  induction n generalizing s made with
  | zero =>
    have finished : s.isFinished = true := (finishes 0).2 (Nat.le_refl 0)
    rw [sweepUntilDone, if_pos (isFinished_iff.1 finished), Nat.add_zero, sweepTimes]
  | succ n ih =>
    have left := finishes.left (Nat.succ_pos n)
    have finishes' := (finishesIn_succ (decide_eq_false left)).1 finishes
    have free : usedUp s.config.maxSweeps made = none := by
      refine usedUp_eq_none fun bound limit => ?_
      have room := within bound limit
      omega
    have within' : ∀ bound, (s.sweep plan).2.config.maxSweeps = some bound →
        made + 1 + n ≤ bound.toNat := by
      intro bound limit
      rw [config_sweep] at limit
      have room := within bound limit
      omega
    rw [sweepUntilDone_step smooth left free, ih (made + 1) smooth.sweep finishes' within',
      Nat.add_assoc, Nat.add_comm 1 n, sweepTimes]

/-- A run whose limit comes before the last sweep stops there. -/
theorem sweepUntilDone_limit (made : Nat) {m n : Nat} {bound : UInt64} (smooth : s.Smooth plan)
    (finishes : s.FinishesIn plan n) (limit : s.config.maxSweeps = some bound)
    (reaches : made + m = bound.toNat) (early : m < n) :
    sweepUntilDone plan made s =
      (.error (.sweepLimit bound.toNat (sweepTimes plan m s).registry.incompleteCount),
        (sweepTimes plan m s).note
          (.sweepLimitReached bound.toNat (sweepTimes plan m s).registry.incompleteCount)) := by
  have left := finishes.left (Nat.zero_lt_of_lt early)
  induction m generalizing s made n with
  | zero =>
    rw [Nat.add_zero] at reaches
    have used : usedUp s.config.maxSweeps made = some bound := by
      rw [limit, usedUp, Option.filter_some, if_pos (decide_eq_true (Nat.le_of_eq reaches.symm))]
    rw [sweepUntilDone, if_neg left, used, sweepTimes]
  | succ m ih =>
    have free : usedUp s.config.maxSweeps made = none := by
      refine usedUp_eq_none fun other same => ?_
      obtain rfl := Option.some.inj (limit.symm.trans same)
      omega
    obtain ⟨n, rfl⟩ := Nat.exists_eq_add_one_of_ne_zero (Nat.ne_zero_of_lt early)
    have finishes' := (finishesIn_succ (decide_eq_false left)).1 finishes
    have early' : m < n := Nat.lt_of_succ_lt_succ early
    have limit' : (s.sweep plan).2.config.maxSweeps = some bound := by rw [config_sweep, limit]
    have reaches' : made + 1 + m = bound.toNat := by omega
    rw [sweepUntilDone_step smooth left free,
      ih (made + 1) smooth.sweep finishes' limit' reaches' early'
        (finishes'.left (Nat.zero_lt_of_lt early')), sweepTimes]

/-! ## Runs -/

theorem run_of_ok {n : Nat} (done : sweepUntilDone plan 0
      (s.record (.schedulerStarted s.registry.size s.config.timeSlice.micros)) = (.ok n, s')) :
    s.run plan = (.ok ⟨n, s'.registry.snapshots, s'.statistics⟩, s'.record (.allCompleted n)) := by
  unfold run
  simp only [done]
  rfl

theorem run_of_error {error : SchedulerError} (failed : sweepUntilDone plan 0
      (s.record (.schedulerStarted s.registry.size s.config.timeSlice.micros)) =
        (.error error, s')) :
    s.run plan = (.error error, s') := by
  unfold run
  simp only [failed]

/-- A run of a finished scheduler only records its beginning and its end. -/
theorem run_of_finished (plan : Plan) (finished : s.isFinished = true) :
    s.run plan = (.ok ⟨0, s.registry.snapshots, s.statistics⟩,
      (s.record (.schedulerStarted s.registry.size s.config.timeSlice.micros)).record
        (.allCompleted 0)) := by
  have done : sweepUntilDone plan 0
      (s.record (.schedulerStarted s.registry.size s.config.timeSlice.micros)) =
        (.ok 0, s.record (.schedulerStarted s.registry.size s.config.timeSlice.micros)) := by
    rw [sweepUntilDone, registry_record, if_pos (isFinished_iff.1 finished)]
  exact run_of_ok done

/-- The state in which a run under a limit makes its sweeps is like the one before. -/
theorem alike_started (s : Scheduler) (limit : Option UInt64) :
    Alike s ((s.limited limit).record
      (.schedulerStarted s.registry.size s.config.timeSlice.micros)) :=
  ((alike_frame (s.limited limit) rfl).trans (alike_limited s limit)).symm

/-- A run within its limit comes to the sweeps that complete all tasks. -/
theorem run_within {n : Nat} (limit : Option UInt64) (smooth : s.Smooth plan)
    (finishes : s.FinishesIn plan n) (within : ∀ bound, limit = some bound → n ≤ bound.toNat) :
    ∃ s', (s.limited limit).run plan =
        (.ok ⟨n, (sweepTimes plan n s).registry.snapshots, (sweepTimes plan n s).statistics⟩, s') ∧
      Alike s' (sweepTimes plan n s) := by
  have alike := alike_started s limit
  have swept := alike.sweepTimes plan n
  have done := sweepUntilDone_ok 0 (smooth.of_alike alike) (finishes.of_alike alike)
    (by rwa [Nat.zero_add])
  rw [Nat.zero_add] at done
  have run := run_of_ok done
  rw [← swept.registry, ← swept.statistics] at run
  exact ⟨_, run, (alike_frame _ rfl).trans swept.symm⟩

/-- A run whose limit comes before the last sweep fails after as many sweeps as it may make. -/
theorem run_beyond {n : Nat} {bound : UInt64} (smooth : s.Smooth plan)
    (finishes : s.FinishesIn plan n) (beyond : bound.toNat < n) :
    ∃ s', (s.limited (some bound)).run plan = (.error (.sweepLimit bound.toNat
        (sweepTimes plan bound.toNat s).registry.incompleteCount), s') ∧
      Alike s' (sweepTimes plan bound.toNat s) := by
  have alike := alike_started s (some bound)
  have swept := alike.sweepTimes plan bound.toNat
  have failed := sweepUntilDone_limit 0 (smooth.of_alike alike)
    (finishes.of_alike alike) rfl (Nat.zero_add bound.toNat) beyond
  have run := run_of_error failed
  rw [← swept.registry] at run
  exact ⟨_, run, (alike_note _ _).trans swept.symm⟩

/-- Every run comes to some number of sweeps, and leaves no task incomplete if it succeeds. -/
theorem run_some (limit : Option UInt64) (smooth : s.Smooth plan) :
    ∃ k, Alike ((s.limited limit).run plan).2 (sweepTimes plan k s) ∧
      ∀ summary, ((s.limited limit).run plan).1 = .ok summary →
        (sweepTimes plan k s).isFinished = true := by
  obtain ⟨n, finishes⟩ := exists_finishesIn smooth
  by_cases within : ∀ bound, limit = some bound → n ≤ bound.toNat
  · obtain ⟨s', run, alike⟩ := run_within limit smooth finishes within
    rw [run]
    exact ⟨n, alike, fun _ _ => (finishes n).2 (Nat.le_refl n)⟩
  · push Not at within
    obtain ⟨bound, rfl, beyond⟩ := within
    obtain ⟨s', run, alike⟩ := run_beyond smooth finishes beyond
    rw [run]
    exact ⟨bound.toNat, alike, nofun⟩

theorem runEach_some (limits : List (Option UInt64)) (smooth : s.Smooth plan) :
    ∃ k, Alike (runEach plan limits s) (sweepTimes plan k s) := by
  induction limits generalizing s with
  | nil => exact ⟨0, .refl s⟩
  | cons limit rest ih =>
    obtain ⟨first, alike, _⟩ := run_some limit smooth
    obtain ⟨others, alike'⟩ := ih ((smooth.sweepTimes first).of_alike alike.symm)
    refine ⟨first + others, ?_⟩
    rw [sweepTimes_add]
    exact alike'.trans (alike.sweepTimes plan others)

/-- What runs come to from a state that so many sweeps finish. -/
structure RunsAsSweeps (plan : Plan) (s : Scheduler) (n : Nat) : Prop where
  finishes : ∀ m, (sweepTimes plan m s).isFinished = true ↔ n ≤ m
  within : ∀ limit, (∀ bound, limit = some bound → n ≤ bound.toNat) →
    ∃ s', (s.limited limit).run plan =
        (.ok ⟨n, (sweepTimes plan n s).registry.snapshots, (sweepTimes plan n s).statistics⟩, s') ∧
      Alike s' (sweepTimes plan n s)
  beyond : ∀ bound : UInt64, bound.toNat < n →
    1 ≤ (sweepTimes plan bound.toNat s).registry.incompleteCount ∧
      ∃ s', (s.limited (some bound)).run plan = (.error (.sweepLimit bound.toNat
          (sweepTimes plan bound.toNat s).registry.incompleteCount), s') ∧
        Alike s' (sweepTimes plan bound.toNat s)
  /-- Runs that end with a successful one come to one run without a limit. -/
  chained : ∀ limits last summary s',
    ((runEach plan limits s).limited last).run plan = (.ok summary, s') →
      Alike s' ((s.limited none).run plan).2

theorem runsAsSweeps {n : Nat} (smooth : s.Smooth plan) (finishes : s.FinishesIn plan n) :
    s.RunsAsSweeps plan n where
  finishes := finishes
  within := fun limit within => run_within limit smooth finishes within
  beyond := fun _ beyond =>
    ⟨Nat.one_le_iff_ne_zero.2 (finishes.unfinished beyond), run_beyond smooth finishes beyond⟩
  chained := by
    intro limits last summary s' run
    -- The chain comes to the sweeps of its last run after those of the earlier ones.
    obtain ⟨unlimited, whole, alike⟩ := run_within none smooth finishes nofun
    obtain ⟨earlier, before⟩ := runEach_some limits smooth
    obtain ⟨further, after, done⟩ :=
      run_some last ((smooth.sweepTimes earlier).of_alike before.symm)
    rw [run] at after done
    have finished := done summary rfl
    have joined := before.sweepTimes plan further
    rw [← sweepTimes_add] at joined
    rw [joined.isFinished, finishes] at finished
    -- The sweeps after the last task is complete do nothing.
    have same : sweepTimes plan (earlier + further) s = sweepTimes plan n s := by
      obtain ⟨idle, split⟩ := Nat.exists_eq_add_of_le finished
      rw [split, sweepTimes_add, sweepTimes_of_finished ((finishes n).2 (Nat.le_refl n))]
    rw [whole]
    rw [same] at joined
    exact after.trans (joined.trans alike.symm)

/-- Without a breakdown some number of sweeps completes all tasks, and runs come to sweeps: to
these, or to as many as their limit allows. A run of a finished scheduler changes nothing and
records its beginning and its end, whatever its limit. -/
theorem run_eq_sweeps (plan : Plan) (config : Config) (calls : List Call) :
    ((∀ n, (sweepTimes plan n (after plan config calls)).Unbroken plan) →
      ∃ n, (after plan config calls).RunsAsSweeps plan n) ∧
    ((after plan config calls).isFinished = true →
      ∀ limit, ((after plan config calls).limited limit).run plan =
        (.ok ⟨0, (after plan config calls).registry.snapshots,
            (after plan config calls).statistics⟩,
          (((after plan config calls).limited limit).record
            (.schedulerStarted (after plan config calls).registry.size
              config.timeSlice.micros)).record (.allCompleted 0))) := by
  have coherent := coherent_after plan config calls
  have lost := lostOnlyByContext_after plan config calls
  have kept : (after plan config calls).config = config :=
    Steps.config (steps_after plan config calls)
  refine ⟨?_, ?_⟩
  · intro unbroken
    have smooth := smooth_of_unbroken coherent lost unbroken
    obtain ⟨n, finishes⟩ := exists_finishesIn smooth
    exact ⟨n, runsAsSweeps smooth finishes⟩
  · intro finished limit
    have slice : ((after plan config calls).limited limit).config.timeSlice =
        config.timeSlice := by
      rw [limited, kept]
    have run : ((after plan config calls).limited limit).run plan = _ :=
      run_of_finished plan finished
    rw [slice] at run
    exact run

/-- A calm life goes on for two sweeps. A run that may make one of them stops with one task left,
and a scheduler without tasks runs under the limit zero. -/
theorem run_eq_sweeps_calm :
    (∃ s', ((after calmPlan .standard calmCalls).limited (some 1)).run calmPlan =
        (.error (.sweepLimit 1 1), s') ∧
      Alike s' (sweepTimes calmPlan 1 (after calmPlan .standard calmCalls))) ∧
    (((after calmPlan .standard []).limited (some 0)).run calmPlan).2.trace =
      [.schedulerStarted 0 2000000, .allCompleted 0] := by
  refine ⟨?_, ?_⟩
  · obtain ⟨n, runs⟩ := (run_eq_sweeps calmPlan .standard calmCalls).1
      fun n => unbroken_calmPlan _
    have more : ¬ n ≤ 1 := by
      rw [← runs.finishes]
      decide +kernel
    have left : (sweepTimes calmPlan 1
        (after calmPlan .standard calmCalls)).registry.incompleteCount = 1 := by
      decide +kernel
    obtain ⟨_, s', run, alike⟩ := runs.beyond 1 (Nat.lt_of_not_le more)
    rw [show (1 : UInt64).toNat = 1 from rfl, left] at run
    exact ⟨s', run, alike⟩
  · rw [(run_eq_sweeps calmPlan .standard []).2 rfl (some 0)]
    rfl

end Scheduler

end TimeShare
