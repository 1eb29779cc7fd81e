import TimeShare.Scheduler.Sweep

/-!
# Running until every task is complete

A run makes sweeps until no task is incomplete, unless a sweep fails or the
configured number of sweeps is used up; a run may be repeated and goes on where
the last one stopped. The limit counts the sweeps of one run only, and a run
with nothing to do never meets it.

The recursion ends because a sweep that succeeds leaves less work.
-/

namespace TimeShare

/-- What a finished run reports. -/
structure Summary where
  /-- The number of sweeps that the run made. -/
  sweeps : Nat
  tasks : List Snapshot
  statistics : Statistics
  deriving DecidableEq

namespace Summary

def allCompleted (summary : Summary) : Bool :=
  summary.tasks.all (·.completed)

def allHalted (summary : Summary) : Bool :=
  summary.tasks.all fun task => task.exit = some .halted

end Summary

namespace Scheduler

/-- The limit of a run that may make no further sweep after so many. -/
def usedUp (limit : Option UInt64) (sweeps : Nat) : Option UInt64 :=
  limit.filter fun limit => limit.toNat ≤ sweeps

/-- Makes sweeps until no task is incomplete, giving their number; `sweeps` were made before. -/
def sweepUntilDone (plan : Plan) (sweeps : Nat) (s : Scheduler) :
    Except SchedulerError Nat × Scheduler :=
  if s.registry.incompleteCount = 0 then
    (.ok sweeps, s)
  else
    match usedUp s.config.maxSweeps sweeps with
    | some limit =>
      (.error (.sweepLimit limit.toNat s.registry.incompleteCount),
        s.note (.sweepLimitReached limit.toNat s.registry.incompleteCount))
    | none =>
      match made : sweep plan s with
      | (.error error, s) => (.error error, s)
      | (.ok _, s) => sweepUntilDone plan (sweeps + 1) s
termination_by s.registry.work
decreasing_by exact work_sweep_lt made (by assumption)

/-- Runs until no task is incomplete. -/
def run (plan : Plan) (s : Scheduler) : Except SchedulerError Summary × Scheduler :=
  let s := s.record (.schedulerStarted s.registry.size s.config.timeSlice.micros)
  match sweepUntilDone plan 0 s with
  | (.error error, s) => (.error error, s)
  | (.ok sweeps, s) =>
    let s := s.record (.allCompleted sweeps)
    (.ok ⟨sweeps, s.registry.snapshots, s.statistics⟩, s)

end Scheduler

end TimeShare
