import TimeShare.Config.Error
import TimeShare.LoadError
import TimeShare.Task.Registry

/-!
# What can go wrong in a scheduler

Errors of loading, admission and configuration keep their code and advice; their
message is marked with where it came from.
-/

namespace TimeShare

/-- Why a scheduler could not do what it was asked for. -/
inductive SchedulerError
  | load (error : LoadError)
  | admission (error : AdmissionError)
  | config (error : ConfigError)
  /-- The context of a task broke down, or there was nothing to run: no such task, or one whose
  processor state was lost before. -/
  | dispatch (task : TaskId) (reason : String)
  /-- A run has made as many sweeps as it may and left some tasks incomplete. -/
  | sweepLimit (limit remaining : Nat)
  deriving DecidableEq, Repr

namespace SchedulerError

def message : SchedulerError → String
  | load error => s!"Program error: {error.message}"
  | admission error => s!"Admission error: {error.message}"
  | config error => s!"Configuration error: {error.message}"
  | dispatch task reason => s!"Execution context for task {task.toNat} failed: {reason}"
  | sweepLimit limit remaining =>
    s!"Sweep limit of {limit} reached with {remaining} task(s) incomplete"

def code : SchedulerError → String
  | load error => error.code
  | admission error => error.code
  | config error => error.code
  | dispatch .. => "kernel::dispatch_failed"
  | sweepLimit .. => "kernel::sweep_limit"

/-- The advice that goes with a scheduler error, if there is any. -/
def help : SchedulerError → Option String
  | load error => some error.help
  | admission error => some error.help
  | config error => error.help
  | dispatch .. =>
    some "The execution context panicked or was cancelled. The task's CPU state is lost."
  | sweepLimit .. => some "Raise VCPU_MAX_SWEEPS or unset it to run until every task completes."

/-- The reason given for an identifier that no task has. -/
def unknownTask : String := "unknown task"

/-- The reason given for a task whose processor state was lost before. -/
def stateLost : String := "CPU state unavailable"

/-- The reason given for a context that broke down; it stands for the words of the host. -/
def contextBroken : String := "<join error>"

end SchedulerError

end TimeShare
