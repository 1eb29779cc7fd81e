import TimeShare.Config.Basic
import TimeShare.Scheduler.Error
import TimeShare.Scheduler.Statistics
import TimeShare.Trace.Journal

/-!
# Schedulers and admission

A scheduler owns a registry of tasks, counts what it does and keeps a journal.
This module sets one up and admits tasks. A task that finds the registry full is
refused, which is recorded and changes nothing else. A source that does not load
is refused before anything is recorded.
-/

namespace TimeShare

/-- A round-robin scheduler. -/
structure Scheduler where
  config : Config
  registry : Registry
  statistics : Statistics
  /-- Everything recorded so far, in order. -/
  journal : Array Entry

namespace Scheduler

def new (config : Config) : Scheduler :=
  { config
    registry := .empty config.capacity.toNat
    statistics := .zero (UInt64.ofNat config.timeSlice.micros)
    journal := #[.notice (.schedulerReady config.capacity.toNat config.timeSlice.micros)] }

/-- A new scheduler, if the configuration is valid. -/
def build (config : Config) : Except ConfigError Scheduler :=
  config.validate.map fun _ => new config

def record (s : Scheduler) (event : Event) : Scheduler :=
  { s with journal := s.journal.push (.event event) }

def note (s : Scheduler) (notice : Notice) : Scheduler :=
  { s with journal := s.journal.push (.notice notice) }

/-- Records what the processor of a task recorded. -/
def recordRun (s : Scheduler) (task : TaskId) (events : List Processor.Event) : Scheduler :=
  { s with journal := s.journal.appendList (events.map fun event => .event (.ran task event)) }

def trace (s : Scheduler) : List Event :=
  s.journal.toList.filterMap Entry.event?

def isFinished (s : Scheduler) : Bool :=
  s.registry.incompleteCount = 0

/-! ## Admission -/

/-- The journal's words on a task that was admitted. -/
def recordAdmission (s : Scheduler) (task : TaskId) (priority : Int32) (program : Program) :
    Scheduler :=
  let recorded :=
    (s.note (.taskRegistered task priority)).record (.taskAdmitted task priority program.size)
  if program.halts then recorded else recorded.note (.noHalt task)

def submit (s : Scheduler) (priority : Int32) (program : Program) :
    Except AdmissionError TaskId × Scheduler :=
  match s.registry.insert priority program with
  | .ok (task, registry) =>
    (.ok task, { s with registry }.recordAdmission task priority program)
  | .error error => (.error error, s.record (.admissionRejected s.registry.capacity))

/-- Admits a list of programs, giving the tasks admitted and the number refused. -/
def submitEach : List (Int32 × Program) → Scheduler → (List TaskId × Nat) × Scheduler
  | [], s => (([], 0), s)
  | (priority, program) :: rest, s =>
    match s.submit priority program with
    | (.ok task, s) =>
      let ((tasks, refused), s) := submitEach rest s
      ((task :: tasks, refused), s)
    | (.error _, s) =>
      let ((tasks, refused), s) := submitEach rest s
      ((tasks, refused + 1), s)

/-- Admits programs as long as there is room, and gives notice if some were refused. -/
def submitAll (s : Scheduler) (programs : List (Int32 × Program)) : List TaskId × Scheduler :=
  let ((tasks, refused), s) := submitEach programs s
  if refused = 0 then
    (tasks, s)
  else
    (tasks, s.note (.programsDropped tasks.length refused s.registry.capacity))

/-- Loads a program from a string and admits it. -/
def submitSource (s : Scheduler) (priority : Int32) (source : String) :
    Except SchedulerError TaskId × Scheduler :=
  match Program.ofString source with
  | .error error => (.error (.load error), s)
  | .ok program =>
    let (admitted, s) := s.submit priority program
    (admitted.mapError .admission, s)

end Scheduler

end TimeShare
