import Mathlib.Algebra.Group.Nat.Defs
import TimeShare.Proofs.Config.Environment
import TimeShare.Proofs.Scheduler.Admission
import TimeShare.Proofs.Scheduler.Chronicle
import TimeShare.Proofs.Scheduler.Forecast
import TimeShare.Proofs.Scheduler.Outcome
import TimeShare.Proofs.Session.Loading

/-!
# Sessions by their stages

A session for some files takes its configuration, loads the files, admits their
programs and runs them, and what fails first ends it.

* `admitted`: the scheduler of a session to which all programs have been offered.
  `roll_admitted`, `trace_admitted`: the first of them have the places, and the
  others were refused.
* `run_of_fault`, `run_of_unloadable`, `run_of_loads`: a session that ends before
  it has a scheduler, and one that its scheduler's run decides.
* `Scheduled`: what comes of a session whose scheduler runs.
-/

namespace TimeShare.Session

open Config (FirstFault)
open Scheduler (sweepTimes after)

/-- What a journal tells of tasks. -/
def events (entries : List Entry) : List Event :=
  entries.filterMap Entry.event?

/-- The scheduler of a session to which all programs have been offered. -/
def admitted (config : Config) (programs : List Program) : Scheduler :=
  ((Scheduler.new config).submitAll (ranked programs)).2

/-- No context of a session with these programs breaks down. -/
def Undisturbed (plan : Plan) (config : Config) (programs : List Program) : Prop :=
  ((admitted config programs).run plan).2.Unbroken plan

/-- What comes of a session whose scheduler runs: what its journal tells of tasks, and its end. -/
structure Scheduled (plan : Plan) (config : Config) (programs : List Program)
    (trace : List Event) (ending : Except SessionError Summary) : Prop where
  /-- There are as many tasks as there are programs and places. -/
  size : (admitted config programs).registry.size = min programs.length config.capacity.toNat
  /-- The task at a place has the place as its identifier, the program that was offered there, and
  as its priority the number of programs from there on. -/
  enrolled : ∀ place program, place < config.capacity.toNat → programs[place]? = some program →
    ∃ entry, (admitted config programs).registry.roll[place]? = some entry ∧
      entry.id.toNat = place ∧ entry.priority.toInt = programs.length - place ∧
        entry.program = program
  /-- The tasks are admitted in order, the other programs refused, and then the run begins. -/
  begins : ∃ more, trace =
    (admitted config programs).registry.roll.map Enrollment.event ++
      List.replicate (programs.length - config.capacity.toNat)
        (.admissionRejected config.capacity.toNat) ++
      .schedulerStarted (admitted config programs).registry.size config.timeSlice.micros :: more
  /-- The session fails just if there is a limit and a task is incomplete after as many sweeps. -/
  failed : ∀ error, ending = .error error ↔ ∃ limit, config.maxSweeps = some limit ∧
    (sweepTimes plan limit.toNat (admitted config programs)).registry.incompleteCount ≠ 0 ∧
      error = .scheduler (.sweepLimit limit.toNat
        (sweepTimes plan limit.toNat (admitted config programs)).registry.incompleteCount)
  /-- Else it reports on the tasks, in order, that all are complete and have what their programs
  leave when they run alone. -/
  finished : (∀ limit, config.maxSweeps = some limit →
      (sweepTimes plan limit.toNat (admitted config programs)).registry.incompleteCount = 0) →
    ∃ summary, ending = .ok summary ∧
      summary.tasks.length = min programs.length config.capacity.toNat ∧
        ∀ place program, place < config.capacity.toNat → programs[place]? = some program →
          ∃ snapshot, summary.tasks[place]? = some snapshot ∧
            snapshot.Reports place (programs.length - place)
              (Processor.fresh.run program Processor.neverRaised)

variable {plan : Plan} {lookup : String → Option String} {files : List File} {config : Config}
  {programs : List Program}

/-! ## Admission -/

/-- What a session has admitted is what a life of one call has. -/
theorem admitted_eq_after (plan : Plan) (config : Config) (programs : List Program) :
    admitted config programs = after plan config [.submitAll (ranked programs)] :=
  rfl

/-- A new scheduler has as many places as its capacity says, if there are so many identifiers. -/
theorem room_eq_min (config : Config) :
    (Scheduler.new config).registry.room = min config.capacity.toNat taskIdCount :=
  rfl

theorem take_room (config : Config) {α : Type} {offers : List α}
    (few : offers.length ≤ taskIdCount) :
    offers.take (Scheduler.new config).registry.room = offers.take config.capacity.toNat := by
  rw [room_eq_min, ← List.take_take, List.take_of_length_le few]

/-- The first programs have the places, as many as there are, in order. -/
theorem roll_admitted (config : Config) (few : programs.length ≤ taskIdCount) :
    (admitted config programs).registry.roll =
      enroll 0 ((ranked programs).take config.capacity.toNat) := by
  -- Without a sweep the plan does not matter.
  have admits := Scheduler.admits_after (fun _ => .none) config [.submitAll (ranked programs)]
  rw [← take_room config (by rwa [length_ranked]), admitted_eq_after, admits.roll,
    List.flatMap_singleton]
  rfl

theorem size_admitted (config : Config) (few : programs.length ≤ taskIdCount) :
    (admitted config programs).registry.size = min programs.length config.capacity.toNat := by
  rw [← Registry.length_roll, roll_admitted config few, length_enroll, List.length_take,
    length_ranked, Nat.min_comm]

/-- The program at a place becomes a task under that number. -/
theorem exists_enrollment {place : Nat} {program : Program} (few : programs.length < 2 ^ 31)
    (within : place < config.capacity.toNat) (offered : programs[place]? = some program) :
    ∃ entry, (admitted config programs).registry.roll[place]? = some entry ∧
      entry.id.toNat = place ∧ entry.priority.toInt = programs.length - place ∧
        entry.program = program := by
  have inside := (List.getElem?_eq_some_iff.1 offered).1
  have count : taskIdCount = 2 ^ 32 := rfl
  refine ⟨⟨UInt32.ofNat place, Int32.ofNat (programs.length - place), program⟩, ?_, ?_, ?_, rfl⟩
  · rw [roll_admitted config (by omega), getElem?_enroll, List.getElem?_take_of_lt within,
      getElem?_ranked, offered, Nat.zero_add]
    rfl
  · exact UInt32.toNat_ofNat_of_lt' (show place < taskIdCount by omega)
  · rw [Int32.toInt_ofNat_of_lt (by omega)]
    omega

/-- The trace tells of the admissions and then of the refusals. -/
theorem trace_admitted (config : Config) (few : programs.length ≤ taskIdCount) :
    (admitted config programs).trace =
      (admitted config programs).registry.roll.map Enrollment.event ++
        List.replicate (programs.length - config.capacity.toNat)
          (.admissionRejected config.capacity.toNat) := by
  have trace := Scheduler.trace_submitEach (ranked programs) (.new config)
  have surplus : programs.length - (Scheduler.new config).registry.room =
      programs.length - config.capacity.toNat := by
    rw [room_eq_min]
    omega
  rw [roll_admitted config few, admitted, Scheduler.trace_submitAll, trace, length_ranked, surplus,
    take_room config (by rwa [length_ranked])]
  rfl

/-! ## Stages -/

/-- A session with a faulty environment ends at once. -/
theorem run_of_fault {error : ConfigError} (plan : Plan) (files : List File)
    (fault : FirstFault lookup error) :
    run plan lookup files =
      ([.notice (.logStarted (logsRecords lookup))], .error (.config error)) := by
  rw [run, fault.ofEnvironment_eq]

/-- A session ends with the first file that does not load. -/
theorem run_of_unloadable {error : LoadError} (plan : Plan)
    (made : Config.ofEnvironment lookup = .ok config) (named : files ≠ [])
    (unloadable : FirstUnloadable files error) :
    events (run plan lookup files).1 = [] ∧
      (run plan lookup files).2 = .error (.load error) := by
  have loading : load files = ((loadFiles files).1, .error error) := by
    rw [load_of_ne_nil named, ← loadFiles_of_unloadable unloadable]
  rw [run, made]
  dsimp only
  rw [loading]
  refine ⟨?_, rfl⟩
  rw [events, List.filterMap_append, events_loadFiles]
  rfl

/-- With a configuration and programs it is the scheduler's run that decides. -/
theorem run_of_loads (plan : Plan) (made : Config.ofEnvironment lookup = .ok config)
    (named : files ≠ []) (loads : Loads files programs) :
    events (run plan lookup files).1 = ((admitted config programs).run plan).2.trace ∧
      (run plan lookup files).2 =
        ((admitted config programs).run plan).1.mapError .scheduler := by
  have loading : load files = ((loadFiles files).1, .ok (ranked programs)) := by
    rw [load_of_ne_nil named, ← loadFiles_of_loads loads]
  have passes : config.validate = .ok () := if_neg (Config.capacity_ne_zero made)
  have scheduled : schedule plan config (ranked programs) =
      (((admitted config programs).run plan).2.journal.toList,
        ((admitted config programs).run plan).1.mapError .scheduler) := by
    rw [schedule, Scheduler.build, passes]
    rfl
  rw [run, made]
  dsimp only
  rw [loading]
  dsimp only
  rw [scheduled]
  refine ⟨?_, rfl⟩
  rw [events, List.filterMap_append, List.filterMap_append, events_loadFiles]
  rfl

/-! ## Runs -/

theorem config_admitted (config : Config) (programs : List Program) :
    (admitted config programs).config = config :=
  Scheduler.Steps.config
    (Scheduler.steps_after (fun _ => .none) config [.submitAll (ranked programs)])

/-- The run of a session begins behind the admissions and the refusals. -/
theorem trace_run_admitted (plan : Plan) (config : Config) (few : programs.length ≤ taskIdCount) :
    ∃ more, ((admitted config programs).run plan).2.trace =
      (admitted config programs).registry.roll.map Enrollment.event ++
        List.replicate (programs.length - config.capacity.toNat)
          (.admissionRejected config.capacity.toNat) ++
        .schedulerStarted (admitted config programs).registry.size config.timeSlice.micros ::
          more := by
  have strides := Scheduler.strides_after plan config [.submitAll (ranked programs)]
  have ordered := (Scheduler.Strides.steps strides).inOrder (Scheduler.inOrder_new plan config)
  obtain ⟨_, chronicle⟩ := strides.chronicled
  obtain ⟨_, trace, _⟩ := Scheduler.trace_run chronicle ordered
  rw [← admitted_eq_after, config_admitted, trace_admitted config few] at trace
  exact ⟨_, trace⟩

theorem coherent_admitted (config : Config) (programs : List Program) :
    (admitted config programs).Coherent :=
  Scheduler.coherent_after (fun _ => .none) config [.submitAll (ranked programs)]

theorem lostOnlyByContext_admitted (plan : Plan) (config : Config) (programs : List Program) :
    (admitted config programs).LostOnlyByContext plan :=
  Scheduler.lostOnlyByContext_after plan config [.submitAll (ranked programs)]

/-- The run of a session fails just if the limit on sweeps leaves a task incomplete. -/
theorem mapError_run_eq_error_iff {error : SessionError}
    (undisturbed : Undisturbed plan config programs) :
    ((admitted config programs).run plan).1.mapError .scheduler = .error error ↔
      ∃ limit, config.maxSweeps = some limit ∧
        (sweepTimes plan limit.toNat (admitted config programs)).registry.incompleteCount ≠ 0 ∧
          error = .scheduler (.sweepLimit limit.toNat
            (sweepTimes plan limit.toNat (admitted config programs)).registry.incompleteCount) := by
  have fails := Scheduler.run_eq_error_iff (coherent_admitted config programs)
    (lostOnlyByContext_admitted plan config programs) undisturbed
  rw [config_admitted] at fails
  constructor
  · intro failed
    cases result : ((admitted config programs).run plan).1 with
    | ok summary =>
      rw [result] at failed
      cases failed
    | error inner =>
      obtain ⟨limit, set, left, rfl⟩ := (fails inner).1 result
      rw [result] at failed
      exact ⟨limit, set, left, (Except.error.inj failed).symm⟩
  · rintro ⟨limit, set, left, rfl⟩
    rw [(fails _).2 ⟨limit, set, left, rfl⟩]
    rfl

/-- A run that succeeds reports on the tasks that were admitted, in order. -/
theorem tasks_of_run {summary : Summary} (few : programs.length < 2 ^ 31)
    (succeeds : ((admitted config programs).run plan).1 = .ok summary) :
    summary.tasks.length = (admitted config programs).registry.size ∧
      ∀ place program, place < config.capacity.toNat → programs[place]? = some program →
        ∃ snapshot, summary.tasks[place]? = some snapshot ∧
          snapshot.Reports place (programs.length - place)
            (Processor.fresh.run program Processor.neverRaised) := by
  obtain ⟨tasks, completed⟩ := Scheduler.finished_of_run (Prod.ext succeeds rfl)
  have kept := Scheduler.keeps_run plan (admitted config programs)
  have strides : Scheduler.Strides plan _ ((admitted config programs).run plan).2 :=
    Scheduler.strides_run (admitted config programs)
  have coherent := Scheduler.Steps.coherent strides.steps (coherent_admitted config programs)
  refine ⟨?_, fun place program within offered => ?_⟩
  · rw [tasks, Registry.snapshots, List.length_map, Array.length_toList, ← Registry.size, kept.size]
  · obtain ⟨entry, enrolled, id, priority, rfl⟩ := exists_enrollment few within offered
    rw [← kept.roll] at enrolled
    have reported := Scheduler.reports_of_completed coherent completed enrolled
    rw [id, priority, ← tasks] at reported
    exact reported

/-- What a session's scheduler makes of its programs if no context breaks down. -/
theorem scheduled_admitted (few : programs.length < 2 ^ 31)
    (undisturbed : Undisturbed plan config programs) :
    Scheduled plan config programs ((admitted config programs).run plan).2.trace
      (((admitted config programs).run plan).1.mapError .scheduler) := by
  have count : taskIdCount = 2 ^ 32 := rfl
  have fits : programs.length ≤ taskIdCount := by omega
  have size := size_admitted config fits
  constructor
  case size => exact size
  case enrolled => exact fun _ _ within offered => exists_enrollment few within offered
  case begins => exact trace_run_admitted plan config fits
  case failed => exact fun _ => mapError_run_eq_error_iff undisturbed
  case finished =>
    intro enough
    cases result : ((admitted config programs).run plan).1 with
    | error error =>
      have failed : ((admitted config programs).run plan).1.mapError SessionError.scheduler =
          .error (.scheduler error) := by
        rw [result]
        rfl
      obtain ⟨limit, set, left, _⟩ := (mapError_run_eq_error_iff undisturbed).1 failed
      exact absurd (enough limit set) left
    | ok summary =>
      refine ⟨summary, rfl, ?_⟩
      rw [← size]
      exact tasks_of_run few result

end TimeShare.Session
