import TimeShare.Scheduler.Run

/-!
# Sessions

A session is what the command line does: it takes its configuration from the
environment, loads the program files named by its arguments, admits them as tasks
and runs until all are complete. Earlier files have higher priorities. Without
arguments it runs a demonstration.

A session stops at the first error. Programs beyond the capacity are dropped and
do not stop it.
-/

namespace TimeShare

/-- Why a session stopped. -/
inductive SessionError
  | config (error : ConfigError)
  | load (error : LoadError)
  | scheduler (error : SchedulerError)
  deriving DecidableEq, Repr

namespace SessionError

def message : SessionError → String
  | config error => error.message
  | load error => error.message
  | scheduler error => error.message

def code : SessionError → String
  | config error => error.code
  | load error => error.code
  | scheduler error => error.code

/-- The advice that goes with a session error, if there is any. -/
def help : SessionError → Option String
  | config error => error.help
  | load error => some error.help
  | scheduler error => error.help

end SessionError

namespace Session

/-- The variable that sets the levels of the log. -/
def levelVariable : String := "RUST_LOG"

/-- The variable that asks for a log of records. -/
def recordVariable : String := "VCPU_TRACE_JSON"

/-- Whether the log is one of records. -/
def logsRecords (lookup : String → Option String) : Bool :=
  lookup recordVariable = some "1" || lookup recordVariable = some "true"

/-- The levels that the log shows. -/
def levelFilter (lookup : String → Option String) : LevelFilter :=
  .ofSetting (lookup levelVariable)

/-- The sources of the demonstration with their priorities. -/
def demonstration : List (Int32 × String) :=
  [(3, "LOAD R0, 10\nLOAD R1, 20\nADD R2, R0, R1\nPUSH R2\nPOP R3\nHALT"),
    (1, "LOAD R0, 50\nLOAD R1, 5\nSUB R2, R0, R1\nHALT"),
    (2, "LOAD R0, 100\nLOAD R1, 4\nMUL R2, R0, R1\nHALT")]

def loadDemonstration :
    List (Int32 × String) → Except LoadError (List (Int32 × Program))
  | [] => .ok []
  | (priority, source) :: rest => do
    let program ← Program.ofString source
    let programs ← loadDemonstration rest
    return (priority, program) :: programs

/-- Loads program files in order; a file's priority is the number of files from it on. -/
def loadFiles :
    List (String × Program.FileContents) → List Entry × Except LoadError (List (Int32 × Program))
  | [] => ([], .ok [])
  | (path, contents) :: rest =>
    match Program.ofFile path contents with
    | .error error => ([], .error error)
    | .ok program =>
      let (entries, programs) := loadFiles rest
      let priority := Int32.ofNat (rest.length + 1)
      (.notice (.programLoaded path program.size) :: entries,
        programs.map ((priority, program) :: ·))

def load (files : List (String × Program.FileContents)) :
    List Entry × Except LoadError (List (Int32 × Program)) :=
  match files with
  | [] => ([.notice .demonstration], loadDemonstration demonstration)
  | files => loadFiles files

/-- Admits programs to a new scheduler and runs it. -/
def schedule (plan : Plan) (config : Config) (programs : List (Int32 × Program)) :
    List Entry × Except SessionError Summary :=
  match Scheduler.build config with
  | .error error => ([], .error (.config error))
  | .ok s =>
    let (_, s) := s.submitAll programs
    let (summary, s) := s.run plan
    (s.journal.toList, summary.mapError .scheduler)

/-- A session: what its journal says and how it ends. -/
def run (plan : Plan) (lookup : String → Option String)
    (files : List (String × Program.FileContents)) : List Entry × Except SessionError Summary :=
  let started : Entry := .notice (.logStarted (logsRecords lookup))
  match Config.ofEnvironment lookup with
  | .error error => ([started], .error (.config error))
  | .ok config =>
    let opening : List Entry :=
      [started, .notice (.sessionStarted config.capacity.toNat config.timeSlice.duration.millis)]
    match load files with
    | (loading, .error error) => (opening ++ loading, .error (.load error))
    | (loading, .ok programs) =>
      let (entries, ending) := schedule plan config programs
      (opening ++ loading ++ entries, ending)

end Session

end TimeShare
