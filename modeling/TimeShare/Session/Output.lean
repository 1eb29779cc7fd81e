import TimeShare.Record.Report
import TimeShare.Session

/-!
# What a session prints

A session prints its log and, if it ends well, the summary of its run. If it
fails it complains of its error and its exit code is not zero. All of this is
decided here; the command line only carries it out.

The report of an error has the error's code, its message and its advice, without
the signs and colours that a terminal may put around them.
-/

namespace TimeShare

/-- A line of a log as a record. -/
def LogLine.record (line : LogLine) : String :=
  Json.compact <| Json.object
    [("level", [.string line.level.tag]),
      ("fields", Json.object
        (("message", [.string line.message]) ::
          line.fields.map fun (name, value) => (name, [.string value])))]

/-- The last line of the report of an error, if there is any advice to give. -/
def SessionError.advice (error : SessionError) : String :=
  match error.help with
  | some help => "\n  help: " ++ help
  | none => ""

/-- The text in which an error is complained of. -/
def SessionError.report (error : SessionError) : String :=
  "Error: " ++ error.code ++ "\n\n  " ++ error.message ++ error.advice

/-- What a program leaves outside of itself. -/
structure Output where
  /-- What it prints, one print after the other. -/
  printed : List String
  /-- What it complains of. -/
  complaints : List String
  exitCode : UInt32
  deriving DecidableEq, Repr

namespace Session

/-- The variables that a session looks at. -/
def variableNames : List String :=
  [Config.capacityVariable, Config.timeSliceVariable, Config.maxSweepsVariable, levelVariable,
    recordVariable]

/-- The log of a session as it is printed. -/
def log (lookup : String → Option String) (entries : List Entry) : List String :=
  (logLines (levelFilter lookup) entries).map fun line =>
    if logsRecords lookup then line.record else line.text

/-- What a session leaves; the identifier is that of its run. -/
def output (plan : Plan) (lookup : String → Option String)
    (files : List (String × Program.FileContents)) (id : RunId) : Output :=
  let (entries, ending) := run plan lookup files
  match ending with
  | .ok summary => ⟨log lookup entries ++ [Json.pretty (summary.tokens id)], [], 0⟩
  | .error error => ⟨log lookup entries, [error.report], 1⟩

end Session

end TimeShare
