import TimeShare.Session.Output

/-!
# The command line

The program looks up its variables, reads the files named by its arguments, and
carries out what `Session.output` says. It is written for any `Host`, so that it
can be followed on a host that only keeps a record, and run on a real one.
-/

namespace TimeShare

/-- What the program needs of the computer that it runs on. -/
class Host (m : Type → Type) where
  /-- The value of a variable of the environment, if it is set. -/
  setting : String → m (Option String)
  /-- What is found under a path. -/
  contents : String → m Program.FileContents
  /-- An identifier that no other run has. -/
  freshId : m RunId
  print : String → m Unit
  complain : String → m Unit

namespace CommandLine

/-- The value of a variable among some settings. -/
def lookupIn (settings : List (String × Option String)) (name : String) : Option String :=
  (settings.lookup name).join

/-- Runs one session for the files named by the arguments and gives its exit code. -/
def session {m : Type → Type} [Monad m] [Host m] (plan : Plan) (arguments : List String) :
    m UInt32 := do
  let settings ← Session.variableNames.mapM fun name => do return (name, ← Host.setting name)
  let files ← arguments.mapM fun path => do return (path, ← Host.contents path)
  let output := Session.output plan (lookupIn settings) files (← Host.freshId)
  output.printed.forM Host.print
  output.complaints.forM Host.complain
  return output.exitCode

end CommandLine

end TimeShare
