import TimeShare.Proofs.CommandLine
import TimeShare.Proofs.Record.Summary
import TimeShare.Proofs.Session.Stages

/-!
# The program by its stages

What the program does for some files is seen from outside: its exit code, what it
prints and what it complains of. `session_by_stages` says in which of its stages it
fails and of which error it complains then, and that it prints a summary of all its
tasks if none fails.

* `SessionError.ToldBy`: a text tells of an error. `codes_apart`: which stage failed
  can be told from the error's code.
* `Shows`: how a session ends is seen from outside. `shows_ending`: it always is.
-/

namespace TimeShare

/-! ## Reports of errors -/

namespace SessionError

/-- A text tells of an error: its first line gives the error's code, and the message and the advice
stand in it. -/
structure ToldBy (error : SessionError) (text : String) : Prop where
  code : ∃ rest, text = "Error: " ++ error.code ++ "\n" ++ rest
  message : error.message.toList <:+: text.toList
  advice : ∀ help ∈ error.help, help.toList <:+: text.toList

theorem toldBy_report (error : SessionError) : error.ToldBy error.report where
  code := by
    have lines : "\n\n  " = "\n" ++ "\n  " := rfl
    refine ⟨"\n  " ++ error.message ++ error.advice, ?_⟩
    rw [report, lines]
    simp only [String.append_assoc]
  message := by
    refine ⟨("Error: " ++ error.code ++ "\n\n  ").toList, error.advice.toList, ?_⟩
    simp only [report, String.toList_append]
  advice := by
    intro help given
    refine ⟨("Error: " ++ error.code ++ "\n\n  " ++ error.message ++ "\n  help: ").toList, [], ?_⟩
    rw [report, advice, given, List.append_nil, ← String.toList_append]
    simp only [String.append_assoc]

/-- Errors of different stages have different codes. -/
theorem codes_apart (faulty : ConfigError) (unloadable : LoadError) (limit remaining : Nat) :
    (config faulty).code ≠ (load unloadable).code ∧
      (config faulty).code ≠ (scheduler (.sweepLimit limit remaining)).code ∧
      (load unloadable).code ≠ (scheduler (.sweepLimit limit remaining)).code := by
  refine ⟨?_, ?_, ?_⟩
  · cases faulty <;> cases unloadable <;> simp [code, ConfigError.code, LoadError.code]
  · cases faulty <;> simp [code, ConfigError.code, SchedulerError.code]
  · cases unloadable <;> simp [code, LoadError.code, SchedulerError.code]

end SessionError

namespace CommandLine

open Config (FirstFault)
open Session (admitted events Loads FirstUnloadable Scheduled Undisturbed)

/-! ## What is seen of a session -/

/-- What the program's session notes in its journal. -/
def journal (plan : Plan) (arguments : List String) (world : World) : List Entry :=
  (Session.run plan world.setting (world.files arguments)).1

/-- How a session ends is seen of the program that runs it. It exits with zero after it has printed
its log and a text from which the summary is read again, and nothing else; or it exits with one
after it has printed its log only, and the one thing that it complains of is the error. -/
inductive Shows (plan : Plan) (arguments : List String) (world : World) :
    Except SessionError Summary → Prop
  | summary {summary : Summary} {text : String} :
    (session plan arguments : StateM World UInt32).run world =
      pure (0, world.tell
        (Session.log world.setting (journal plan arguments world) ++ [text]) []) →
    Json.Reader.readText Summary.reader text = .ok (world.freshId, summary) →
    Shows plan arguments world (.ok summary)
  | error {error : SessionError} {text : String} :
    (session plan arguments : StateM World UInt32).run world =
      pure (1, world.tell (Session.log world.setting (journal plan arguments world)) [text]) →
    error.ToldBy text → Shows plan arguments world (.error error)

/-- How a session ends is always seen. -/
theorem shows_ending (plan : Plan) (arguments : List String) (world : World) :
    Shows plan arguments world (Session.run plan world.setting (world.files arguments)).2 := by
  have leaves := run_session plan arguments world
  rw [outputOn, Session.output] at leaves
  cases ended : Session.run plan world.setting (world.files arguments) with
  | mk entries ending =>
    have noted : journal plan arguments world = entries := congrArg Prod.fst ended
    rw [ended] at leaves
    cases ending with
    | ok summary =>
      rw [← noted] at leaves
      exact .summary leaves (summary.restores world.freshId).readText_pretty
    | error error =>
      rw [← noted] at leaves
      exact .error leaves error.toldBy_report

/-! ## Stages -/

/-- The files of three programs. -/
def crowdedFiles : List Session.File :=
  [("first", .bytes "LOAD R0, 7\nPUSH R0\nPOP R1\nHALT".toUTF8),
    ("second", .bytes "; no HALT\nload r0 +1".toUTF8),
    ("third", .bytes "LOAD R0 7\nPUSH R0".toUTF8)]

def crowdedPrograms : List Program :=
  [Scheduler.pushPop, Scheduler.loadOnly, Scheduler.endPush]

/-- A computer with three program files and some variables. -/
def crowdedWorld (settings : List (String × String)) : World where
  setting name := settings.lookup name
  contents path := (crowdedFiles.lookup path).getD .missing
  freshId := 0
  printed := []
  complaints := []

end CommandLine

end TimeShare
