import TimeShare.Processor.Run

/-!
# How the outside ends a dispatch

A dispatch runs a task's program in an execution context of its own. When the
context's slice ends depends on the clock, and a context may break down. Both
come from outside the machine and are given to it as an `Interruption`: either
nothing happens, or the slice expires while some instruction is being recorded,
or the context breaks down after some of its events have been recorded.

`carryOut` says what is left of a dispatch under an interruption.

The slice may also expire when the run does not look at its flag any more: after
its last look, while the end of the program is being recorded, or in a context
that breaks down before the next look. There is no case for this. Such a flag
would stay raised after the dispatch and is lowered here; nothing else depends on
it, because every dispatch lowers its task's flag before the context starts.
-/

namespace TimeShare

/-- What the outside does to one dispatch. -/
inductive Interruption
  /-- The slice outlasts the run. -/
  | none
  /-- The slice expires, and the flag is raised, while the given number of instructions has been
  recorded as executed; with zero the flag is raised before the first one. -/
  | expiry (executed : Nat)
  /-- The context breaks down when the given number of instructions has been recorded as executed
  and the given number of further events has been recorded. -/
  | breakdown (executed further : Nat)
  deriving DecidableEq, Repr

/-- What is left of a dispatch: the finished run with the flag's final value, or only what the
context recorded before it broke down. -/
inductive ContextEnd
  | joined (run : Processor.Run) (raised : Bool)
  | lost (recorded : List Processor.Event)

namespace Interruption

/--
The events up to the point of a breakdown, if the run gets there: as many
executed instructions and then as many further events.
-/
def recordedBefore : Nat → Nat → List Processor.Event → Option (List Processor.Event)
  | 0, 0, _ => some []
  | _, _, [] => Option.none
  | 0, further + 1, event :: rest => (recordedBefore 0 further rest).map (event :: ·)
  | executed + 1, further, event :: rest =>
    (recordedBefore (if event.isExecuted then executed else executed + 1) further rest).map
      (event :: ·)

/-- Whether the flag is seen raised after the `n`-th instruction of the run. -/
def poll : Interruption → Nat → Bool
  | expiry executed, n => executed ≤ n
  | _, _ => false

/-- Runs a program in a context under an interruption. -/
def carryOut (interruption : Interruption) (program : Program) (processor : Processor) :
    ContextEnd :=
  let run := processor.run program interruption.poll
  match interruption with
  | none => .joined run false
  | expiry executed => .joined run (executed ≤ run.report.retired)
  | breakdown executed further =>
    match recordedBefore executed further run.events with
    | some recorded => .lost recorded
    | Option.none => .joined run false

end Interruption

end TimeShare
