import TimeShare.Proofs.Scheduler.Accounts

/-!
# The grammar of the trace

The trace of a scheduler is a list of passages: remarks, admissions and sweeps.
A sweep opens with its number and the number of incomplete tasks. After that it
is a list of brackets, one for every dispatch: the dispatch, what the task's
context recorded, and the end of the dispatch, if the context came back.

Which passage may follow, and which bracket, depends on those before it only.
`Sweep.Follows` and `Bracket.Follows` say how.
-/

namespace TimeShare

open Processor (executedIn)

/-- Every element of a list may follow those before it. -/
def Successive {α : Type} (Follows : List α → α → Prop) (elements : List α) : Prop :=
  ∀ before element after, elements = before ++ element :: after → Follows before element

section Successive

variable {α : Type} {Follows : List α → α → Prop}

theorem successive_nil : Successive Follows [] := by
  intro before element after split
  cases before <;> cases split

/-- One more element may stand at the end if it may follow all the others. -/
theorem Successive.concat {elements : List α} {last : α} (successive : Successive Follows elements)
    (follows : Follows elements last) : Successive Follows (elements ++ [last]) := by
  intro before element after split
  rcases List.eq_nil_or_concat after with rfl | ⟨inner, final, rfl⟩
  · obtain ⟨rfl, same⟩ := List.append_inj' split rfl
    obtain rfl := List.singleton_inj.1 same
    exact follows
  · rw [List.concat_eq_append, ← List.cons_append, ← List.append_assoc] at split
    exact successive before element inner (List.append_inj' split rfl).1

end Successive

/-! ## Brackets -/

/-- How the trace shows the end of a dispatch. -/
inductive Bracket.Ending
  | preempted
  | completed
  /-- The context broke down, and nothing shows the end. -/
  | broken
  deriving DecidableEq

/-- The part of the trace that one dispatch leaves. -/
structure Bracket extends Dispatch where
  priority : Int32
  ending : Bracket.Ending

namespace Bracket

def retired (bracket : Bracket) : Nat :=
  executedIn bracket.recorded

/-- The position at which the dispatch ended. -/
def stop (bracket : Bracket) : Nat :=
  bracket.pc + bracket.retired

def closing (bracket : Bracket) : List Event :=
  match bracket.ending with
  | .preempted => [.taskPreempted bracket.task bracket.stop bracket.retired]
  | .completed => [.taskCompleted bracket.task bracket.stop bracket.retired]
  | .broken => []

def events (bracket : Bracket) : List Event :=
  .taskDispatched bracket.task bracket.priority bracket.pc ::
    (bracket.recorded.map (.ran bracket.task) ++ bracket.closing)

/-- The dispatch, with whether its context broke down. -/
def entry (bracket : Bracket) : Dispatch × Bool :=
  (bracket.toDispatch, bracket.ending = .broken)

/-- Where the last dispatch of a task ended; zero before the first one. -/
def resumePoint (id : TaskId) (before : List Bracket) : Nat :=
  (before.filter fun bracket => bracket.task = id).getLast?.elim 0 stop

/-- A dispatch goes on where the last one of the same task was preempted, and executes one
instruction after another. -/
structure Follows (before : List Bracket) (bracket : Bracket) : Prop where
  pc : bracket.pc = resumePoint bracket.task before
  unfinished : ∀ earlier ∈ before, earlier.task = bracket.task → earlier.ending = .preempted
  stepwise : bracket.recorded.filterMap Processor.Event.executedAt? =
    List.range' bracket.pc bracket.retired

/-- Without a dispatch a task is where it started. -/
theorem resumePoint_of_never {id : TaskId} {brackets : List Bracket}
    (never : ∀ bracket ∈ brackets, bracket.task ≠ id) : resumePoint id brackets = 0 := by
  rw [resumePoint, List.filter_eq_nil_iff.2 fun bracket mem => by simpa using never bracket mem]
  rfl

theorem resumePoint_concat_self (brackets : List Bracket) (last : Bracket) :
    resumePoint last.task (brackets ++ [last]) = last.stop := by
  rw [resumePoint, List.filter_append, List.filter_cons_of_pos (by simp), List.filter_nil,
    List.getLast?_concat, Option.elim_some]

theorem resumePoint_concat_of_ne {id : TaskId} {last : Bracket} (other : last.task ≠ id)
    (brackets : List Bracket) :
    resumePoint id (brackets ++ [last]) = resumePoint id brackets := by
  rw [resumePoint, List.filter_append, List.filter_cons_of_neg (by simpa using other),
    List.filter_nil, List.append_nil, resumePoint]

end Bracket

/-! ## Sweeps -/

/-- The part of the trace that one sweep leaves. -/
structure Sweep where
  number : Nat
  /-- How many tasks are said to be incomplete. -/
  incomplete : Nat
  brackets : List Bracket

def Sweep.events (sweep : Sweep) : List Event :=
  .sweepStarted sweep.number sweep.incomplete :: sweep.brackets.flatMap Bracket.events

/-! ## Passages -/

/-- A part of the trace between whose ends nothing else is recorded. -/
inductive Passage
  | remark (event : Event)
  | admission (task : TaskId) (priority : Int32) (instructions : Nat)
  | sweep (made : Sweep)

namespace Passage

def events : Passage → List Event
  | .remark event => [event]
  | .admission task priority instructions => [.taskAdmitted task priority instructions]
  | .sweep made => made.events

def sweep? : Passage → Option Sweep
  | .sweep made => some made
  | _ => none

end Passage

/-- The events of some passages. -/
def eventsIn (passages : List Passage) : List Event :=
  passages.flatMap Passage.events

/-- The sweeps among some passages. -/
def sweepsIn (passages : List Passage) : List Sweep :=
  passages.filterMap Passage.sweep?

/-- The brackets of all sweeps among some passages. -/
def bracketsIn (passages : List Passage) : List Bracket :=
  (sweepsIn passages).flatMap Sweep.brackets

open Scheduler (told)

/-- A sweep has the next number, with 64 bits, and tells of the tasks that are admitted and not
completed. It dispatches tasks in the order of their identifiers and ends where a context breaks
down. -/
structure Sweep.Follows (before : List Passage) (sweep : Sweep) : Prop where
  number : sweep.number = ((sweepsIn before).length + 1) % UInt64.size
  incomplete : sweep.incomplete + told .completion (eventsIn before) =
    told .admission (eventsIn before)
  ascending : (sweep.brackets.map fun bracket => bracket.task).Pairwise (· < ·)
  broken_last : ∀ bracket ∈ sweep.brackets.dropLast, bracket.ending ≠ .broken

/-- A remark or an admission may follow everything, and a sweep what it fits. -/
def Passage.Follows (before : List Passage) : Passage → Prop
  | .remark event => event.isRemark = true
  | .admission .. => True
  | .sweep made => made.Follows before

theorem eventsIn_append (first second : List Passage) :
    eventsIn (first ++ second) = eventsIn first ++ eventsIn second :=
  List.flatMap_append

theorem sweepsIn_append (first second : List Passage) :
    sweepsIn (first ++ second) = sweepsIn first ++ sweepsIn second :=
  List.filterMap_append

theorem bracketsIn_append (first second : List Passage) :
    bracketsIn (first ++ second) = bracketsIn first ++ bracketsIn second := by
  rw [bracketsIn, sweepsIn_append, List.flatMap_append, bracketsIn, bracketsIn]

theorem bracketsIn_concat_sweep (passages : List Passage) (made : Sweep) :
    bracketsIn (passages ++ [.sweep made]) = bracketsIn passages ++ made.brackets := by
  rw [bracketsIn_append]
  exact congrArg (bracketsIn passages ++ ·) (List.append_nil made.brackets)

/-- Only a sweep has brackets. -/
theorem bracketsIn_concat_of_aside {passage : Passage} (aside : passage.sweep? = none)
    (passages : List Passage) : bracketsIn (passages ++ [passage]) = bracketsIn passages := by
  rw [bracketsIn, sweepsIn, List.filterMap_append, List.filterMap_cons_none aside,
    List.filterMap_nil, List.append_nil, bracketsIn, sweepsIn]

theorem eventsIn_singleton (passage : Passage) : eventsIn [passage] = passage.events := by
  rw [eventsIn, List.flatMap_singleton]

/-- A sweep's brackets tell of no sweep. -/
theorem told_sweep_brackets (brackets : List Bracket) :
    told .sweep (brackets.flatMap Bracket.events) = 0 := by
  induction brackets with
  | nil => rfl
  | cons bracket rest ih =>
    rw [List.flatMap_cons, Scheduler.told_append, ih, Bracket.events, Bracket.closing]
    cases bracket.ending <;> simp [Event.kind]

theorem told_sweep_events (sweep : Sweep) : told .sweep sweep.events = 1 := by
  rw [Sweep.events, Scheduler.told_cons, told_sweep_brackets]
  rfl

/-- A passage tells of a sweep if it is one. -/
theorem Passage.Follows.told_sweep {before : List Passage} {passage : Passage}
    (follows : passage.Follows before) :
    told .sweep passage.events = (sweepsIn [passage]).length := by
  cases passage with
  | remark event =>
    have kind : event.kind = .other := Scheduler.kind_of_isRemark follows
    rw [Passage.events, Scheduler.told_cons, kind]
    rfl
  | admission task priority instructions => rfl
  | sweep sweep => exact told_sweep_events sweep

end TimeShare
