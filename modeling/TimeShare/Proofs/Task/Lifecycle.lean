import TimeShare.Proofs.Processor.Straight
import TimeShare.Task.Basic

/-!
# The life of a task

What the fields of a task say of each other between dispatches. A task's phase
decides its situation, and each situation ties the exit, the dispatch count and
the position to the program text. Besides, a task's processor state is always
the one that its program has at that position when it runs alone.

* `Task.Sound.of_begin` and `Task.Sound.finish`: giving a task to a context and
  taking it back after any run keep it sound.
* `Task.Situation.dispatches_le`: how often a task can be dispatched.
* `Task.Evolves`: how a task may differ from what it was before.
-/

namespace TimeShare

/-- How often a task that runs a program can be dispatched. -/
def Program.dispatchBound (program : Program) : Nat :=
  match program.firstHalt? with
  | some halt => halt + 1
  | none => program.size + 1

theorem Program.HaltFree.le_dispatchBound {program : Program} {stop : Nat}
    (free : program.HaltFree 0 stop) (inside : stop ≤ program.size) :
    stop + 1 ≤ program.dispatchBound := by
  unfold dispatchBound
  split
  · rename_i halt first
    exact Nat.succ_le_succ (free.le_of_firstHalt? first)
  · exact Nat.succ_le_succ inside

namespace Task

/-- The situation of a task in each phase. -/
inductive Situation (task : Task) : Phase → Prop
  | admitted : task.dispatches = 0 → task.lastExit = none → task.processor = some .fresh →
    Situation task .admitted
  | preempted {processor : Processor} : task.lastExit = some .preempted →
    task.processor = some processor → 1 ≤ task.dispatches → task.dispatches ≤ processor.pc →
    processor.pc ≤ task.program.size → task.program.HaltFree 0 processor.pc →
    Situation task .preempted
  | halted {processor : Processor} : task.lastExit = some .halted →
    task.processor = some processor → 1 ≤ processor.pc → task.dispatches ≤ processor.pc →
    task.program.firstHalt? = some (processor.pc - 1) →
    Situation task .completed
  | exhausted {processor : Processor} : task.lastExit = some .exhausted →
    task.processor = some processor → processor.pc = task.program.size →
    task.dispatches ≤ processor.pc + 1 → task.program.firstHalt? = none →
    Situation task .completed
  /-- A context broke down; `pc` is where it started. -/
  | lost {pc : Nat} : task.processor = none →
    task.lastExit = none ∨ task.lastExit = some .preempted →
    task.dispatches ≤ pc + 1 → pc ≤ task.program.size → task.program.HaltFree 0 pc →
    Situation task .dispatched

/-- A task in its situation whose processor state is that of its program run alone. -/
structure Sound (task : Task) : Prop where
  situation : task.Situation task.phase
  straight : ∀ processor, task.processor = some processor →
    processor = task.program.stateAt processor.pc

theorem sound_fresh (id : TaskId) (priority : Int32) (program : Program) :
    (fresh id priority program).Sound where
  situation := .admitted rfl rfl rfl
  straight := by
    rintro _ ⟨⟩
    rfl

/-! ## A dispatch keeps a task sound -/

section Dispatch

variable {task begun : Task} {processor : Processor}

/-- An incomplete task that has its processor state waits for a dispatch. -/
theorem Sound.waiting (sound : task.Sound) (incomplete : task.isCompleted = false)
    (held : task.processor = some processor) :
    (task.phase = .admitted ∨ task.phase = .preempted) ∧
      (task.lastExit = none ∨ task.lastExit = some .preempted) ∧
      task.dispatches ≤ processor.pc ∧ processor.pc ≤ task.program.size ∧
      task.program.HaltFree 0 processor.pc := by
  have situation := sound.situation
  cases phase : task.phase with
  | admitted =>
    rw [phase] at situation
    cases situation with
    | admitted never exit fresh =>
      obtain rfl := Option.some.inj (held.symm.trans fresh)
      exact ⟨.inl rfl, .inl exit, by omega, Nat.zero_le _,
        fun i _ below => absurd below (Nat.not_lt_zero i)⟩
  | dispatched =>
    rw [phase] at situation
    cases situation with
    | lost gone _ _ _ _ => cases held.symm.trans gone
  | preempted =>
    rw [phase] at situation
    cases situation with
    | preempted exit held' _ few inside free =>
      obtain rfl := Option.some.inj (held.symm.trans held')
      exact ⟨.inr rfl, .inr exit, few, inside, free⟩
  | completed => simp [isCompleted, phase] at incomplete

/-- An incomplete task without its processor state is with a context. -/
theorem Sound.dispatched_of_unavailable (sound : task.Sound) (incomplete : task.isCompleted = false)
    (gone : task.processor = none) : task.phase = .dispatched := by
  have situation := sound.situation
  cases phase : task.phase with
  | admitted =>
    rw [phase] at situation
    cases situation with
    | admitted _ _ fresh => cases gone.symm.trans fresh
  | dispatched => rfl
  | preempted =>
    rw [phase] at situation
    cases situation with
    | preempted _ held _ _ _ _ => cases gone.symm.trans held
  | completed => simp [isCompleted, phase] at incomplete

/-- A task that was given to a context is sound without its processor state. -/
theorem Sound.of_begin (sound : task.Sound) (incomplete : task.isCompleted = false)
    (began : task.begin? = some (processor, begun)) : begun.Sound := by
  obtain ⟨held, rfl⟩ := begin?_eq_some_iff.1 began
  obtain ⟨_, exit, few, inside, free⟩ := sound.waiting incomplete held
  exact ⟨.lost rfl exit (Nat.succ_le_succ few) inside free, nofun⟩

/-- A task that comes back from a run is sound. -/
theorem Sound.finish {poll : Nat → Bool} {run : Processor.Run} (sound : task.Sound)
    (incomplete : task.isCompleted = false) (began : task.begin? = some (processor, begun))
    (loop : Processor.Loop begun.program poll 0 processor run) (raised : Bool) :
    (begun.finish run.processor run.report.exit raised).Sound := by
  obtain ⟨held, rfl⟩ := begin?_eq_some_iff.1 began
  obtain ⟨_, _, few, inside, free⟩ := sound.waiting incomplete held
  have course := loop.course
  refine ⟨?_, ?_⟩
  · cases exit : run.report.exit with
    | halted =>
      rw [exit] at course
      obtain ⟨halt, stop, above, halts, later⟩ := course.halted_inv
      have first : task.program.firstHalt? = some (run.processor.pc - 1) := by
        rw [stop, Nat.add_sub_cancel]
        exact Program.firstHalt?_eq_some_iff.2 ⟨halts, free.append later⟩
      have moved : 1 ≤ run.processor.pc := by omega
      have few' : task.dispatches + 1 ≤ run.processor.pc := by omega
      exact .halted rfl rfl moved few' first
    | preempted =>
      rw [exit] at course
      obtain ⟨moved, inside', later⟩ := course.preempted_inv
      have few' : task.dispatches + 1 ≤ run.processor.pc := by omega
      exact .preempted rfl rfl (Nat.succ_le_succ (Nat.zero_le _)) few' inside' (free.append later)
    | exhausted =>
      rw [exit] at course
      obtain ⟨stop, later⟩ := course.exhausted_inv
      rw [Nat.max_eq_right inside] at stop
      have few' : task.dispatches + 1 ≤ run.processor.pc + 1 := by omega
      exact .exhausted rfl rfl stop few' (Program.firstHalt?_eq_none_iff.2 (free.append later))
  · rintro _ ⟨⟩
    exact loop.straight (sound.straight processor held)

end Dispatch

/-! ## What a sound task is like -/

theorem Situation.dispatches_le {task : Task} {phase : Phase} (situation : task.Situation phase) :
    task.dispatches ≤ task.program.dispatchBound := by
  cases situation with
  | admitted never _ _ => omega
  | preempted _ _ _ few inside free =>
    have bound := free.le_dispatchBound inside
    omega
  | halted _ _ moved few first =>
    simp only [Program.dispatchBound, first]
    omega
  | exhausted _ _ stop few none =>
    simp only [Program.dispatchBound, none]
    omega
  | lost _ _ few inside free =>
    have bound := free.le_dispatchBound inside
    omega

/-- A completed task has stopped as its program says. -/
theorem Sound.ended {task : Task} {processor : Processor} (sound : task.Sound)
    (completed : task.isCompleted = true) (held : task.processor = some processor) :
    task.lastExit = some task.program.ending.1 ∧ processor.pc = task.program.ending.2 := by
  have phase : task.phase = .completed := by simpa [isCompleted] using completed
  have situation := sound.situation
  rw [phase] at situation
  cases situation with
  | halted exit held' moved _ first =>
    obtain rfl := Option.some.inj (held.symm.trans held')
    simp only [Program.ending, first, exit, true_and]
    omega
  | exhausted exit held' stop _ none =>
    obtain rfl := Option.some.inj (held.symm.trans held')
    simp only [Program.ending, none, exit, stop, and_self]

/-- The state of a completed task is that of an undisturbed run. -/
theorem Sound.completed {task : Task} {processor : Processor} (sound : task.Sound)
    (completed : task.isCompleted = true) (held : task.processor = some processor) :
    processor = (Processor.fresh.run task.program Processor.neverRaised).processor := by
  rw [Processor.run_neverRaised, ← (sound.ended completed held).2]
  exact sound.straight processor held

/-! ## How a task changes -/

/-- The phases that may follow a phase. -/
inductive Leads : Phase → Phase → Prop
  | stay (phase : Phase) : Leads phase phase
  | move {before after : Phase} : before = .admitted ∨ before = .preempted →
    after = .preempted ∨ after = .completed ∨ after = .dispatched → Leads before after

/-- How a task may differ from what it was before. -/
structure Evolves (before after : Task) : Prop where
  id : after.id = before.id
  priority : after.priority = before.priority
  program : after.program = before.program
  phase : Leads before.phase after.phase
  /-- A task that is done or was lost does not change. -/
  settled : before.phase = .completed ∨ before.phase = .dispatched → after = before

theorem Leads.trans {first second third : Phase} (left : Leads first second)
    (right : Leads second third) : Leads first third := by
  cases left with
  | stay => exact right
  | move start _ =>
    cases right with
    | stay => exact .move start ‹_›
    | move _ stop => exact .move start stop

theorem Evolves.refl (task : Task) : task.Evolves task :=
  ⟨rfl, rfl, rfl, .stay _, fun _ => rfl⟩

theorem Evolves.trans {first second third : Task} (left : first.Evolves second)
    (right : second.Evolves third) : first.Evolves third where
  id := right.id.trans left.id
  priority := right.priority.trans left.priority
  program := right.program.trans left.program
  phase := left.phase.trans right.phase
  settled := by
    intro settled
    obtain rfl := left.settled settled
    exact right.settled settled

/-- A task that waits for a dispatch may change in every way that a dispatch changes it. -/
theorem Evolves.of_waiting {before after : Task}
    (waiting : before.phase = .admitted ∨ before.phase = .preempted)
    (moved : after.phase = .preempted ∨ after.phase = .completed ∨ after.phase = .dispatched)
    (id : after.id = before.id) (priority : after.priority = before.priority)
    (program : after.program = before.program) : before.Evolves after := by
  refine ⟨id, priority, program, .move waiting moved, fun settled => ?_⟩
  rcases waiting with phase | phase <;> rcases settled with settled | settled <;>
    cases phase.symm.trans settled

section Dispatch

variable {task begun : Task} {processor : Processor}

theorem Sound.evolves_of_begin (sound : task.Sound) (incomplete : task.isCompleted = false)
    (began : task.begin? = some (processor, begun)) : task.Evolves begun := by
  obtain ⟨held, rfl⟩ := begin?_eq_some_iff.1 began
  exact .of_waiting (sound.waiting incomplete held).1 (.inr (.inr rfl)) rfl rfl rfl

theorem Sound.evolves_finish (sound : task.Sound) (incomplete : task.isCompleted = false)
    (began : task.begin? = some (processor, begun)) (left : Processor) (exit : Exit)
    (raised : Bool) : task.Evolves (begun.finish left exit raised) := by
  obtain ⟨held, rfl⟩ := begin?_eq_some_iff.1 began
  refine .of_waiting (sound.waiting incomplete held).1 ?_ rfl rfl rfl
  cases exit with
  | halted => exact .inr (.inl rfl)
  | preempted => exact .inl rfl
  | exhausted => exact .inr (.inl rfl)

end Dispatch

end Task

end TimeShare
