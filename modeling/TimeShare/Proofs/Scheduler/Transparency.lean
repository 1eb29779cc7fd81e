import TimeShare.Proofs.Scheduler.Dispatches

/-!
# Preemption does not show in the processor

Whatever other tasks there are, however the slices end and whichever contexts
break down, a task that has its processor state has the one that its program
leaves after as many steps as the position says.
-/

namespace TimeShare.Scheduler

/-- Between calls the processor state of a task is that of its program alone at that position; that
of a completed task is what one undisturbed run leaves. -/
theorem processor_eq_stateAt (plan : Plan) (config : Config) (calls : List Call) {task : Task}
    {processor : Processor} (mem : task ∈ (after plan config calls).registry.tasks)
    (held : task.processor = some processor) :
    processor = task.program.stateAt processor.pc ∧
      (task.isCompleted = true →
        processor = (Processor.fresh.run task.program Processor.neverRaised).processor) := by
  have coherent := coherent_after plan config calls
  have sound := coherent.sound task.id task (Registry.get?_id_of_mem mem)
  exact ⟨sound.straight processor held, fun completed => sound.completed completed held⟩

/-- The first task of a life with a lost context completes in two dispatches and leaves what one
undisturbed run leaves. -/
theorem processor_eq_stateAt_lossy :
    ∃ task ∈ (after lossyPlan .standard lossyCalls).registry.tasks, ∃ processor,
      task.processor = some processor ∧ task.isCompleted = true ∧
      processor = task.program.stateAt processor.pc ∧
      processor = (Processor.fresh.run task.program Processor.neverRaised).processor := by
  have completes : ((after lossyPlan .standard lossyCalls).registry.tasks[0]?.bind fun task =>
      task.processor.map fun processor => (task.isCompleted, processor.pc)) = some (true, 4) := by
    decide +kernel
  obtain ⟨task, found, held⟩ := Option.bind_eq_some_iff.1 completes
  obtain ⟨processor, held, pair⟩ := Option.map_eq_some_iff.1 held
  have completed : task.isCompleted = true := (Prod.mk.inj pair).1
  have mem := Array.mem_of_getElem? found
  have transparent := processor_eq_stateAt lossyPlan .standard lossyCalls mem held
  exact ⟨task, mem, processor, held, completed, transparent.1, transparent.2 completed⟩

end TimeShare.Scheduler
