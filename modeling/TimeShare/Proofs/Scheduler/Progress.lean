import TimeShare.Proofs.Processor.Polling
import TimeShare.Proofs.Processor.Records
import TimeShare.Proofs.Processor.Transcript
import TimeShare.Proofs.Scheduler.Dispatches

/-!
# What a dispatch gets done

A run polls its flag before it looks whether an instruction is left. So a task
can be preempted behind the last instruction of its program, and its next
dispatch executes nothing. `dispatch_progress` says that these are the only
dispatches without progress.

* `Replayed`: a dispatch recorded what its context records when it is carried
  out again. `allReplayed_after`: every dispatch of a life did.
-/

namespace TimeShare

/-- What is recorded of a context. -/
def ContextEnd.recorded : ContextEnd → List Processor.Event
  | joined run _ => run.events
  | lost recorded => recorded

namespace Scheduler

open Processor (executedIn)

/-- A dispatch with a number recorded what its context records when it is carried out again. -/
def Replayed (plan : Plan) (s : Scheduler) (number : Nat) (dispatch : Dispatch) : Prop :=
  ∃ task, s.registry.get? dispatch.task = some task ∧ dispatch.pc ≤ task.program.size ∧
    ((plan number).carryOut task.program (task.program.stateAt dispatch.pc)).recorded =
      dispatch.recorded

/-- Every dispatch that the trace tells of recorded what its context records. -/
def AllReplayed (plan : Plan) (s : Scheduler) : Prop :=
  ∀ number dispatch, s.dispatchLog[number]? = some dispatch → Replayed plan s number dispatch

variable {plan : Plan} {s s' : Scheduler}

/-! ## Dispatches carried out again -/

/-- A task keeps its program, so its earlier dispatches stay what they were. -/
theorem Replayed.step {number : Nat} {dispatch : Dispatch}
    (replayed : Replayed plan s number dispatch) (step : Step plan s s') (coherent : s.Coherent) :
    Replayed plan s' number dispatch := by
  obtain ⟨task, found, inside, recorded⟩ := replayed
  obtain ⟨task', found', evolves⟩ := step.evolves coherent found
  refine ⟨task', found', ?_, ?_⟩
  · rw [evolves.program]
    exact inside
  · rw [evolves.program]
    exact recorded

theorem AllReplayed.of_quiet (before : s.AllReplayed plan) (step : Step plan s s')
    (coherent : s.Coherent) (log : s'.dispatchLog = s.dispatchLog) : s'.AllReplayed plan := by
  intro number dispatch logged
  rw [log] at logged
  exact (before number dispatch logged).step step coherent

theorem AllReplayed.concat {last : Dispatch} (before : s.AllReplayed plan)
    (step : Step plan s s') (coherent : s.Coherent)
    (log : s'.dispatchLog = s.dispatchLog ++ [last])
    (replayed : Replayed plan s' s.registry.dispatches last) : s'.AllReplayed plan := by
  intro number dispatch logged
  rw [log, List.getElem?_append] at logged
  split at logged
  · exact (before number dispatch logged).step step coherent
  · rename_i beyond
    rw [List.getElem?_singleton] at logged
    split at logged
    · rename_i first
      obtain rfl := Option.some.inj logged
      have here : number = s.registry.dispatches := by
        rw [coherent.counted]
        omega
      rwa [here]
    · cases logged

/-- A step adds only dispatches that recorded what their contexts record. -/
theorem Step.allReplayed (step : Step plan s s') (coherent : s.Coherent)
    (before : s.AllReplayed plan) : s'.AllReplayed plan := by
  have whole := step
  cases step with
  | note notice => exact before.of_quiet whole coherent (dispatchLog_note s notice)
  | remark remark => exact before.of_quiet whole coherent (dispatchLog_remark s remark)
  | enroll inserted => exact before.of_quiet whole coherent (dispatchLog_enroll _ _ _ _ _)
  | openSweep => exact before.of_quiet whole coherent (dispatchLog_openSweep s)
  | @lose id task begun processor recorded found incomplete began lost =>
    have sound := coherent.sound _ _ found
    have held := (Task.begin?_eq_some_iff.1 began).1
    have evolves := sound.evolves_of_begin incomplete began
    obtain ⟨_, _, _, inside, _⟩ := sound.waiting incomplete held
    refine before.concat whole coherent (dispatchLog_lose s processor begun recorded)
      ⟨begun, ?_, ?_, ?_⟩
    · rw [registry_recordRun, registry_handOver]
      dsimp only
      rw [evolves.id, Registry.id_of_get? found]
      exact get?_set_of_evolves found evolves
    · rw [evolves.program]
      exact inside
    · rw [evolves.program] at lost ⊢
      dsimp only
      rw [← sound.straight processor held, lost, ContextEnd.recorded]
  | @join id task begun processor run raised found incomplete began joined =>
    have sound := coherent.sound _ _ found
    have held := (Task.begin?_eq_some_iff.1 began).1
    have begins := sound.evolves_of_begin incomplete began
    have evolves := sound.evolves_finish incomplete began run.processor run.report.exit raised
    obtain ⟨_, _, _, inside, _⟩ := sound.waiting incomplete held
    refine before.concat whole coherent (dispatchLog_join s processor begun run raised)
      ⟨begun.finish run.processor run.report.exit raised, ?_, ?_, ?_⟩
    · rw [registry_join]
      dsimp only
      rw [begins.id, Registry.id_of_get? found]
      exact get?_set_of_evolves found evolves
    · rw [evolves.program]
      exact inside
    · rw [begins.program] at joined
      rw [evolves.program]
      dsimp only
      rw [← sound.straight processor held, joined, ContextEnd.recorded]

theorem allReplayed_after (plan : Plan) (config : Config) (calls : List Call) :
    (after plan config calls).AllReplayed plan := by
  refine holds_after Step.allReplayed ?_ calls
  intro number dispatch logged
  cases logged

/-! ## Dispatches without progress -/

/-- A dispatch whose context came back is a run of its task from the position where it began. -/
theorem AllReplayed.exists_loop {dispatch : Dispatch} {task : Task} (replayed : s.AllReplayed plan)
    (joined : (dispatch, false) ∈ s.dispatches plan)
    (found : s.registry.get? dispatch.task = some task) :
    ∃ poll run, dispatch.pc ≤ task.program.size ∧ run.events = dispatch.recorded ∧
      Processor.Loop task.program poll 0 (task.program.stateAt dispatch.pc) run := by
  obtain ⟨number, inside, same⟩ := List.mem_mapIdx.1 joined
  obtain ⟨rfl, unbroken⟩ := Prod.mk.inj same
  obtain ⟨task', found', reached, recorded⟩ :=
    replayed number _ (List.getElem?_eq_getElem inside)
  obtain rfl := Option.some.inj (found.symm.trans found')
  rw [losesContext, found, Option.any_some] at unbroken
  cases ended : (plan number).carryOut task.program
      (task.program.stateAt s.dispatchLog[number].pc) with
  | lost _ =>
    rw [ended] at unbroken
    cases unbroken
  | joined run raised =>
    obtain ⟨poll, rfl⟩ := exists_run_of_carryOut_eq_joined ended
    rw [ended] at recorded
    exact ⟨poll, _, reached, recorded, Processor.loop_run _ _ _⟩

/-- A run that is preempted has moved on, and it has nothing left to run exactly if it first saw its
flag raised behind the last instruction of its program and met no `HALT`. A dispatch whose context
came back executed nothing exactly if it began there. -/
theorem dispatch_progress (plan : Plan) (config : Config) (calls : List Call) :
    (∀ (program : Program) (poll : Nat → Bool) (processor : Processor),
      ((processor.run program poll).report.exit = .preempted →
        processor.pc < (processor.run program poll).processor.pc) ∧
      ((processor.run program poll).report.exit = .preempted ∧
          ¬ (processor.run program poll).processor.pc < program.size ↔
        processor.pc < program.size ∧ program.HaltFree processor.pc program.size ∧
          poll (program.size - processor.pc) = true ∧
          ∀ n, 0 < n → n < program.size - processor.pc → poll n = false)) ∧
    ∀ dispatch task, (dispatch, false) ∈ (after plan config calls).dispatches plan →
      (after plan config calls).registry.get? dispatch.task = some task →
      (executedIn dispatch.recorded = 0 ↔ dispatch.pc = task.program.size) := by
  refine ⟨fun program poll processor => ⟨fun preempted => ?_, Processor.preempted_at_end_iff⟩, ?_⟩
  · exact (Processor.run_pc_lt_of_preempted preempted).2
  · intro dispatch task joined found
    have replayed := allReplayed_after plan config calls
    obtain ⟨poll, run, reached, recorded, loop⟩ := replayed.exists_loop joined found
    have idle := loop.retired_eq_zero_iff
    rw [Program.stateAt_pc reached, loop.records.1, recorded] at idle
    rw [idle]
    omega

/-- A run whose flag is raised during the only instruction of its program is preempted with nothing
left to run, and in a life with such slices the next dispatch of the task executes nothing. -/
theorem preempted_with_nothing_left :
    ¬ (∀ (program : Program) (interruption : Interruption) (processor : Processor),
        processor.pc < program.size →
        (processor.run program interruption.poll).report.exit = .preempted →
        (processor.run program interruption.poll).processor.pc < program.size) ∧
    ¬ (∀ plan config calls dispatch task,
        (dispatch, false) ∈ (after plan config calls).dispatches plan →
        (after plan config calls).registry.get? dispatch.task = some task →
        task.program.size ≠ 0 → 1 ≤ executedIn dispatch.recorded) := by
  refine ⟨fun progress => ?_, fun progress => ?_⟩
  · have stops := progress loadOnly (.expiry 1) .fresh (by decide) (by decide +kernel)
    exact absurd stops (by decide +kernel)
  · have sizes : ((after (fun _ => .expiry 1) .standard
        [.submit 0 loadOnly, .sweep, .sweep]).registry.get? 0).map
          (fun task => task.program.size) = some 1 := by
      decide +kernel
    obtain ⟨task, found, size⟩ := Option.map_eq_some_iff.1 sizes
    have executes := progress (fun _ => .expiry 1) .standard
      [.submit 0 loadOnly, .sweep, .sweep] ⟨0, 1, [.exhausted 1]⟩ task (by decide +kernel) found
      (by rw [size]; decide)
    exact absurd executes (by decide)

end Scheduler

end TimeShare
