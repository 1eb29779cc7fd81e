import TimeShare.Proofs.Processor.Replay

/-!
# The order of the stack

A processor that is used from outside has its registers set, values pushed and
values popped. `stack_lifo` says that its answers are those of a list of at most
256 values that gives the latest back first, whatever came before.

The slots are an array and the pointer is an integer, which leaves the array when
the stack is full. `Placed` says how the two go together: which slot an access
touches, that there is such a slot, and that nothing else changes.

* `onProcessor_toList`: a processor answers one access as the list of its values
  does, and `run_toList` carries this through all accesses.
* `push_image`, `pop_image`: all fields of the state that a push or a pop leaves.
-/

namespace TimeShare

/-- One use of a processor from outside. -/
inductive Access
  | write (register : Register) (value : Int32)
  | push (value : Int32)
  | pop
  deriving DecidableEq

/-- The answer to an access: a fault, or the value that was popped, if any was. -/
abbrev Reply := Except StackFault (Option Int32)

namespace Access

/-- What a list with room for some number of values answers, and the values it holds afterwards,
the latest first. -/
def onList (capacity : Nat) (values : List Int32) : Access → Reply × List Int32
  | write _ _ => (.ok none, values)
  | push value =>
    if values.length < capacity then (.ok none, value :: values) else (.error .overflow, values)
  | pop =>
    match values with
    | [] => (.error .underflow, [])
    | value :: rest => (.ok (some value), rest)

/-- What a processor answers, and its state afterwards. -/
def onProcessor (processor : Processor) : Access → Reply × Processor
  | write register value => (.ok none, processor.write register value)
  | push value =>
    match processor.push value with
    | .ok pushed => (.ok none, pushed)
    | .error fault => (.error fault, processor)
  | pop =>
    match processor.pop with
    | .ok (value, popped) => (.ok (some value), popped)
    | .error fault => (.error fault, processor)

/-- The answers to some accesses one after another, and the state after the last of them. -/
def run {State : Type} (answer : State → Access → Reply × State) :
    List Access → State → List Reply × State
  | [], state => ([], state)
  | access :: rest, state =>
    let (reply, next) := answer state access
    let (replies, last) := run answer rest next
    (reply :: replies, last)

end Access

namespace Processor

variable {processor pushed popped : Processor} {value : Int32} {fault : StackFault}

/-! ## The processor's operations through its stack -/

theorem push_eq_ok_iff : processor.push value = .ok pushed ↔
    ∃ stack, processor.stack.push value = .ok stack ∧ pushed = { processor with stack } := by
  rw [push]
  cases processor.stack.push value with
  | error fault =>
    constructor
    · intro stored
      cases stored
    · rintro ⟨_, stored, _⟩
      cases stored
  | ok stack =>
    constructor
    · rintro ⟨⟩
      exact ⟨stack, rfl, rfl⟩
    · rintro ⟨_, ⟨⟩, rfl⟩
      rfl

theorem pop_eq_ok_iff : processor.pop = .ok (value, popped) ↔
    ∃ stack, processor.stack.pop = .ok (value, stack) ∧ popped = { processor with stack } := by
  rw [pop]
  cases processor.stack.pop with
  | error fault =>
    constructor
    · intro taken
      cases taken
    · rintro ⟨_, taken, _⟩
      cases taken
  | ok taken =>
    obtain ⟨first, stack⟩ := taken
    constructor
    · rintro ⟨⟩
      exact ⟨stack, rfl, rfl⟩
    · rintro ⟨_, ⟨⟩, rfl⟩
      rfl

/-- A push fails exactly when every slot holds a value. -/
theorem push_eq_error_iff : processor.push value = .error fault ↔
    processor.stack.toList.length = stackSize ∧ fault = .overflow := by
  rw [← @Stack.push_eq_error_iff processor.stack value, push]
  cases processor.stack.push value with
  | error reason => simp only [Except.map, Except.error.injEq]
  | ok stack => simp only [Except.map, reduceCtorEq]

/-- A pop fails exactly when no value is held. -/
theorem pop_eq_error_iff : processor.pop = .error fault ↔
    processor.stack.toList = [] ∧ fault = .underflow := by
  rw [← Stack.pop_eq_error_iff, pop]
  cases processor.stack.pop with
  | error reason => simp only [Except.map, Except.error.injEq]
  | ok taken => simp only [Except.map, reduceCtorEq]

/-! ## Answers -/

/-- An access that fails changes nothing. -/
theorem refused_eq {access : Access} (refused : (access.onProcessor processor).1 = .error fault) :
    (access.onProcessor processor).2 = processor := by
  cases access with
  | write register value => cases refused
  | push value =>
    rw [Access.onProcessor] at refused ⊢
    cases result : processor.push value with
    | error reason => rfl
    | ok pushed =>
      rw [result] at refused
      cases refused
  | pop =>
    rw [Access.onProcessor] at refused ⊢
    cases result : processor.pop with
    | error reason => rfl
    | ok taken =>
      rw [result] at refused
      cases refused

/-- A processor answers an access as the list of its values does, and goes on to hold what the list
then has. -/
theorem onProcessor_toList (processor : Processor) (access : Access) :
    access.onList stackSize processor.stack.toList =
      ((access.onProcessor processor).1, (access.onProcessor processor).2.stack.toList) := by
  cases access with
  | write register value => rfl
  | push value =>
    rw [Access.onList, Access.onProcessor]
    cases result : processor.push value with
    | error fault =>
      obtain ⟨full, rfl⟩ := push_eq_error_iff.1 result
      rw [if_neg (by omega)]
    | ok pushed =>
      obtain ⟨stack, stored, rfl⟩ := push_eq_ok_iff.1 result
      have values := Stack.toList_push stored
      have room : processor.stack.toList.length < stackSize := by
        have bound := stack.depth_le
        rw [← Stack.length_toList, values] at bound
        exact bound
      rw [if_pos room]
      dsimp only
      rw [values]
  | pop =>
    rw [Access.onProcessor]
    cases result : processor.pop with
    | error fault =>
      obtain ⟨nothing, rfl⟩ := pop_eq_error_iff.1 result
      dsimp only
      rw [nothing]
      rfl
    | ok taken =>
      obtain ⟨value, popped⟩ := taken
      obtain ⟨stack, taken, rfl⟩ := pop_eq_ok_iff.1 result
      rw [Stack.toList_pop taken]
      rfl

/-- The list of its values goes along with all accesses to a processor. -/
theorem run_toList (accesses : List Access) (processor : Processor) :
    let used := Access.run Access.onProcessor accesses processor
    Access.run (Access.onList stackSize) accesses processor.stack.toList =
      (used.1, used.2.stack.toList) := by
  intro used
  induction accesses generalizing processor with
  | nil => rfl
  | cons access rest ih =>
    have later := ih (access.onProcessor processor).2
    simp only [used, Access.run, onProcessor_toList]
    rw [later]

/-! ## Slots -/

/-- A push fills the slot that the pointer names. -/
theorem push_image (stored : processor.push value = .ok pushed) :
    ∃ slot : Fin stackSize, (slot.val : Int) = processor.stackPointer ∧
      pushed.image = { processor.image with
        sp := processor.stackPointer - 1
        slots := processor.stack.slots.set slot value slot.isLt } := by
  obtain ⟨stack, filled, rfl⟩ := push_eq_ok_iff.1 stored
  unfold Stack.push at filled
  split at filled
  · rename_i room
    obtain rfl := Except.ok.inj filled
    have place : ((stackSize - 1 - processor.stack.depth : Nat) : Int) =
        processor.stackPointer := by
      rw [stackPointer, Stack.pointer]
      omega
    refine ⟨⟨stackSize - 1 - processor.stack.depth, by omega⟩, place, ?_⟩
    rw [image, image, Image.mk.injEq]
    refine ⟨rfl, rfl, ?_, rfl, rfl⟩
    simp only [stackPointer, Stack.pointer]
    omega
  · cases filled

/-- A pop gives the value of the slot behind the pointer. -/
theorem pop_image (taken : processor.pop = .ok (value, popped)) :
    ∃ slot : Fin stackSize, (slot.val : Int) = processor.stackPointer + 1 ∧
      value = processor.stack.slots.get slot ∧
      popped.image = { processor.image with sp := processor.stackPointer + 1 } := by
  obtain ⟨stack, loaded, rfl⟩ := pop_eq_ok_iff.1 taken
  unfold Stack.pop at loaded
  split at loaded
  · rename_i held
    obtain ⟨rfl, rfl⟩ := Prod.mk.inj (Except.ok.inj loaded)
    have bound := processor.stack.depth_le
    have place : ((stackSize - processor.stack.depth : Nat) : Int) =
        processor.stackPointer + 1 := by
      rw [stackPointer, Stack.pointer]
      omega
    refine ⟨⟨stackSize - processor.stack.depth, by omega⟩, place, rfl, ?_⟩
    rw [image, image, Image.mk.injEq]
    refine ⟨rfl, rfl, ?_, rfl, rfl⟩
    simp only [stackPointer, Stack.pointer]
    omega
  · cases loaded

/-- How the values of a processor's stack lie in its slots, and what the next access does. -/
structure Placed (processor : Processor) : Prop where
  pointer : -1 ≤ processor.stackPointer ∧ processor.stackPointer ≤ 255
  depth : (processor.stack.depth : Int) = 255 - processor.stackPointer ∧
    processor.stack.depth = processor.stack.toList.length
  overflow : ∀ value fault, processor.push value = .error fault ↔
    processor.stack.toList.length = 256 ∧ fault = .overflow
  underflow : ∀ fault, processor.pop = .error fault ↔
    processor.stack.toList = [] ∧ fault = .underflow
  /-- An access that fails changes nothing. -/
  refused : ∀ (access : Access) fault, (access.onProcessor processor).1 = .error fault →
    (access.onProcessor processor).2 = processor
  /-- A push changes nothing but the pointer and the slot that it fills. -/
  pushed : ∀ value pushed, processor.push value = .ok pushed →
    ∃ slot : Fin 256, (slot.val : Int) = processor.stackPointer ∧
      pushed.image = { processor.image with
        sp := processor.stackPointer - 1
        slots := processor.stack.slots.set slot value slot.isLt }
  /-- A pop changes nothing but the pointer. -/
  popped : ∀ value popped, processor.pop = .ok (value, popped) →
    ∃ slot : Fin 256, (slot.val : Int) = processor.stackPointer + 1 ∧
      value = processor.stack.slots.get slot ∧
      popped.image = { processor.image with sp := processor.stackPointer + 1 }

theorem placed (processor : Processor) : Placed processor where
  pointer := by
    have bound := processor.stack.depth_le
    simp only [stackPointer, Stack.pointer, stackSize] at bound ⊢
    omega
  depth := by
    refine ⟨?_, (Stack.length_toList _).symm⟩
    simp only [stackPointer, Stack.pointer, stackSize]
    omega
  overflow := fun _ _ => push_eq_error_iff
  underflow := fun _ => pop_eq_error_iff
  refused := fun _ _ => refused_eq
  pushed := fun _ _ => push_image
  popped := fun _ _ => pop_image

/-- Whatever is done to a processor from the fresh state on, all answers are those of a list of at
most 256 values, the latest first; the processor then holds the values of that list, and they lie
in its slots as the pointer says. -/
theorem stack_lifo (accesses : List Access) :
    let used := Access.run Access.onProcessor accesses fresh
    Access.run (Access.onList 256) accesses [] = (used.1, used.2.stack.toList) ∧ Placed used.2 := by
  intro used
  have along := run_toList accesses fresh
  have nothing : fresh.stack.toList = [] := Stack.toList_empty
  rw [nothing] at along
  exact ⟨along, placed used.2⟩

end Processor

end TimeShare
