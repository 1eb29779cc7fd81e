/-!
# The stack

A stack of 256 words that grows downwards: the first value pushed lies in the
highest slot. The pointer names the slot that the next push fills, so it is 255
for an empty stack and -1 for a full one. A slot keeps its value after a pop.

`Stack.toList` lists the values held, the latest first. The main statements say
that a push puts its value in front of that list, that a pop takes the first
value off, and that they fail exactly when the list has 256 values or none.
-/

namespace TimeShare

def stackSize : Nat := 256

/-- Why a stack operation failed. -/
inductive StackFault
  | overflow
  | underflow
  deriving DecidableEq, Repr

def StackFault.message : StackFault → String
  | overflow => "stack overflow"
  | underflow => "stack underflow"

/-- A bounded stack of words in an array that is filled from its end. -/
structure Stack where
  slots : Vector Int32 stackSize
  /-- The number of values held. -/
  depth : Nat
  depth_le : depth ≤ stackSize
  deriving DecidableEq

namespace Stack

/-- The stack without values, all of whose slots are zero. -/
def empty : Stack :=
  ⟨Vector.replicate stackSize 0, 0, Nat.zero_le _⟩

/-- The number of the slot that the next push fills, -1 for a full stack. -/
def pointer (stack : Stack) : Int :=
  (stackSize : Int) - 1 - stack.depth

/-- Stores a value in the slot that the pointer names and moves the pointer down. -/
def push (stack : Stack) (value : Int32) : Except StackFault Stack :=
  if room : stack.depth < stackSize then
    .ok ⟨stack.slots.set (stackSize - 1 - stack.depth) value (by omega), stack.depth + 1, room⟩
  else
    .error .overflow

/-- Moves the pointer up and takes the value of the slot that it then names. -/
def pop (stack : Stack) : Except StackFault (Int32 × Stack) :=
  if held : 0 < stack.depth then
    have bound : stack.depth ≤ stackSize := stack.depth_le
    .ok (stack.slots[stackSize - stack.depth], ⟨stack.slots, stack.depth - 1, by omega⟩)
  else
    .error .underflow

/-- The values held, the latest first. -/
def toList (stack : Stack) : List Int32 :=
  stack.slots.toList.drop (stackSize - stack.depth)

/-! ## The operations through the list of values -/

@[simp] theorem length_toList (stack : Stack) : stack.toList.length = stack.depth := by
  have bound := stack.depth_le
  simp only [toList, List.length_drop, Vector.length_toList]
  omega

@[simp] theorem toList_empty : empty.toList = [] := by
  simp [toList, empty]

/-- A push puts its value in front of the values held. -/
theorem toList_push {stack pushed : Stack} {value : Int32} (h : stack.push value = .ok pushed) :
    pushed.toList = value :: stack.toList := by
  unfold push at h
  split at h
  · rename_i room
    injection h with h
    subst h
    have below : stackSize - (stack.depth + 1) < stackSize := by omega
    have slot : stackSize - 1 - stack.depth = stackSize - (stack.depth + 1) := by omega
    have next : stackSize - (stack.depth + 1) + 1 = stackSize - stack.depth := by omega
    have before : stackSize - (stack.depth + 1) < stackSize - stack.depth := by omega
    simp only [toList, Vector.toList_set, slot]
    rw [List.drop_eq_getElem_cons (by simpa using below), next]
    simp [List.drop_set_of_lt before]
  · cases h

/-- A push fails exactly when every slot holds a value. -/
theorem push_eq_error_iff {stack : Stack} {value : Int32} {fault : StackFault} :
    stack.push value = .error fault ↔ stack.toList.length = stackSize ∧ fault = .overflow := by
  have bound := stack.depth_le
  unfold push
  split
  · rename_i room
    simp
    omega
  · rename_i full
    have depth : stack.depth = stackSize := by omega
    simp [depth, eq_comm]

/-- A pop takes the first of the values held. -/
theorem toList_pop {stack popped : Stack} {value : Int32} (h : stack.pop = .ok (value, popped)) :
    stack.toList = value :: popped.toList := by
  have bound := stack.depth_le
  unfold pop at h
  split at h
  · rename_i held
    injection h with h
    obtain ⟨rfl, rfl⟩ := Prod.mk.inj h
    have next : stackSize - stack.depth + 1 = stackSize - (stack.depth - 1) := by omega
    simp only [toList]
    rw [List.drop_eq_getElem_cons (by simp; omega), next]
    simp
  · cases h

/-- A pop fails exactly when no value is held. -/
theorem pop_eq_error_iff {stack : Stack} {fault : StackFault} :
    stack.pop = .error fault ↔ stack.toList = [] ∧ fault = .underflow := by
  rw [← List.length_eq_zero_iff, length_toList]
  unfold pop
  split
  · rename_i held
    simp
    omega
  · rename_i empty
    have depth : stack.depth = 0 := by omega
    simp [depth, eq_comm]

end Stack

end TimeShare
