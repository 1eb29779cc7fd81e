import TimeShare.Task.Registry
import TimeShare.Trace.Event

/-!
# Enrollment

What admission settles about a task: its identifier, its priority and its
program. The roll of a registry lists this for all its tasks.

* `enroll`: the enrollments of programs that are admitted one after another;
  `toNat_enroll`: their identifiers are consecutive.
* `Registry.insert_of_room`, `Registry.insert_of_full`: what an admission adds to the roll.
* `Registry.Keeps`: nothing that concerns admission has changed.
-/

namespace TimeShare

/-- What the admission of a task settles about it. -/
structure Enrollment where
  id : TaskId
  priority : Int32
  program : Program
  deriving DecidableEq

def Task.enrollment (task : Task) : Enrollment :=
  ⟨task.id, task.priority, task.program⟩

/-- What the trace tells of an admission. -/
def Enrollment.event (entry : Enrollment) : Event :=
  .taskAdmitted entry.id entry.priority entry.program.size

/-- Programs with their priorities, enrolled one after another from a place on. -/
def enroll : Nat → List (Int32 × Program) → List Enrollment
  | _, [] => []
  | place, (priority, program) :: rest =>
    ⟨UInt32.ofNat place, priority, program⟩ :: enroll (place + 1) rest

@[simp] theorem length_enroll (place : Nat) (offers : List (Int32 × Program)) :
    (enroll place offers).length = offers.length := by
  induction offers generalizing place with
  | nil => rfl
  | cons offer rest ih => rw [enroll, List.length_cons, ih, List.length_cons]

theorem enroll_append (place : Nat) (first second : List (Int32 × Program)) :
    enroll place (first ++ second) = enroll place first ++ enroll (place + first.length) second := by
  induction first generalizing place with
  | nil => rfl
  | cons offer rest ih =>
    rw [List.cons_append, enroll, ih, enroll, List.cons_append, List.length_cons,
      Nat.add_assoc place 1, Nat.add_comm 1]

theorem getElem?_enroll (start place : Nat) (offers : List (Int32 × Program)) :
    (enroll start offers)[place]? =
      offers[place]?.map fun offer => ⟨UInt32.ofNat (start + place), offer.1, offer.2⟩ := by
  induction offers generalizing start place with
  | nil => rfl
  | cons offer rest ih =>
    cases place with
    | zero => rfl
    | succ place =>
      rw [enroll, List.getElem?_cons_succ, ih, List.getElem?_cons_succ, Nat.add_assoc start 1,
        Nat.add_comm 1]

/-- As long as there are identifiers, programs are enrolled under consecutive ones. -/
theorem toNat_enroll {place : Nat} {offers : List (Int32 × Program)}
    (fits : place + offers.length ≤ taskIdCount) :
    (enroll place offers).map (fun entry => entry.id.toNat) =
      List.range' place offers.length := by
  induction offers generalizing place with
  | nil => rfl
  | cons offer rest ih =>
    rw [List.length_cons] at fits
    have here : (UInt32.ofNat place).toNat = place :=
      UInt32.toNat_ofNat_of_lt' (show place < taskIdCount by omega)
    rw [enroll, List.map_cons, here, ih (by omega), List.length_cons, List.range'_succ]

/-! ## Registries -/

namespace Registry

variable {registry : Registry}

/-- How the tasks were enrolled, in order. -/
def roll (registry : Registry) : List Enrollment :=
  registry.tasks.toList.map Task.enrollment

/-- How many more tasks can be admitted. -/
def room (registry : Registry) : Nat :=
  registry.limit - registry.size

theorem getElem?_roll (registry : Registry) (id : TaskId) :
    registry.roll[id.toNat]? = (registry.get? id).map Task.enrollment := by
  rw [roll, List.getElem?_map, Array.getElem?_toList, get?]

@[simp] theorem length_roll (registry : Registry) : registry.roll.length = registry.size := by
  rw [roll, List.length_map, Array.length_toList, size]

/-- A program that finds room is enrolled under the next identifier. -/
theorem insert_of_room (priority : Int32) (program : Program)
    (room : registry.size < registry.limit) :
    ∃ grown, registry.insert priority program = .ok (UInt32.ofNat registry.size, grown) ∧
      grown.capacity = registry.capacity ∧
      grown.roll = registry.roll ++ enroll registry.size [(priority, program)] := by
  obtain ⟨grown, inserted, capacity⟩ : ∃ grown,
      registry.insert priority program = .ok (UInt32.ofNat registry.size, grown) ∧
        grown.capacity = registry.capacity :=
    ⟨_, dif_pos room, rfl⟩
  refine ⟨grown, inserted, capacity, ?_⟩
  rw [roll, (insert_eq_ok inserted).2, Array.toList_push, List.map_append, roll]
  rfl

theorem insert_of_full (priority : Int32) (program : Program)
    (full : registry.limit ≤ registry.size) :
    registry.insert priority program = .error ⟨registry.capacity⟩ :=
  dif_neg (Nat.not_lt.2 full)

/-- Replacing a task by one that is enrolled alike keeps the roll. -/
theorem roll_set {old new : Task} (found : registry.get? new.id = some old)
    (same : new.enrollment = old.enrollment) : (registry.set new).roll = registry.roll :=
  map_set found same

/-- The tasks of a registry are enrolled as they were, and there is room for as many more. -/
structure Keeps (before after : Registry) : Prop where
  capacity : after.capacity = before.capacity
  roll : after.roll = before.roll

theorem Keeps.refl (registry : Registry) : Keeps registry registry :=
  ⟨rfl, rfl⟩

theorem Keeps.trans {first second third : Registry} (left : Keeps first second)
    (right : Keeps second third) : Keeps first third :=
  ⟨right.capacity.trans left.capacity, right.roll.trans left.roll⟩

theorem Keeps.size {before after : Registry} (kept : Keeps before after) :
    after.size = before.size := by
  rw [← length_roll, kept.roll, length_roll]

end Registry

end TimeShare
