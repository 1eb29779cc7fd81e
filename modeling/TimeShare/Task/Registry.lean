import TimeShare.Task.Snapshot

/-!
# The registry of tasks

A registry keeps tasks in the order of their admission, and a task's place in it
is its identifier. It has a capacity, and never more tasks than there are
identifiers. A task is never removed, so a completed task does not make room.

Identifiers have 32 bits. A registry with a larger capacity is full once all of
them are given (`limit`). This differs from a counter that is cut to 32 bits, which
would go round there and give the first identifiers again; so many tasks do not fit
into memory.
-/

namespace TimeShare

/-- Why a task was not admitted: the registry has no room. -/
structure AdmissionError where
  capacity : Nat
  deriving DecidableEq, Repr

namespace AdmissionError

def message (error : AdmissionError) : String :=
  s!"admission rejected: registry full ({error.capacity} tasks)"

def code (_ : AdmissionError) : String :=
  "registry::admission_rejected"

/-- The advice that goes with an admission error. -/
def help (_ : AdmissionError) : String :=
  "The registry has a fixed capacity. Raise VCPU_MAX_TASKS or admit fewer tasks."

end AdmissionError

/-- Tasks in the order of their admission. -/
@[ext]
structure Registry where
  capacity : Nat
  tasks : Array Task
  size_le : tasks.size ≤ taskIdCount
  /-- The place of a task is its identifier. -/
  id_eq : ∀ (place : Nat) (inside : place < tasks.size), tasks[place].id.toNat = place

namespace Registry

def empty (capacity : Nat) : Registry :=
  ⟨capacity, #[], Nat.zero_le _, nofun⟩

def size (registry : Registry) : Nat :=
  registry.tasks.size

/-- How many tasks can be admitted altogether. -/
def limit (registry : Registry) : Nat :=
  min registry.capacity taskIdCount

def isFull (registry : Registry) : Bool :=
  registry.limit ≤ registry.size

/-- Admits a task, unless the registry is full. -/
def insert (registry : Registry) (priority : Int32) (program : Program) :
    Except AdmissionError (TaskId × Registry) :=
  if room : registry.size < registry.limit then
    let id := UInt32.ofNat registry.size
    .ok (id,
      { capacity := registry.capacity
        tasks := registry.tasks.push (Task.fresh id priority program)
        size_le := by
          simp only [limit, size] at room
          simp only [Array.size_push]
          omega
        id_eq := by
          intro place inside
          rw [Array.getElem_push]
          split
          · exact registry.id_eq place _
          · rename_i last
            have place_eq : place = registry.size := by
              simp only [Array.size_push] at inside
              simp only [size]
              omega
            have below : registry.size < taskIdCount := by
              simp only [limit] at room
              omega
            rw [place_eq]
            exact UInt32.toNat_ofNat_of_lt' below })
  else
    .error ⟨registry.capacity⟩

def get? (registry : Registry) (id : TaskId) : Option Task :=
  registry.tasks[id.toNat]?

/-- Puts a task in the place of the one that has its identifier. -/
def set (registry : Registry) (task : Task) : Registry where
  capacity := registry.capacity
  tasks := registry.tasks.setIfInBounds task.id.toNat task
  size_le := by
    simpa using registry.size_le
  id_eq := by
    intro place inside
    have before : place < registry.tasks.size := by simpa using inside
    rw [Array.getElem_setIfInBounds before]
    split
    · assumption
    · exact registry.id_eq place before

/-- Gives the preemption flag of a task a value. -/
def setFlag (registry : Registry) (id : TaskId) (raised : Bool) : Registry :=
  match registry.get? id with
  | some task => registry.set { task with raised }
  | none => registry

/-- The identifiers of the tasks that are not completed, in order. -/
def runnable (registry : Registry) : List TaskId :=
  (registry.tasks.toList.filter fun task => !task.isCompleted).map Task.id

def snapshots (registry : Registry) : List Snapshot :=
  registry.tasks.toList.map Task.snapshot

def count (registry : Registry) (p : Task → Bool) : Nat :=
  registry.tasks.toList.countP p

/-- The number of tasks that are not completed. -/
def incompleteCount (registry : Registry) : Nat :=
  registry.count fun task => !task.isCompleted

/-- The sum of a number over all tasks. -/
def total (registry : Registry) (weight : Task → Nat) : Nat :=
  -- The zero is named, since which one is found depends on how much of a library is imported.
  @List.sum Nat _ Zero.ofOfNat0 (registry.tasks.toList.map weight)

def dispatches (registry : Registry) : Nat :=
  registry.total Task.dispatches

/-- An upper bound on the further dispatches of all tasks. -/
def work (registry : Registry) : Nat :=
  registry.total Task.work

/-! ## Looking tasks up -/

/-- A task is found under its own identifier only. -/
theorem id_of_get? {registry : Registry} {id : TaskId} {task : Task}
    (found : registry.get? id = some task) : task.id = id := by
  obtain ⟨inside, rfl⟩ := Array.getElem?_eq_some_iff.1 found
  exact UInt32.toNat_inj.1 (registry.id_eq _ inside)

/-- A task that is dispatched keeps its identifier. -/
theorem id_of_begin {registry : Registry} {id : TaskId} {task begun : Task} {processor : Processor}
    (found : registry.get? id = some task) (began : task.begin? = some (processor, begun)) :
    begun.id = id := by
  rw [(Task.begin?_eq_some_iff.1 began).2, ← id_of_get? found]

/-- Every task is found under its identifier. -/
theorem get?_id_of_mem {registry : Registry} {task : Task} (mem : task ∈ registry.tasks) :
    registry.get? task.id = some task := by
  obtain ⟨place, inside, rfl⟩ := Array.mem_iff_getElem.1 mem
  rw [get?, registry.id_eq place inside]
  exact Array.getElem?_eq_getElem inside

theorem mem_of_get? {registry : Registry} {id : TaskId} {task : Task}
    (found : registry.get? id = some task) : task ∈ registry.tasks :=
  Array.mem_of_getElem? found

/-- The runnable tasks are those that are not completed. -/
theorem mem_runnable_iff {registry : Registry} {id : TaskId} :
    id ∈ registry.runnable ↔ ∃ task, registry.get? id = some task ∧ task.isCompleted = false := by
  simp only [runnable, List.mem_map, List.mem_filter, Bool.not_eq_true', Array.mem_toList_iff]
  constructor
  · rintro ⟨task, ⟨mem, incomplete⟩, rfl⟩
    exact ⟨task, get?_id_of_mem mem, incomplete⟩
  · rintro ⟨task, found, incomplete⟩
    exact ⟨task, ⟨mem_of_get? found, incomplete⟩, id_of_get? found⟩

/-- The runnable tasks are listed in the order of their identifiers. -/
theorem pairwise_runnable (registry : Registry) : registry.runnable.Pairwise (· < ·) := by
  refine List.Pairwise.sublist (List.filter_sublist.map Task.id) (List.pairwise_iff_getElem.2 ?_)
  intro first second firstInside secondInside before
  rw [UInt32.lt_iff_toNat_lt, List.getElem_map, List.getElem_map, Array.getElem_toList,
    Array.getElem_toList, registry.id_eq, registry.id_eq]
  exact before

theorem nodup_runnable (registry : Registry) : registry.runnable.Nodup := by
  refine registry.pairwise_runnable.imp ?_
  rintro first second before rfl
  exact UInt32.lt_irrefl first before

/-- As many tasks are listed as runnable as are counted. -/
theorem length_runnable (registry : Registry) :
    registry.runnable.length = registry.incompleteCount := by
  rw [runnable, List.length_map, incompleteCount, count, List.countP_eq_length_filter]

theorem count_eq_total (registry : Registry) (p : Task → Bool) :
    registry.count p = registry.total fun task => (p task).toNat := by
  rw [count, total]
  induction registry.tasks.toList with
  | nil => rfl
  | cons task rest ih =>
    rw [List.countP_cons, List.map_cons, List.sum_cons, ih, Nat.add_comm]
    cases p task <;> rfl

/-! ## Replacing a task -/

@[simp] theorem size_set (registry : Registry) (task : Task) :
    (registry.set task).size = registry.size := by
  simp [size, set]

theorem get?_set_self {registry : Registry} {old new : Task}
    (found : registry.get? new.id = some old) : (registry.set new).get? new.id = some new := by
  obtain ⟨inside, _⟩ := Array.getElem?_eq_some_iff.1 found
  simp [get?, set, inside]

theorem get?_set_of_ne {registry : Registry} {id : TaskId} {task : Task} (other : task.id ≠ id) :
    (registry.set task).get? id = registry.get? id := by
  have places : task.id.toNat ≠ id.toNat := fun same => other (UInt32.toNat_inj.1 same)
  simp [get?, set, places]

/-- What is found is the task put in its place, or another task that was there before. -/
theorem get?_set_cases {registry : Registry} {id : TaskId} {new task : Task}
    (found : (registry.set new).get? id = some task) :
    task = new ∨ new.id ≠ id ∧ registry.get? id = some task := by
  by_cases same : new.id = id
  · subst same
    have inside : new.id.toNat < registry.tasks.size := by
      simpa [get?, set] using (Array.getElem?_eq_some_iff.1 found).1
    have here : registry.get? new.id = some registry.tasks[new.id.toNat] :=
      Array.getElem?_eq_getElem inside
    exact .inl (Option.some.inj (found.symm.trans (get?_set_self here)))
  · exact .inr ⟨same, (get?_set_of_ne same).symm.trans found⟩

/-- Of two tasks put in one place the second stays. -/
theorem set_set {registry : Registry} {first second : Task} (same : first.id = second.id) :
    (registry.set first).set second = registry.set second := by
  simp only [set, mk.injEq, true_and, same]
  apply Array.ext_getElem?
  intro place
  simp only [Array.getElem?_setIfInBounds, Array.size_setIfInBounds]
  split <;> simp_all

/-- Replacing a task by one with the same value of something keeps the values of all tasks. -/
theorem map_set {β : Type} {registry : Registry} {old new : Task} {f : Task → β}
    (found : registry.get? new.id = some old) (same : f new = f old) :
    (registry.set new).tasks.toList.map f = registry.tasks.toList.map f := by
  obtain ⟨inside, here⟩ := Array.getElem?_eq_some_iff.1 found
  have place : new.id.toNat < (registry.tasks.toList.map f).length := by
    simpa using inside
  have value : (registry.tasks.toList.map f)[new.id.toNat] = f new := by
    rw [List.getElem_map, Array.getElem_toList, here, same]
  rw [set, Array.toList_setIfInBounds, List.map_set, ← value, List.set_getElem_self]

/-- Replacing a task changes a sum over all tasks by the difference. -/
theorem total_set {registry : Registry} {old new : Task} (found : registry.get? new.id = some old)
    (weight : Task → Nat) :
    (registry.set new).total weight + weight old = registry.total weight + weight new := by
  obtain ⟨inside, here⟩ := Array.getElem?_eq_some_iff.1 found
  have place : new.id.toNat < (registry.tasks.toList.map weight).length := by
    simpa using inside
  have value : (registry.tasks.toList.map weight)[new.id.toNat] = weight old := by
    rw [List.getElem_map, Array.getElem_toList, here]
  -- The weight at the place stands between those before it and those behind it.
  have parted : registry.total weight =
      ((registry.tasks.toList.map weight).take new.id.toNat).sum +
        (weight old + ((registry.tasks.toList.map weight).drop (new.id.toNat + 1)).sum) := by
    rw [← value, ← List.sum_cons, List.getElem_cons_drop, ← List.sum_append_nat,
      List.take_append_drop, total]
  rw [parted, total, set, Array.toList_setIfInBounds, List.map_set,
    List.set_eq_take_append_cons_drop, if_pos place, List.sum_append_nat, List.sum_cons]
  omega

/-! ## Admitting a task -/

section Insert

variable {registry registry' : Registry} {priority : Int32} {program : Program} {id : TaskId}

/-- A task is admitted behind the others, under the next identifier. -/
theorem insert_eq_ok (inserted : registry.insert priority program = .ok (id, registry')) :
    id.toNat = registry.size ∧
      registry'.tasks = registry.tasks.push (Task.fresh id priority program) := by
  unfold insert at inserted
  split at inserted
  · rename_i room
    injection inserted with inserted
    obtain ⟨rfl, rfl⟩ := Prod.mk.inj inserted
    have below : registry.size < taskIdCount := by
      simp only [limit] at room
      omega
    exact ⟨UInt32.toNat_ofNat_of_lt' below, rfl⟩
  · cases inserted

theorem get?_insert_of_some {other : TaskId} {task : Task}
    (inserted : registry.insert priority program = .ok (id, registry'))
    (found : registry.get? other = some task) : registry'.get? other = some task := by
  obtain ⟨inside, _⟩ := Array.getElem?_eq_some_iff.1 found
  rw [get?, (insert_eq_ok inserted).2, Array.getElem?_push_lt inside, ← found, get?,
    Array.getElem?_eq_getElem inside]

/-- What is found is the new task or was found before. -/
theorem get?_insert_cases {other : TaskId} {task : Task}
    (inserted : registry.insert priority program = .ok (id, registry'))
    (found : registry'.get? other = some task) :
    registry.get? other = some task ∨ task = Task.fresh id priority program := by
  rw [get?, (insert_eq_ok inserted).2, Array.getElem?_push] at found
  split at found
  · exact .inr (Option.some.inj found).symm
  · exact .inl found

/-- What is found was found before, or is the new task where there was none. -/
theorem get?_insert_split {other : TaskId} {task : Task}
    (inserted : registry.insert priority program = .ok (id, registry'))
    (found : registry'.get? other = some task) :
    registry.get? other = some task ∨
      registry.get? other = none ∧ task = Task.fresh id priority program := by
  cases earlier : registry.get? other with
  | some old =>
    have kept := get?_insert_of_some inserted earlier
    exact .inl (kept.symm.trans found)
  | none =>
    rcases get?_insert_cases inserted found with before | new
    · cases earlier.symm.trans before
    · exact .inr ⟨rfl, new⟩

theorem size_insert (inserted : registry.insert priority program = .ok (id, registry')) :
    registry'.size = registry.size + 1 := by
  rw [size, (insert_eq_ok inserted).2, Array.size_push, size]

theorem total_insert (inserted : registry.insert priority program = .ok (id, registry'))
    (weight : Task → Nat) :
    registry'.total weight = registry.total weight + weight (Task.fresh id priority program) := by
  rw [total, (insert_eq_ok inserted).2, Array.toList_push, List.map_append, List.map_singleton,
    List.sum_append_nat, List.sum_singleton, total]

end Insert

end Registry

end TimeShare
