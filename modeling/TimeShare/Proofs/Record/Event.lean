import TimeShare.Proofs.Instruction.Notation
import TimeShare.Proofs.Json.Reader
import TimeShare.Record.Event

/-!
# Events are read back from their records

An event is written as an object that begins with its name, and the values of its
members are tokens. `Event.ofMembers?` makes an event of such members. It looks
members up by their keys and reads registers and instructions in their written
form, so it needs the instruction of an executed one to be what some line decodes
to (`Event.Decoded`); `ofMembers?_members` says that nothing else is needed.
-/

namespace TimeShare

open Json

/-- What some line decodes to. -/
def Instruction.Decoded (instruction : Instruction) : Prop :=
  ∃ line text, decode line text = .ok instruction

theorem Instruction.Decoded.decode_chars {instruction : Instruction}
    (decoded : instruction.Decoded) (line : Nat) :
    decode line instruction.chars = .ok instruction := by
  obtain ⟨_, _, decoded⟩ := decoded
  exact Instruction.decode_chars decoded line

theorem Register.ofChars?_chars (r : Register) : ofChars? r.chars = some r :=
  Instruction.isRegister_iff.1 (Instruction.isRegister_chars r)

/-! ## Members -/

/-- The members of an object whose values are tokens. -/
abbrev Members := List (String × Token)

namespace Members

def integer? (members : Members) (key : String) : Option Int :=
  match members.lookup key with
  | some (.integer value) => some value
  | _ => none

def natural? (members : Members) (key : String) : Option Nat :=
  (members.integer? key).bind Int.toNat?

def string? (members : Members) (key : String) : Option String :=
  match members.lookup key with
  | some (.string text) => some text
  | _ => none

def task? (members : Members) : Option TaskId :=
  (members.natural? "task").map UInt32.ofNat

def word? (members : Members) (key : String) : Option Int32 :=
  (members.integer? key).map Int32.ofInt

def register? (members : Members) : Option Register :=
  (members.string? "register").bind fun text => Register.ofChars? text.toList

def instruction? (members : Members) : Option Instruction :=
  (members.string? "instruction").bind fun text => (Instruction.decode 1 text.toList).toOption

end Members

/-- The event of a processor that some members tell of, with its name. -/
def Processor.Event.ofMembers? (members : Members) (name : String) : Option Processor.Event :=
  match name with
  | "executed" => do
    let pc ← members.natural? "pc"
    return .executed pc (← members.instruction?) (members.word? "result")
  | "pushed" => do
    let value ← members.word? "value"
    return .pushed (← members.register?) value (← members.integer? "sp")
  | "popped" => do
    let value ← members.word? "value"
    return .popped (← members.register?) value (← members.integer? "sp")
  | "stack_overflow" => return .stackOverflow (← members.natural? "pc")
  | "stack_underflow" => return .stackUnderflow (← members.natural? "pc")
  | "unknown_opcode" => do
    let pc ← members.natural? "pc"
    return .unknownOpcode pc (← members.string? "text")
  | "halted" => return .halted (← members.natural? "pc")
  | "program_exhausted" => return .exhausted (← members.natural? "pc")
  | _ => none

namespace Event

/-- The event that some members tell of. -/
def ofMembers? (members : Members) : Option Event := do
  match ← members.string? "event" with
  | "task_admitted" => do
    let priority ← members.word? "priority"
    return .taskAdmitted (← members.task?) priority (← members.natural? "instructions")
  | "admission_rejected" => return .admissionRejected (← members.natural? "capacity")
  | "scheduler_started" => do
    let tasks ← members.natural? "tasks"
    return .schedulerStarted tasks (← members.natural? "slice_micros")
  | "sweep_started" => do
    let sweep ← members.natural? "sweep"
    return .sweepStarted sweep (← members.natural? "incomplete")
  | "task_dispatched" => do
    let priority ← members.word? "priority"
    return .taskDispatched (← members.task?) priority (← members.natural? "pc")
  | "task_preempted" => do
    let pc ← members.natural? "pc"
    return .taskPreempted (← members.task?) pc (← members.natural? "retired")
  | "task_completed" => do
    let pc ← members.natural? "pc"
    return .taskCompleted (← members.task?) pc (← members.natural? "retired")
  | "all_completed" => return .allCompleted (← members.natural? "sweeps")
  | name => return .ran (← members.task?) (← Processor.Event.ofMembers? members name)

/-- The members of an event after its name, each with the token that is its value. -/
def fields (event : Event) : Members :=
  event.members.flatMap fun (key, value) => value.map fun token => (key, token)

theorem members_eq (event : Event) :
    event.members = event.fields.map fun (key, value) => (key, [value]) := by
  cases event with
  | ran task event =>
    cases event with
    | executed pc instruction result => cases result <;> rfl
    | _ => rfl
  | _ => rfl

/-- An event is written as an object of its name and its members. -/
theorem tokens_eq (event : Event) :
    event.tokens = flatObject (("event", .string event.name) :: event.fields) := by
  rw [tokens, members_eq]
  rfl

theorem isScalar_of_mem_fields (event : Event) :
    event.fields.all (fun member => member.2.isScalar) = true := by
  cases event with
  | ran task event =>
    cases event with
    | executed pc instruction result => cases result <;> rfl
    | _ => rfl
  | _ => rfl

/-- If the event is that an instruction was executed, some line decodes to the instruction. -/
def Decoded : Event → Prop
  | ran _ (.executed _ instruction _) => instruction.Decoded
  | _ => True

/-- A processor's event is read back from its name and its members. -/
theorem ofMembers?_ran (task : TaskId) {event : Processor.Event}
    (decoded : (ran task event).Decoded) :
    Processor.Event.ofMembers? (("event", .string event.name) :: (ran task event).fields)
      event.name = some event := by
  have register : ∀ r : Register, Register.ofChars? r.text.toList = some r := by
    intro r
    rw [Register.text, String.toList_ofList, Register.ofChars?_chars]
  cases event with
  | executed pc instruction result =>
    have again : Instruction.decode 1 instruction.text.toList = .ok instruction := by
      rw [Instruction.text, String.toList_ofList]
      exact decoded.decode_chars 1
    cases result with
    | none =>
      change ((Instruction.decode 1 instruction.text.toList).toOption.bind fun instruction =>
        some (Processor.Event.executed pc instruction none)) = _
      rw [again]
      rfl
    | some value =>
      change ((Instruction.decode 1 instruction.text.toList).toOption.bind fun instruction =>
        some (Processor.Event.executed pc instruction (some (Int32.ofInt value.toInt)))) = _
      rw [again, Int32.ofInt_toInt]
      rfl
  | pushed r value sp =>
    change ((Register.ofChars? r.text.toList).bind fun r =>
      some (Processor.Event.pushed r (Int32.ofInt value.toInt) sp)) = _
    rw [register, Int32.ofInt_toInt]
    rfl
  | popped r value sp =>
    change ((Register.ofChars? r.text.toList).bind fun r =>
      some (Processor.Event.popped r (Int32.ofInt value.toInt) sp)) = _
    rw [register, Int32.ofInt_toInt]
    rfl
  | _ => rfl

/-- An event is read back from its name and its members. -/
theorem ofMembers?_members {event : Event} (decoded : event.Decoded) :
    ofMembers? (("event", .string event.name) :: event.fields) = some event := by
  cases event with
  | taskAdmitted task priority instructions =>
    change some (taskAdmitted (UInt32.ofNat task.toNat) (Int32.ofInt priority.toInt)
      instructions) = _
    rw [UInt32.ofNat_toNat, Int32.ofInt_toInt]
  | taskDispatched task priority pc =>
    change some (taskDispatched (UInt32.ofNat task.toNat) (Int32.ofInt priority.toInt) pc) = _
    rw [UInt32.ofNat_toNat, Int32.ofInt_toInt]
  | taskPreempted task pc retired =>
    change some (taskPreempted (UInt32.ofNat task.toNat) pc retired) = _
    rw [UInt32.ofNat_toNat]
  | taskCompleted task pc retired =>
    change some (taskCompleted (UInt32.ofNat task.toNat) pc retired) = _
    rw [UInt32.ofNat_toNat]
  | ran task event =>
    have read : ofMembers? (("event", .string event.name) :: (ran task event).fields) =
        (Processor.Event.ofMembers? (("event", .string event.name) :: (ran task event).fields)
          event.name).bind fun event => some (ran (UInt32.ofNat task.toNat) event) := by
      cases event with
      | executed pc instruction result => cases result <;> rfl
      | _ => rfl
    rw [name, read, ofMembers?_ran task decoded, UInt32.ofNat_toNat]
    rfl
  | _ => rfl

end Event

end TimeShare
