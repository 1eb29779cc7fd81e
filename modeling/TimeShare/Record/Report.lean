import TimeShare.Json.Fields
import TimeShare.Record.Names
import TimeShare.Scheduler.Run

/-!
# Reports as records

Snapshots of tasks, statistics and summaries of runs. A part of a snapshot that is
missing is left out of its record, and read back as missing.
-/

namespace TimeShare

open Json

/-! ## Snapshots -/

def RegisterFile.tokens (registers : RegisterFile) : List Token :=
  array (registers.toList.map fun value => [.integer value.toInt])

def RegisterFile.reader : Reader RegisterFile :=
  Reader.vector registerCount ((Reader.signedWord 32).map Int32.ofInt)

def readUInt64 : Reader UInt64 :=
  (Reader.word 64).map UInt64.ofNat

def uint64Tokens (n : UInt64) : List Token :=
  natural n.toNat

namespace Snapshot

def tokens (s : Snapshot) : List Token :=
  object
    ([("id", natural s.id.toNat), ("priority", [.integer s.priority.toInt]),
        ("state", s.phase.tokens), ("completed", [.bool s.completed])] ++
      optional "exit" Exit.tokens s.exit ++
      [("dispatches", uint64Tokens s.dispatches)] ++
      optional "pc" uint64Tokens s.pc ++
      optional "sp" (fun sp => [.integer sp.toInt]) s.stackPointer ++
      optional "registers" RegisterFile.tokens s.registers)

def fields :=
  (Fields.required "id" ((Reader.word 32).map UInt32.ofNat)).both
    ((Fields.required "priority" ((Reader.signedWord 32).map Int32.ofInt)).both
      ((Fields.required "state" Phase.reader).both
        ((Fields.required "completed" Reader.bool).both
          ((Fields.optional "exit" Exit.reader).both
            ((Fields.required "dispatches" readUInt64).both
              ((Fields.optional "pc" readUInt64).both
                ((Fields.optional "sp" ((Reader.signedWord 64).map Int64.ofInt)).both
                  (Fields.optional "registers" RegisterFile.reader))))))))

def reader : Reader Snapshot :=
  fields.reader.map
    fun (id, priority, phase, completed, exit, dispatches, pc, stackPointer, registers) =>
      { id, priority, phase, completed, exit, dispatches, pc, stackPointer, registers }

end Snapshot

/-! ## Statistics -/

namespace Statistics

def tokens (s : Statistics) : List Token :=
  object
    [("sweeps", uint64Tokens s.sweeps), ("dispatches", uint64Tokens s.dispatches),
      ("preemptions", uint64Tokens s.preemptions), ("completions", uint64Tokens s.completions),
      ("instructions", uint64Tokens s.instructions),
      ("unknown_opcodes", uint64Tokens s.unknownOpcodes),
      ("stack_overflows", uint64Tokens s.stackOverflows),
      ("stack_underflows", uint64Tokens s.stackUnderflows),
      ("slice_micros", uint64Tokens s.sliceMicros)]

def fields :=
  (Fields.required "sweeps" readUInt64).both
    ((Fields.required "dispatches" readUInt64).both
      ((Fields.required "preemptions" readUInt64).both
        ((Fields.required "completions" readUInt64).both
          ((Fields.required "instructions" readUInt64).both
            ((Fields.required "unknown_opcodes" readUInt64).both
              ((Fields.required "stack_overflows" readUInt64).both
                ((Fields.required "stack_underflows" readUInt64).both
                  (Fields.required "slice_micros" readUInt64))))))))

def reader : Reader Statistics :=
  fields.reader.map
    fun (sweeps, dispatches, preemptions, completions, instructions, unknownOpcodes,
        stackOverflows, stackUnderflows, sliceMicros) =>
      { sweeps, dispatches, preemptions, completions, instructions, unknownOpcodes,
        stackOverflows, stackUnderflows, sliceMicros }

end Statistics

/-! ## Summaries -/

/-- The identifier of a run, a number of 128 bits. -/
abbrev RunId := BitVec 128

namespace RunId

/-- The last hexadecimal digits of a number. -/
def hexDigits : Nat → Nat → List Char
  | 0, _ => []
  | count + 1, n => hexDigits count (n / 16) ++ [(n % 16).digitChar]

/-- The lengths of the groups of digits in a run's identifier. -/
def groups : List Nat :=
  [8, 4, 4, 4, 12]

def cut : List Nat → List Char → List (List Char)
  | [], _ => []
  | size :: sizes, digits => digits.take size :: cut sizes (digits.drop size)

/-- The written form of a run's identifier: 32 hexadecimal digits in five groups. -/
def text (id : RunId) : String :=
  String.ofList (['-'].intercalate (cut groups (hexDigits 32 id.toNat)))

end RunId

def Summary.tokens (summary : Summary) (id : RunId) : List Token :=
  object
    [("run_id", [.string id.text]), ("sweeps", natural summary.sweeps),
      ("tasks", array (summary.tasks.map Snapshot.tokens)),
      ("stats", summary.statistics.tokens)]

end TimeShare
