import TimeShare.Proofs.Json.Fields
import TimeShare.Proofs.Record.Error
import TimeShare.Record.Report

/-!
# Reports and errors lose nothing in their records

Names, snapshots of tasks and statistics are read back from their records. A part of
a snapshot that is missing leaves no member behind, and is read back as missing.
`records_read_back` says the same of every kind of value that has both a record and a
reader, errors included.
-/

namespace TimeShare

open Json

/-! ## Names -/

theorem Exit.restores (exit : Exit) : Restores reader exit.tokens exit :=
  restores_oneOf (by cases exit <;> rfl)

theorem Fault.restores (fault : Fault) : Restores reader fault.tokens fault :=
  restores_oneOf (by cases fault <;> rfl)

theorem StackFault.restores (fault : StackFault) : Restores reader fault.tokens fault :=
  restores_oneOf (by cases fault <;> rfl)

theorem Phase.restores (phase : Phase) : Restores reader phase.tokens phase :=
  restores_oneOf (by cases phase <;> rfl)

/-! ## Snapshots -/

theorem RegisterFile.restores (registers : RegisterFile) :
    Restores reader registers.tokens registers :=
  restores_vector fun value _ => restores_int32 value

namespace Snapshot

/-- The members of a snapshot's record. -/
def members (s : Snapshot) : List (String × List Token) :=
  ("id", natural s.id.toNat) :: ("priority", [.integer s.priority.toInt]) ::
    ("state", s.phase.tokens) :: ("completed", [.bool s.completed]) ::
    (optional "exit" Exit.tokens s.exit ++ ("dispatches", uint64Tokens s.dispatches) ::
      (optional "pc" uint64Tokens s.pc ++
        (optional "sp" (fun sp => [.integer sp.toInt]) s.stackPointer ++
          optional "registers" RegisterFile.tokens s.registers)))

theorem tokens_eq (s : Snapshot) : s.tokens = object s.members := by
  simp only [tokens, members, List.append_assoc, List.cons_append, List.nil_append]

theorem makes (s : Snapshot) :
    fields.Makes s.members
      (s.id, s.priority, s.phase, s.completed, s.exit, s.dispatches, s.pc, s.stackPointer,
        s.registers) :=
  .after_required (restores_uint32 s.id) (by simp) <|
    .after_required (restores_int32 s.priority) (by simp) <|
      .after_required s.phase.restores (by simp) <|
        .after_required (restores_bool s.completed) (by simp) <|
          .after_optional (fun exit _ => exit.restores) (by simp) <|
            .after_required (restores_uint64 s.dispatches) (by simp) <|
              .after_optional (fun pc _ => restores_uint64 pc) (by simp) <|
                .after_optional (fun sp _ => restores_int64 sp) (by simp) <|
                  Fields.makes_optional "registers" fun registers _ => registers.restores

theorem restores (s : Snapshot) : Restores reader s.tokens s := by
  rw [tokens_eq]
  exact s.makes.restores.map _

/-- The parts of a snapshot that may be missing, by their keys, and whether they are there. -/
def parts (s : Snapshot) : List (String × Bool) :=
  [("exit", s.exit.isSome), ("pc", s.pc.isSome), ("sp", s.stackPointer.isSome),
    ("registers", s.registers.isSome)]

/-- A snapshot's record has the members of just those parts that are there. -/
theorem mem_members_iff (s : Snapshot) {part : String × Bool} (mem : part ∈ s.parts) :
    part.1 ∈ s.members.map Prod.fst ↔ part.2 = true := by
  simp only [parts, List.mem_cons, List.not_mem_nil, or_false] at mem
  rcases mem with rfl | rfl | rfl | rfl <;> simp [members, map_fst_optional]

end Snapshot

/-! ## Statistics -/

namespace Statistics

theorem makes (s : Statistics) :
    fields.Makes
      [("sweeps", uint64Tokens s.sweeps), ("dispatches", uint64Tokens s.dispatches),
        ("preemptions", uint64Tokens s.preemptions), ("completions", uint64Tokens s.completions),
        ("instructions", uint64Tokens s.instructions),
        ("unknown_opcodes", uint64Tokens s.unknownOpcodes),
        ("stack_overflows", uint64Tokens s.stackOverflows),
        ("stack_underflows", uint64Tokens s.stackUnderflows),
        ("slice_micros", uint64Tokens s.sliceMicros)]
      (s.sweeps, s.dispatches, s.preemptions, s.completions, s.instructions, s.unknownOpcodes,
        s.stackOverflows, s.stackUnderflows, s.sliceMicros) :=
  .after_required (restores_uint64 s.sweeps) (by simp) <|
    .after_required (restores_uint64 s.dispatches) (by simp) <|
      .after_required (restores_uint64 s.preemptions) (by simp) <|
        .after_required (restores_uint64 s.completions) (by simp) <|
          .after_required (restores_uint64 s.instructions) (by simp) <|
            .after_required (restores_uint64 s.unknownOpcodes) (by simp) <|
              .after_required (restores_uint64 s.stackOverflows) (by simp) <|
                .after_required (restores_uint64 s.stackUnderflows) (by simp) <|
                  Fields.makes_required "slice_micros" (restores_uint64 s.sliceMicros)

theorem restores (s : Statistics) : Restores reader s.tokens s :=
  s.makes.restores.map _

end Statistics

/-! ## Every record -/

/-- What is written of an error of loading, of admission or of a configuration, of a snapshot, of
statistics or of a name is read back as the same value. Texts may hold any characters; numbers have
the bits of their type. A snapshot's record has a member for an exit, a position, a stack pointer or
registers only if they are there, and without one they are read back as missing. -/
theorem records_read_back :
    (∀ error : LoadError, error.Fits →
        Reader.readText LoadError.reader (compact error.tokens) = .ok error) ∧
      (∀ error : AdmissionError, error.Fits →
        Reader.readText AdmissionError.reader (compact error.tokens) = .ok error) ∧
      (∀ error : ConfigError, error.Fits →
        Reader.readText ConfigError.reader (compact error.tokens) = .ok error) ∧
      (∀ s : Snapshot, Reader.readText Snapshot.reader (compact s.tokens) = .ok s ∧
        s.tokens = object s.members ∧
          ∀ part ∈ s.parts, part.1 ∈ s.members.map Prod.fst ↔ part.2 = true) ∧
      (∀ s : Statistics, Reader.readText Statistics.reader (compact s.tokens) = .ok s) ∧
      (∀ phase : Phase, Reader.readText Phase.reader (compact phase.tokens) = .ok phase) ∧
      (∀ exit : Exit, Reader.readText Exit.reader (compact exit.tokens) = .ok exit) ∧
      (∀ fault : Fault, Reader.readText Fault.reader (compact fault.tokens) = .ok fault) ∧
      ∀ fault : StackFault,
        Reader.readText StackFault.reader (compact fault.tokens) = .ok fault := by
  refine ⟨?_, ?_, ?_, ?_, ?_, ?_, ?_, ?_, ?_⟩
  · exact fun error fits => (LoadError.restores fits).readText
  · exact fun error fits => (AdmissionError.restores fits).readText
  · exact fun error fits => (ConfigError.restores fits).readText
  · exact fun s => ⟨s.restores.readText, s.tokens_eq, fun part mem => s.mem_members_iff mem⟩
  · exact fun s => s.restores.readText
  · exact fun phase => phase.restores.readText
  · exact fun exit => exit.restores.readText
  · exact fun fault => fault.restores.readText
  · exact fun fault => fault.restores.readText

/-- The largest numbers and texts of characters that have to be escaped are read back. -/
theorem records_read_back_extremes :
    (LoadError.operandCount 18446744073709551615 "\"\\" "\x00\n" 0).Fits ∧
      Reader.readText LoadError.reader
          (compact (LoadError.operandCount 18446744073709551615 "\"\\" "\x00\n" 0).tokens) =
        .ok (.operandCount 18446744073709551615 "\"\\" "\x00\n" 0) ∧
      (ConfigError.invalidTimeSlice (1 <<< 128 - 1) 1 60000000).Fits ∧
      Reader.readText ConfigError.reader
          (compact (ConfigError.invalidTimeSlice (1 <<< 128 - 1) 1 60000000).tokens) =
        .ok (.invalidTimeSlice (1 <<< 128 - 1) 1 60000000) := by
  have fits : (LoadError.operandCount 18446744073709551615 "\"\\" "\x00\n" 0).Fits :=
    ⟨by decide, by decide⟩
  have fits' : (ConfigError.invalidTimeSlice (1 <<< 128 - 1) 1 60000000).Fits :=
    ⟨by decide, by decide, by decide⟩
  exact ⟨fits, records_read_back.1 _ fits, fits', records_read_back.2.2.1 _ fits'⟩

end TimeShare
