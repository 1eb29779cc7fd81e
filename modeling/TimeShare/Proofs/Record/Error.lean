import TimeShare.Proofs.Json.Fields
import TimeShare.Record.Error

/-!
# Errors are read back from their records

An error is read back from its record whatever its texts hold, as long as its numbers
have the bits that a record gives them (`Fits`): 64 for lines, counts and capacities,
128 for lengths of time.
-/

namespace TimeShare

open Json

namespace LoadError

/-- The line and the count of an error have 64 bits. -/
def Fits : LoadError → Prop
  | operandCount line _ _ found => line < UInt64.size ∧ found < UInt64.size
  | invalidRegister line _ => line < UInt64.size
  | invalidImmediate line _ => line < UInt64.size
  | unreadable _ _ => True

theorem makes_operand {line : Nat} (fits : line < UInt64.size) (operand : String) :
    operandFields.Makes [("line", natural line), ("operand", [.string operand])]
      (line, operand) :=
  .after_required (restores_word fits) (by simp) <|
    Fields.makes_required "operand" (restores_string operand)

theorem makes_count {line found : Nat} (fits : line < UInt64.size) (fits' : found < UInt64.size)
    (opcode expected : String) :
    countFields.Makes
      [("line", natural line), ("opcode", [.string opcode]), ("expected", [.string expected]),
        ("found", natural found)]
      (line, opcode, expected, found) :=
  .after_required (restores_word fits) (by simp) <|
    .after_required (restores_string opcode) (by simp) <|
      .after_required (restores_string expected) (by simp) <|
        Fields.makes_required "found" (restores_word fits')

theorem makes_file (path reason : String) :
    fileFields.Makes [("path", [.string path]), ("reason", [.string reason])] (path, reason) :=
  .after_required (restores_string path) (by simp) <|
    Fields.makes_required "reason" (restores_string reason)

theorem restores {error : LoadError} (fits : error.Fits) :
    Restores reader error.tokens error := by
  cases error with
  | operandCount line opcode expected found =>
    exact restores_tagged rfl (makes_count fits.1 fits.2 opcode expected).restores_details
  | invalidRegister line operand =>
    exact restores_tagged rfl (makes_operand fits operand).restores_details
  | invalidImmediate line operand =>
    exact restores_tagged rfl (makes_operand fits operand).restores_details
  | unreadable path reason =>
    exact restores_tagged rfl (makes_file path reason).restores_details

end LoadError

/-- The capacity in an error has 64 bits. -/
def AdmissionError.Fits (error : AdmissionError) : Prop :=
  error.capacity < UInt64.size

theorem AdmissionError.restores {error : AdmissionError} (fits : error.Fits) :
    Restores reader error.tokens error := by
  have word : Restores (Reader.word 64) (natural error.capacity) error.capacity :=
    restores_word fits
  exact restores_tagged rfl (Fields.makes_required "capacity" word).restores_details

namespace ConfigError

/-- The lengths of time in an error have 128 bits. -/
def Fits : ConfigError → Prop
  | invalidValue _ _ => True
  | invalidTimeSlice micros minMicros maxMicros =>
    micros < 1 <<< 128 ∧ minMicros < 1 <<< 128 ∧ maxMicros < 1 <<< 128
  | invalidCapacity => True

theorem makes_value (key value : String) :
    valueFields.Makes [("key", [.string key]), ("value", [.string value])] (key, value) :=
  .after_required (restores_string key) (by simp) <|
    Fields.makes_required "value" (restores_string value)

theorem makes_slice {micros minMicros maxMicros : Nat}
    (fits : (invalidTimeSlice micros minMicros maxMicros).Fits) :
    sliceFields.Makes
      [("micros", natural micros), ("min_micros", natural minMicros),
        ("max_micros", natural maxMicros)]
      (micros, minMicros, maxMicros) := by
  obtain ⟨fits, fitsMin, fitsMax⟩ := fits
  exact .after_required (restores_word fits) (by simp) <|
    .after_required (restores_word fitsMin) (by simp) <|
      Fields.makes_required "max_micros" (restores_word fitsMax)

theorem restores {error : ConfigError} (fits : error.Fits) :
    Restores reader error.tokens error := by
  cases error with
  | invalidValue key value => exact restores_tagged rfl (makes_value key value).restores_details
  | invalidTimeSlice micros minMicros maxMicros =>
    have details := (makes_slice fits).restores.map fun numbers =>
      invalidTimeSlice numbers.1 numbers.2.1 numbers.2.2
    exact restores_tagged rfl details
  | invalidCapacity => exact restores_bareTag rfl rfl

end ConfigError

end TimeShare
