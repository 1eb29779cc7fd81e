import TimeShare.Config.Error
import TimeShare.Json.Tagged
import TimeShare.LoadError
import TimeShare.Task.Registry

/-!
# Errors as records

Each kind of error stands in a record under its own name, with its data as
details. Lines, counts and capacities have 64 bits, lengths of time 128.
-/

namespace TimeShare

open Json

def LoadError.tokens : LoadError → List Token
  | operandCount line opcode expected found =>
    tagged "operand_count"
      [("line", natural line), ("opcode", [.string opcode]), ("expected", [.string expected]),
        ("found", natural found)]
  | invalidRegister line operand =>
    tagged "invalid_register" [("line", natural line), ("operand", [.string operand])]
  | invalidImmediate line operand =>
    tagged "invalid_immediate" [("line", natural line), ("operand", [.string operand])]
  | unreadable path reason =>
    tagged "io" [("path", [.string path]), ("reason", [.string reason])]

/-- The fields of an error about one operand of a line. -/
def LoadError.operandFields :=
  (Fields.required "line" (Reader.word 64)).both (Fields.required "operand" Reader.string)

/-- The fields of an error about the number of operands of a line. -/
def LoadError.countFields :=
  (Fields.required "line" (Reader.word 64)).both
    ((Fields.required "opcode" Reader.string).both
      ((Fields.required "expected" Reader.string).both
        (Fields.required "found" (Reader.word 64))))

/-- The fields of an error about a file. -/
def LoadError.fileFields :=
  (Fields.required "path" Reader.string).both (Fields.required "reason" Reader.string)

def LoadError.kinds : List (String × Kind LoadError) :=
  [("operand_count",
      .ofFields countFields fun (line, opcode, expected, found) =>
        operandCount line opcode expected found),
    ("invalid_register",
      .ofFields operandFields fun (line, operand) => invalidRegister line operand),
    ("invalid_immediate",
      .ofFields operandFields fun (line, operand) => invalidImmediate line operand),
    ("io", .ofFields fileFields fun (path, reason) => unreadable path reason)]

def LoadError.reader : Reader LoadError :=
  Reader.tagged kinds

def AdmissionError.tokens (error : AdmissionError) : List Token :=
  tagged "admission_rejected" [("capacity", natural error.capacity)]

def AdmissionError.kinds : List (String × Kind AdmissionError) :=
  [("admission_rejected",
      .ofFields (Fields.required "capacity" (Reader.word 64)) AdmissionError.mk)]

def AdmissionError.reader : Reader AdmissionError :=
  Reader.tagged kinds

def ConfigError.tokens : ConfigError → List Token
  | invalidValue key value =>
    tagged "invalid_value" [("key", [.string key]), ("value", [.string value])]
  | invalidTimeSlice micros minMicros maxMicros =>
    tagged "invalid_time_slice"
      [("micros", natural micros), ("min_micros", natural minMicros),
        ("max_micros", natural maxMicros)]
  | invalidCapacity => bareTag "invalid_capacity"

/-- The fields of an error about a setting. -/
def ConfigError.valueFields :=
  (Fields.required "key" Reader.string).both (Fields.required "value" Reader.string)

/-- The fields of an error about a time slice. -/
def ConfigError.sliceFields :=
  (Fields.required "micros" (Reader.word 128)).both
    ((Fields.required "min_micros" (Reader.word 128)).both
      (Fields.required "max_micros" (Reader.word 128)))

/-- The kinds of configuration errors. Numbers of 128 bits cannot be kept until their kind is
known. -/
def ConfigError.kinds : List (String × Kind ConfigError) :=
  [("invalid_value", .ofFields valueFields fun (key, value) => invalidValue key value),
    ("invalid_time_slice",
      { Kind.ofFields sliceFields fun (micros, minMicros, maxMicros) =>
          invalidTimeSlice micros minMicros maxMicros with
        keepable := false }),
    ("invalid_capacity", .ofValue invalidCapacity)]

def ConfigError.reader : Reader ConfigError :=
  Reader.tagged kinds

end TimeShare
