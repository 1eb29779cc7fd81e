/-!
# What can be wrong with a configuration

A setting may be no number, a time slice may lie outside the accepted range, and
a registry must have room for a task.
-/

namespace TimeShare

/-- Why a configuration was refused. -/
inductive ConfigError
  /-- A setting that is no natural number in range, as it was given. -/
  | invalidValue (key value : String)
  /-- A time slice outside the accepted range; the three lengths are whole microseconds. -/
  | invalidTimeSlice (micros minMicros maxMicros : Nat)
  /-- A registry without room. -/
  | invalidCapacity
  deriving DecidableEq, Repr

namespace ConfigError

def message : ConfigError → String
  | invalidValue key value => s!"invalid value '{value}' for {key}"
  | invalidTimeSlice micros minMicros maxMicros =>
    s!"time slice {micros}μs outside [{minMicros}μs, {maxMicros}μs]"
  | invalidCapacity => "registry capacity must be at least 1"

def code : ConfigError → String
  | invalidValue .. => "config::invalid_value"
  | invalidTimeSlice .. => "config::invalid_time_slice"
  | invalidCapacity => "config::invalid_capacity"

/-- The advice that goes with a configuration error, if there is any. -/
def help : ConfigError → Option String
  | invalidValue .. => some "Numeric settings must be non-negative decimal integers."
  | invalidTimeSlice .. => none
  | invalidCapacity => none

end ConfigError

end TimeShare
