import TimeShare.Config.TimeSlice
import TimeShare.Text.Blank
import TimeShare.Text.Decimal

/-!
# Configuration

A scheduler has a capacity, a time slice and perhaps a limit on the sweeps of a
run. The standard configuration can be overridden by three environment
variables. Their values may have blanks around them and a plus sign.

The variables are checked in the order capacity, time slice, limit. A time slice
out of range is reported before a malformed limit, and a capacity of zero only
after everything else.
-/

namespace TimeShare

/-- What a scheduler is set up with. -/
structure Config where
  capacity : UInt64
  timeSlice : TimeSlice
  /-- After how many sweeps a run gives up; without a limit it never does. -/
  maxSweeps : Option UInt64
  deriving DecidableEq, Repr

namespace Config

def standardCapacity : UInt64 := 5

/-- Five tasks, slices of two seconds, no limit on sweeps. -/
def standard : Config :=
  ⟨standardCapacity, .standard, none⟩

/-- Refuses a configuration without room for a task. -/
def validate (config : Config) : Except ConfigError Unit :=
  if config.capacity = 0 then .error .invalidCapacity else .ok ()

/-! ## Environment variables -/

/-- The variable that overrides the capacity. -/
def capacityVariable : String := "VCPU_MAX_TASKS"

/-- The variable that overrides the time slice, in milliseconds. -/
def timeSliceVariable : String := "VCPU_TIME_SLICE_MS"

/-- The variable that limits the sweeps of a run. -/
def maxSweepsVariable : String := "VCPU_MAX_SWEEPS"

/-- The 64-bit number written by a text with an optional plus sign. -/
def word? (text : List Char) : Option UInt64 :=
  match Text.unsigned? text with
  | some n => if n < UInt64.size then some (UInt64.ofNat n) else none
  | none => none

/-- The number in a variable, or nothing if the variable is not set. -/
def readVariable (lookup : String → Option String) (key : String) :
    Except ConfigError (Option UInt64) :=
  match lookup key with
  | none => .ok none
  | some raw =>
    match word? (Text.trim raw.toList) with
    | some n => .ok (some n)
    | none => .error (.invalidValue key raw)

/-- The time slice of a number of milliseconds, or the standard one without a number. -/
def sliceOrStandard : Option UInt64 → Except ConfigError TimeSlice
  | none => .ok .standard
  | some millis => TimeSlice.ofMillis millis

/-- The configuration that the variables of an environment ask for. -/
def ofEnvironment (lookup : String → Option String) : Except ConfigError Config := do
  let capacity ← readVariable lookup capacityVariable
  let millis ← readVariable lookup timeSliceVariable
  let timeSlice ← sliceOrStandard millis
  let maxSweeps ← readVariable lookup maxSweepsVariable
  let config : Config := ⟨capacity.getD standardCapacity, timeSlice, maxSweeps⟩
  config.validate
  return config

/-- The configuration that the variables of an environment of bytes ask for. A value that is no
text counts as not set. -/
def ofRawEnvironment (lookup : String → Option ByteArray) : Except ConfigError Config :=
  ofEnvironment fun key => (lookup key).bind String.fromUTF8?

end Config

end TimeShare
