import TimeShare.Config.Error

/-!
# Durations and time slices

A duration is a number of seconds and a number of nanoseconds below a second. A
time slice is a duration between one microsecond and one minute, both included;
the comparison is exact, to the nanosecond. Reports of a slice, accepted or
refused, give whole microseconds, rounded down.
-/

namespace TimeShare

def nanosPerSecond : Nat := 1000000000

/-- A length of time. -/
structure Duration where
  seconds : UInt64
  nanos : Nat
  nanos_lt : nanos < nanosPerSecond
  deriving DecidableEq, Repr

namespace Duration

def totalNanos (d : Duration) : Nat :=
  d.seconds.toNat * nanosPerSecond + d.nanos

def micros (d : Duration) : Nat :=
  d.totalNanos / 1000

def millis (d : Duration) : Nat :=
  d.totalNanos / 1000000

/-- A number of seconds and any number of nanoseconds as a duration, if there are not too many
seconds; whole seconds among the nanoseconds are carried. -/
def ofParts? (seconds : UInt64) (nanos : Nat) : Option Duration :=
  if seconds.toNat + nanos / nanosPerSecond < UInt64.size then
    some ⟨UInt64.ofNat (seconds.toNat + nanos / nanosPerSecond), nanos % nanosPerSecond,
      Nat.mod_lt _ (by decide)⟩
  else
    none

def ofMicros (n : UInt64) : Duration :=
  ⟨n / 1000000, n.toNat % 1000000 * 1000, by unfold nanosPerSecond; omega⟩

def ofMillis (n : UInt64) : Duration :=
  ⟨n / 1000, n.toNat % 1000 * 1000000, by unfold nanosPerSecond; omega⟩

/-- Carrying seconds keeps the length. -/
theorem totalNanos_ofParts? {seconds : UInt64} {nanos : Nat} {d : Duration}
    (h : ofParts? seconds nanos = some d) :
    d.totalNanos = seconds.toNat * nanosPerSecond + nanos := by
  unfold ofParts? at h
  split at h
  · rename_i fits
    obtain rfl := Option.some.inj h
    have carried : (UInt64.ofNat (seconds.toNat + nanos / nanosPerSecond)).toNat =
        seconds.toNat + nanos / nanosPerSecond := Nat.mod_eq_of_lt fits
    simp only [totalNanos]
    rw [carried, Nat.add_mul, Nat.add_assoc, Nat.div_add_mod']
  · cases h

theorem totalNanos_ofMicros (n : UInt64) : (ofMicros n).totalNanos = n.toNat * 1000 := by
  simp only [totalNanos, ofMicros, nanosPerSecond, UInt64.toNat_div, UInt64.reduceToNat]
  omega

theorem totalNanos_ofMillis (n : UInt64) : (ofMillis n).totalNanos = n.toNat * 1000000 := by
  simp only [totalNanos, ofMillis, nanosPerSecond, UInt64.toNat_div, UInt64.reduceToNat]
  omega

end Duration

/-- The shortest time slice, one microsecond, in nanoseconds. -/
def minSliceNanos : Nat := 1000

/-- The longest time slice, one minute, in nanoseconds. -/
def maxSliceNanos : Nat := 60 * nanosPerSecond

/-- The length of time granted to a dispatch. -/
structure TimeSlice where
  duration : Duration
  atLeast : minSliceNanos ≤ duration.totalNanos
  atMost : duration.totalNanos ≤ maxSliceNanos
  deriving DecidableEq, Repr

namespace TimeSlice

/-- Accepts a duration between the shortest and the longest time slice. -/
def ofDuration (d : Duration) : Except ConfigError TimeSlice :=
  if h : minSliceNanos ≤ d.totalNanos ∧ d.totalNanos ≤ maxSliceNanos then
    .ok ⟨d, h.1, h.2⟩
  else
    .error (.invalidTimeSlice d.micros (minSliceNanos / 1000) (maxSliceNanos / 1000))

def ofMicros (n : UInt64) : Except ConfigError TimeSlice :=
  ofDuration (.ofMicros n)

def ofMillis (n : UInt64) : Except ConfigError TimeSlice :=
  ofDuration (.ofMillis n)

def standard : TimeSlice :=
  ⟨⟨2, 0, by decide⟩, by decide, by decide⟩

def micros (slice : TimeSlice) : Nat :=
  slice.duration.micros

end TimeSlice

end TimeShare
