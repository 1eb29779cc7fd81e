import TimeShare.Config.Basic
import TimeShare.Json.Fields

/-!
# Configurations as records

A time slice stands in a record as its whole microseconds. Reading one refuses a
number out of range for the same reason as setting it. A limit on sweeps that is
not set is left out.
-/

namespace TimeShare

open Json

namespace TimeSlice

def tokens (slice : TimeSlice) : List Token :=
  natural slice.micros

def reader : Reader TimeSlice :=
  (Reader.word 64).check fun micros =>
    (TimeSlice.ofMicros (UInt64.ofNat micros)).mapError fun error => .refused error.message

end TimeSlice

namespace Config

def tokens (config : Config) : List Token :=
  object
    ([("capacity", natural config.capacity.toNat), ("time_slice", config.timeSlice.tokens)] ++
      optional "max_sweeps" (fun sweeps => natural sweeps.toNat) config.maxSweeps)

def fields :=
  (Fields.required "capacity" ((Reader.word 64).map UInt64.ofNat)).both
    ((Fields.required "time_slice" TimeSlice.reader).both
      (Fields.optional "max_sweeps" ((Reader.word 64).map UInt64.ofNat)))

def reader : Reader Config :=
  fields.reader.map fun (capacity, timeSlice, maxSweeps) => { capacity, timeSlice, maxSweeps }

end Config

end TimeShare
