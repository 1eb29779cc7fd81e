import TimeShare.Proofs.Config.TimeSlice
import TimeShare.Proofs.Json.Fields
import TimeShare.Record.Config

/-!
# Configurations are read back from their records

A time slice stands in a record as its whole microseconds, so it is read back without
what it has beyond them (`TimeSlice.truncated`), and of all numbers just those from a
microsecond to a minute are read as time slices. A configuration is read back with its
time slice changed in this way and with nothing else changed, and what is read back
has the same record.
-/

namespace TimeShare

open Json

namespace TimeSlice

variable {n : Nat}

theorem micros_of_ofMicros {n : UInt64} {slice : TimeSlice} (accepted : ofMicros n = .ok slice) :
    slice.micros = n.toNat := by
  rw [micros, ofDuration_eq_ok_iff.1 accepted, Duration.micros, Duration.totalNanos_ofMicros,
    Nat.mul_div_cancel _ (by decide)]

/-- A number of microseconds from one to those of a minute is a time slice. -/
theorem exists_ofMicros (atLeast : 1 ≤ n) (atMost : n ≤ 60000000) :
    ∃ slice, ofMicros (UInt64.ofNat n) = .ok slice ∧ slice.micros = n := by
  have value : (UInt64.ofNat n).toNat = n :=
    UInt64.toNat_ofNat_of_lt' (Nat.lt_of_le_of_lt atMost (by decide))
  cases made : ofMicros (UInt64.ofNat n) with
  | ok slice => exact ⟨slice, rfl, (micros_of_ofMicros made).trans value⟩
  | error error =>
    have range := (ofDuration_eq_error_iff.1 made).1
    rw [Duration.totalNanos_ofMicros, value] at range
    omega

/-- Any other number of microseconds is refused. -/
theorem ofMicros_eq_error (fits : n < UInt64.size) (outside : ¬ (1 ≤ n ∧ n ≤ 60000000)) :
    ofMicros (UInt64.ofNat n) = .error (.invalidTimeSlice n 1 60000000) := by
  have value : (UInt64.ofNat n).toNat = n := UInt64.toNat_ofNat_of_lt' fits
  refine ofDuration_eq_error_iff.2 ⟨?_, ?_⟩
  · rw [Duration.totalNanos_ofMicros, value]
    omega
  · rw [Duration.micros, Duration.totalNanos_ofMicros, value, Nat.mul_div_cancel _ (by decide)]

/-! ## Reading -/

/-- A number that is a time slice in microseconds is read as it. -/
theorem restores_ofMicros {slice : TimeSlice} (fits : n < UInt64.size)
    (accepted : ofMicros (UInt64.ofNat n) = .ok slice) : Restores reader (natural n) slice :=
  (restores_word fits).check (by rw [accepted]; rfl)

theorem restores (slice : TimeSlice) : Restores reader slice.tokens slice.truncated :=
  restores_ofMicros (Nat.lt_of_le_of_lt slice.micros_bounds.2 (by decide)) slice.ofMicros_micros

theorem readText_numeral (atLeast : 1 ≤ n) (atMost : n ≤ 60000000) :
    ∃ slice, Reader.readText reader (toString n) = .ok slice ∧ slice.micros = n := by
  have fits : n < UInt64.size := Nat.lt_of_le_of_lt atMost (by decide)
  obtain ⟨slice, accepted, value⟩ := exists_ofMicros atLeast atMost
  have read := (restores_ofMicros fits accepted).readText
  rw [compact_natural] at read
  exact ⟨slice, read, value⟩

/-- A number out of range is refused for being out of range. -/
theorem readText_numeral_refused (fits : n < UInt64.size) (outside : ¬ (1 ≤ n ∧ n ≤ 60000000)) :
    Reader.readText reader (toString n) =
      .error (.refused (ConfigError.invalidTimeSlice n 1 60000000).message) := by
  have word : Restores (Reader.word 64) (natural n) n := restores_word fits
  have taken : Reader.word 64 [.token (.integer n)] = .ok (n, []) := word.reads []
  have fails : (ofMicros (UInt64.ofNat n)).mapError
        (fun error => ReadError.refused error.message) =
      .error (.refused (ConfigError.invalidTimeSlice n 1 60000000).message) := by
    rw [ofMicros_eq_error fits outside]
    rfl
  rw [Reader.readText, scan_toString, reader, check_eq_error taken fails]

/-- A number of more than 64 bits is no number of microseconds at all. -/
theorem readText_numeral_large (large : UInt64.size ≤ n) :
    Reader.readText reader (toString n) = .error .malformed := by
  have beyond : 1 <<< 64 ≤ n := large
  rw [Reader.readText, scan_toString, reader, Reader.check, word_of_le beyond]

end TimeSlice

/-! ## Configurations -/

namespace Config

/-- A configuration whose time slice is rounded down to whole microseconds. -/
def truncated (config : Config) : Config :=
  { config with timeSlice := config.timeSlice.truncated }

theorem makes (config : Config) :
    fields.Makes
      (("capacity", natural config.capacity.toNat) :: ("time_slice", config.timeSlice.tokens) ::
        optional "max_sweeps" (fun sweeps => natural sweeps.toNat) config.maxSweeps)
      (config.capacity, config.timeSlice.truncated, config.maxSweeps) :=
  .after_required (restores_uint64 config.capacity) (by simp) <|
    .after_required config.timeSlice.restores (by simp) <|
      Fields.makes_optional "max_sweeps" fun sweeps _ => restores_uint64 sweeps

theorem restores (config : Config) : Restores reader config.tokens config.truncated :=
  config.makes.restores.map _

theorem tokens_truncated (config : Config) : config.truncated.tokens = config.tokens := by
  have slice : config.truncated.timeSlice.tokens = config.timeSlice.tokens :=
    congrArg natural config.timeSlice.micros_truncated
  rw [tokens, slice]
  rfl

end Config

/-- An accepted duration is written as the whole microseconds in it, a number from one to those of
a minute, and is read back without what it has beyond them, so as the same duration just if it has
nothing beyond them. Every number in this range is read as a time slice that is written as it, and
every other natural number is refused. A configuration is read back with its time slice changed in
this way and nothing else, and what is read back is written as the same text. -/
theorem slices_and_configurations_read_back :
    (∀ d slice, TimeSlice.ofDuration d = .ok slice →
        1 ≤ d.micros ∧ d.micros ≤ 60000000 ∧ compact slice.tokens = toString d.micros ∧
          ∃ read, Reader.readText TimeSlice.reader (compact slice.tokens) = .ok read ∧
            read.duration = d.truncated ∧ (read = slice ↔ 1000 ∣ d.totalNanos)) ∧
      (∀ n, 1 ≤ n → n ≤ 60000000 →
        ∃ slice, Reader.readText TimeSlice.reader (toString n) = .ok slice ∧
          compact slice.tokens = toString n) ∧
      (∀ n, ¬ (1 ≤ n ∧ n ≤ 60000000) →
        Reader.readText TimeSlice.reader (toString n) =
          .error (if n < UInt64.size then
            .refused (ConfigError.invalidTimeSlice n 1 60000000).message else .malformed)) ∧
      ∀ config : Config, ∃ read,
        Reader.readText Config.reader (compact config.tokens) = .ok read ∧
          read.capacity = config.capacity ∧ read.maxSweeps = config.maxSweeps ∧
            read.timeSlice.duration = config.timeSlice.duration.truncated ∧
              compact read.tokens = compact config.tokens := by
  refine ⟨?_, ?_, ?_, ?_⟩
  · intro d slice accepted
    obtain rfl := TimeSlice.ofDuration_eq_ok_iff.1 accepted
    obtain ⟨atLeast, atMost⟩ := slice.micros_bounds
    exact ⟨atLeast, atMost, compact_natural _, slice.truncated, slice.restores.readText, rfl,
      TimeSlice.truncated_eq_self_iff⟩
  · intro n atLeast atMost
    obtain ⟨slice, read, value⟩ := TimeSlice.readText_numeral atLeast atMost
    exact ⟨slice, read, by rw [TimeSlice.tokens, value, compact_natural]⟩
  · intro n outside
    split
    · next fits => exact TimeSlice.readText_numeral_refused fits outside
    · next large => exact TimeSlice.readText_numeral_large (Nat.le_of_not_lt large)
  · intro config
    refine ⟨config.truncated, config.restores.readText, rfl, rfl, rfl, ?_⟩
    rw [Config.tokens_truncated]

/-- Half a microsecond beyond the shortest time slice is lost in its record. -/
theorem slices_and_configurations_read_back_shortest :
    ∃ slice read, TimeSlice.ofDuration ⟨0, 1500, by decide⟩ = .ok slice ∧
      compact slice.tokens = toString (Duration.micros ⟨0, 1500, by decide⟩) ∧
        Reader.readText TimeSlice.reader (compact slice.tokens) = .ok read ∧
          read.duration = ⟨0, 1000, by decide⟩ := by
  have accepted : TimeSlice.ofDuration ⟨0, 1500, by decide⟩ =
      .ok ⟨⟨0, 1500, by decide⟩, by decide, by decide⟩ := TimeSlice.ofDuration_eq_ok_iff.2 rfl
  have facts := slices_and_configurations_read_back.1 _ _ accepted
  obtain ⟨_, _, written, read, again, same, _⟩ := facts
  exact ⟨_, read, accepted, written, again, same⟩

end TimeShare
