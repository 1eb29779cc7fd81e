import TimeShare.Config.TimeSlice

/-!
# Whole microseconds

A time slice is accepted or refused by its exact length, but it is reported in whole
microseconds, rounded down. `Duration.truncated` is the length that a report leaves of
a duration. An accepted slice stays within the accepted range when it is rounded
down. A refused duration may fall back into it: `TimeSlice.reportsOutside_iff` says that
this happens to the durations less than a microsecond above the longest time slice, and
to no others.
-/

namespace TimeShare

namespace Duration

/-- The length is all there is to a duration. -/
theorem eq_of_totalNanos {d d' : Duration} (same : d.totalNanos = d'.totalNanos) : d = d' := by
  obtain ⟨seconds, nanos, below⟩ := d
  obtain ⟨seconds', nanos', below'⟩ := d'
  simp only [totalNanos, nanosPerSecond] at same below below'
  obtain rfl : seconds = seconds' := UInt64.toNat_inj.1 (by omega)
  obtain rfl : nanos = nanos' := by omega
  rfl

/-- A duration without the nanoseconds that make no whole microsecond. -/
def truncated (d : Duration) : Duration :=
  ⟨d.seconds, d.nanos / 1000 * 1000, Nat.lt_of_le_of_lt (Nat.div_mul_le_self _ _) d.nanos_lt⟩

theorem totalNanos_truncated (d : Duration) : d.truncated.totalNanos = d.micros * 1000 := by
  simp only [truncated, totalNanos, micros, nanosPerSecond]
  omega

theorem truncated_eq_self_iff {d : Duration} : d.truncated = d ↔ 1000 ∣ d.totalNanos := by
  constructor
  · intro whole
    exact ⟨d.micros, by rw [← whole, totalNanos_truncated, whole, Nat.mul_comm]⟩
  · intro whole
    refine eq_of_totalNanos ?_
    rw [totalNanos_truncated, micros, Nat.div_mul_cancel whole]

end Duration

/-- The length that a report on a time slice gives lies outside the range that it gives. -/
def ConfigError.ReportsOutside : ConfigError → Prop
  | invalidTimeSlice micros minMicros maxMicros => micros < minMicros ∨ maxMicros < micros
  | _ => False

namespace TimeSlice

variable {d : Duration} {slice : TimeSlice} {error : ConfigError}

theorem ofDuration_eq_ok_iff : ofDuration d = .ok slice ↔ slice.duration = d := by
  unfold ofDuration
  constructor
  · intro accepted
    split at accepted
    · obtain rfl := Except.ok.inj accepted
      rfl
    · cases accepted
  · rintro rfl
    rw [dif_pos ⟨slice.atLeast, slice.atMost⟩]

/-- A duration is refused by its exact length and reported in whole microseconds. -/
theorem ofDuration_eq_error_iff :
    ofDuration d = .error error ↔
      (d.totalNanos < 1000 ∨ 60000000000 < d.totalNanos) ∧
        error = .invalidTimeSlice d.micros 1 60000000 := by
  have outside : ¬ (minSliceNanos ≤ d.totalNanos ∧ d.totalNanos ≤ maxSliceNanos) ↔
      d.totalNanos < 1000 ∨ 60000000000 < d.totalNanos := by
    simp only [minSliceNanos, maxSliceNanos, nanosPerSecond]
    omega
  unfold ofDuration
  constructor
  · intro refused
    split at refused
    · cases refused
    · rename_i range
      exact ⟨outside.1 range, (Except.error.inj refused).symm⟩
  · rintro ⟨range, rfl⟩
    rw [dif_neg (outside.2 range)]
    rfl

/-! ## Accepted slices -/

theorem micros_bounds (slice : TimeSlice) : 1 ≤ slice.micros ∧ slice.micros ≤ 60000000 := by
  have atLeast := slice.atLeast
  have atMost := slice.atMost
  simp only [minSliceNanos, maxSliceNanos, nanosPerSecond] at atLeast atMost
  simp only [micros, Duration.micros]
  omega

/-- A time slice rounded down to whole microseconds is one. -/
def truncated (slice : TimeSlice) : TimeSlice where
  duration := slice.duration.truncated
  atLeast := by
    have bounds := slice.micros_bounds
    simp only [micros] at bounds
    rw [Duration.totalNanos_truncated, minSliceNanos]
    omega
  atMost := by
    have bounds := slice.micros_bounds
    simp only [micros] at bounds
    rw [Duration.totalNanos_truncated, maxSliceNanos, nanosPerSecond]
    omega

theorem eq_of_duration {slice slice' : TimeSlice} (same : slice.duration = slice'.duration) :
    slice = slice' := by
  obtain ⟨duration, atLeast, atMost⟩ := slice
  cases same
  rfl

theorem truncated_eq_self_iff {slice : TimeSlice} :
    slice.truncated = slice ↔ 1000 ∣ slice.duration.totalNanos := by
  rw [← Duration.truncated_eq_self_iff]
  exact ⟨fun same => congrArg duration same, fun same => eq_of_duration same⟩

/-- Rounding down again changes nothing. -/
theorem micros_truncated (slice : TimeSlice) : slice.truncated.micros = slice.micros := by
  rw [micros, Duration.micros, truncated, Duration.totalNanos_truncated,
    Nat.mul_div_cancel _ (by decide)]
  rfl

theorem ofMicros_micros (slice : TimeSlice) :
    ofMicros (UInt64.ofNat slice.micros) = .ok slice.truncated := by
  have fits : slice.micros < UInt64.size := Nat.lt_of_le_of_lt slice.micros_bounds.2 (by decide)
  refine ofDuration_eq_ok_iff.2 (Duration.eq_of_totalNanos ?_)
  rw [truncated, Duration.totalNanos_truncated, Duration.totalNanos_ofMicros,
    UInt64.toNat_ofNat_of_lt' fits, micros]

/-! ## Refused durations -/

/-- Rounding down brings only lengths less than a microsecond above the range back into it. -/
theorem reportsOutside_iff (refused : ofDuration d = .error error) :
    error.ReportsOutside ↔ ¬ (60000000000 < d.totalNanos ∧ d.totalNanos < 60000001000) := by
  obtain ⟨range, rfl⟩ := ofDuration_eq_error_iff.1 refused
  simp only [ConfigError.ReportsOutside, Duration.micros]
  omega

/-- A number of milliseconds that is refused is reported outside the range. -/
theorem reportsOutside_of_ofMillis {n : UInt64} (refused : ofMillis n = .error error) :
    error.ReportsOutside := by
  rw [reportsOutside_iff refused, Duration.totalNanos_ofMillis]
  omega

/-- The report on a refused duration gives it in whole microseconds. It lies outside the range that
is reported with it unless the duration is less than a microsecond longer than the longest time
slice. -/
theorem refusal_reports_outside (refused : ofDuration d = .error error) :
    error = .invalidTimeSlice d.micros 1 60000000 ∧
      (error.ReportsOutside ↔
        ¬ (60000000000 < d.totalNanos ∧ d.totalNanos < 60000001000)) :=
  ⟨(ofDuration_eq_error_iff.1 refused).2, reportsOutside_iff refused⟩

/-- A microsecond and a nanosecond above the longest time slice the report is right. -/
theorem refusal_reports_outside_above :
    ofDuration ⟨60, 1001, by decide⟩ = .error (.invalidTimeSlice 60000001 1 60000000) ∧
      (ConfigError.invalidTimeSlice 60000001 1 60000000).ReportsOutside := by
  have refused : ofDuration ⟨60, 1001, by decide⟩ =
      .error (.invalidTimeSlice 60000001 1 60000000) :=
    ofDuration_eq_error_iff.2 ⟨.inr (by decide), rfl⟩
  exact ⟨refused, (refusal_reports_outside refused).2.2 (by decide)⟩

/-- A nanosecond above the longest time slice the report is that a length lies outside a range whose
end it is. -/
theorem refusal_reports_inside :
    ∃ error, ofDuration ⟨60, 1, by decide⟩ = .error error ∧ ¬ error.ReportsOutside ∧
      error.message = "time slice 60000000μs outside [1μs, 60000000μs]" := by
  have refused : ofDuration ⟨60, 1, by decide⟩ =
      .error (.invalidTimeSlice 60000000 1 60000000) :=
    ofDuration_eq_error_iff.2 ⟨.inr (by decide), rfl⟩
  refine ⟨_, refused, ?_, rfl⟩
  rw [reportsOutside_iff refused]
  exact not_not_intro (by decide)

end TimeSlice

end TimeShare
