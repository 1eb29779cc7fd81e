import TimeShare.Proofs.Config.TimeSlice
import TimeShare.Proofs.Text.Blank
import TimeShare.Proofs.Text.Decimal
import TimeShare.Scheduler.Basic

/-!
# The configuration of an environment

`Gives` tells which setting a variable gives: none if it is not set, and else the
number of 64 bits that its value denotes. `Valid` collects the settings of the three
variables where a configuration can be made of them, and `FirstFault` tells which error
it is where none can, with the faults in the order in which they are met.
Every environment is of one of the two kinds, and `environment_decides` says that
`ofEnvironment` follows them.
-/

namespace TimeShare.Config

open Text

variable {lookup : String → Option String} {raw key : String} {text : List Char} {n : UInt64}
  {setting capacity millis sweeps : Option UInt64} {slice : TimeSlice} {error : ConfigError}

/-- The number that a value denotes: without the blanks at its ends the value is one or more digits
after an optional plus sign, and they write a number of 64 bits. -/
def Denotes (raw : String) (n : UInt64) : Prop :=
  ∃ core, Trimmed raw.toList core ∧ UnsignedNumeral core n.toNat

/-- A value that denotes no number. -/
def Malformed (raw : String) : Prop :=
  ∀ n, ¬ Denotes raw n

/-- The setting that a variable gives: the number that its value denotes, if it has a value. -/
inductive Gives : Option String → Option UInt64 → Prop
  | unset : Gives none none
  | number {raw : String} {n : UInt64} : Denotes raw n → Gives (some raw) (some n)

/-- A number of milliseconds, if there is one, is from one to those of a minute. -/
def InRange (millis : Option UInt64) : Prop :=
  ∀ n ∈ millis, 1 ≤ n.toNat ∧ n.toNat ≤ 60000

/-- The settings of an environment that a configuration can be made of. -/
structure Valid (lookup : String → Option String) (capacity millis sweeps : Option UInt64) :
    Prop where
  givesCapacity : Gives (lookup capacityVariable) capacity
  givesMillis : Gives (lookup timeSliceVariable) millis
  inRange : InRange millis
  givesSweeps : Gives (lookup maxSweepsVariable) sweeps
  hasRoom : capacity ≠ some 0

/-- The first fault of an environment: capacity, time slice and limit are looked at one after
another, a time slice out of range is met before the limit, and a capacity of zero last. -/
inductive FirstFault (lookup : String → Option String) : ConfigError → Prop
  | capacity {raw : String} : lookup capacityVariable = some raw → Malformed raw →
    FirstFault lookup (.invalidValue capacityVariable raw)
  | slice {raw : String} {capacity : Option UInt64} : Gives (lookup capacityVariable) capacity →
    lookup timeSliceVariable = some raw → Malformed raw →
    FirstFault lookup (.invalidValue timeSliceVariable raw)
  | range {n : UInt64} {capacity : Option UInt64} : Gives (lookup capacityVariable) capacity →
    Gives (lookup timeSliceVariable) (some n) → ¬ InRange (some n) →
    FirstFault lookup (.invalidTimeSlice (n.toNat * 1000) 1 60000000)
  | sweeps {raw : String} {capacity millis : Option UInt64} :
    Gives (lookup capacityVariable) capacity → Gives (lookup timeSliceVariable) millis →
    InRange millis → lookup maxSweepsVariable = some raw → Malformed raw →
    FirstFault lookup (.invalidValue maxSweepsVariable raw)
  | room {millis sweeps : Option UInt64} : Gives (lookup capacityVariable) (some 0) →
    Gives (lookup timeSliceVariable) millis → InRange millis →
    Gives (lookup maxSweepsVariable) sweeps → FirstFault lookup .invalidCapacity

/-! ## Variables -/

theorem word?_eq_some_iff : word? text = some n ↔ UnsignedNumeral text n.toNat := by
  unfold word?
  constructor
  · intro read
    split at read
    · rename_i value numeral
      obtain ⟨fits, same⟩ := Option.ite_none_right_eq_some.1 read
      obtain rfl := Option.some.inj same
      rw [UInt64.toNat_ofNat_of_lt' fits]
      exact unsigned?_eq_some_iff.1 numeral
    · cases read
  · intro numeral
    rw [unsigned?_eq_some_iff.2 numeral]
    dsimp only
    rw [if_pos n.toNat_lt, UInt64.ofNat_toNat]

theorem denotes_iff : Denotes raw n ↔ word? (trim raw.toList) = some n := by
  rw [word?_eq_some_iff]
  constructor
  · rintro ⟨core, trimmed, numeral⟩
    rw [trimmed.trim_eq]
    exact numeral
  · exact fun numeral => ⟨_, trimmed_trim _, numeral⟩

/-- Reading a variable depends on its value only. -/
theorem readVariable_congr {lookup' : String → Option String} (same : lookup key = lookup' key) :
    readVariable lookup key = readVariable lookup' key := by
  rw [readVariable, readVariable, same]

theorem readVariable_of_gives (gives : Gives (lookup key) setting) :
    readVariable lookup key = .ok setting := by
  rw [readVariable]
  generalize lookup key = value at gives ⊢
  cases gives with
  | unset => rfl
  | number denotes =>
    dsimp only
    rw [denotes_iff.1 denotes]

theorem readVariable_of_malformed (set : lookup key = some raw) (malformed : Malformed raw) :
    readVariable lookup key = .error (.invalidValue key raw) := by
  have unread : word? (trim raw.toList) = none :=
    Option.eq_none_iff_forall_ne_some.2 fun n read => malformed n (denotes_iff.2 read)
  rw [readVariable, set]
  dsimp only
  rw [unread]

/-- A variable gives a setting, or its value denotes no number. -/
theorem gives_or_malformed (lookup : String → Option String) (key : String) :
    (∃ setting, Gives (lookup key) setting) ∨ ∃ raw, lookup key = some raw ∧ Malformed raw := by
  cases lookup key with
  | none => exact .inl ⟨none, .unset⟩
  | some raw =>
    by_cases number : ∃ n, Denotes raw n
    · obtain ⟨n, denotes⟩ := number
      exact .inl ⟨some n, .number denotes⟩
    · exact .inr ⟨raw, rfl, not_exists.1 number⟩

/-! ## Time slices -/

/-- The nanoseconds of the time slice that is asked for in milliseconds, or of the standard one. -/
def sliceNanos (millis : Option UInt64) : Nat :=
  (millis.map fun n => n.toNat * 1000000).getD standard.timeSlice.duration.totalNanos

theorem sliceOrStandard_of_inRange (range : InRange millis) :
    ∃ slice, sliceOrStandard millis = .ok slice ∧
      slice.duration.totalNanos = sliceNanos millis := by
  cases millis with
  | none => exact ⟨.standard, rfl, rfl⟩
  | some n =>
    have bounds := range n rfl
    cases made : TimeSlice.ofMillis n with
    | ok slice =>
      refine ⟨slice, made, ?_⟩
      rw [TimeSlice.ofDuration_eq_ok_iff.1 made, Duration.totalNanos_ofMillis]
      rfl
    | error error =>
      have outside := (TimeSlice.ofDuration_eq_error_iff.1 made).1
      rw [Duration.totalNanos_ofMillis] at outside
      omega

theorem sliceOrStandard_of_not_inRange (outside : ¬ InRange (some n)) :
    sliceOrStandard (some n) = .error (.invalidTimeSlice (n.toNat * 1000) 1 60000000) := by
  have beyond : ¬ (1 ≤ n.toNat ∧ n.toNat ≤ 60000) := by
    intro bounds
    refine outside fun m same => ?_
    obtain rfl := Option.some.inj same
    exact bounds
  have micros : (Duration.ofMillis n).micros = n.toNat * 1000 := by
    rw [Duration.micros, Duration.totalNanos_ofMillis]
    omega
  refine TimeSlice.ofDuration_eq_error_iff.2 ⟨?_, by rw [micros]⟩
  rw [Duration.totalNanos_ofMillis]
  omega

/-! ## Environments -/

section Stages

variable {α β : Type}

theorem bind_ok (value : α) (next : α → Except ConfigError β) :
    (Except.ok value >>= next) = next value := rfl

theorem bind_error (error : ConfigError) (next : α → Except ConfigError β) :
    (Except.error error >>= next) = .error error := rfl

end Stages

/-- With a capacity that is not zero, or with the standard one, there is room for a task. -/
theorem Valid.capacity_ne_zero (valid : Valid lookup capacity millis sweeps) :
    capacity.getD standard.capacity ≠ 0 := by
  cases capacity with
  | none => decide
  | some n => exact fun zero => valid.hasRoom (congrArg some zero)

/-- A variable that is set has its number in the configuration, and one that is not has the
standard value. -/
theorem Valid.ofEnvironment_eq (valid : Valid lookup capacity millis sweeps) :
    ∃ config, ofEnvironment lookup = .ok config ∧
      config.capacity = capacity.getD standard.capacity ∧
        config.timeSlice.duration.totalNanos = sliceNanos millis ∧ config.maxSweeps = sweeps := by
  obtain ⟨slice, made, duration⟩ := sliceOrStandard_of_inRange valid.inRange
  have passes : Config.validate ⟨capacity.getD standardCapacity, slice, sweeps⟩ = .ok () :=
    if_neg valid.capacity_ne_zero
  refine ⟨⟨capacity.getD standardCapacity, slice, sweeps⟩, ?_, rfl, duration, rfl⟩
  rw [ofEnvironment, readVariable_of_gives valid.givesCapacity, bind_ok,
    readVariable_of_gives valid.givesMillis, bind_ok, made, bind_ok,
    readVariable_of_gives valid.givesSweeps, bind_ok]
  dsimp only
  rw [passes, bind_ok]
  rfl

theorem FirstFault.ofEnvironment_eq (fault : FirstFault lookup error) :
    ofEnvironment lookup = .error error := by
  cases fault with
  | capacity set malformed =>
    rw [ofEnvironment, readVariable_of_malformed set malformed, bind_error]
  | slice capacity set malformed =>
    rw [ofEnvironment, readVariable_of_gives capacity, bind_ok,
      readVariable_of_malformed set malformed, bind_error]
  | range capacity millis outside =>
    rw [ofEnvironment, readVariable_of_gives capacity, bind_ok, readVariable_of_gives millis,
      bind_ok, sliceOrStandard_of_not_inRange outside, bind_error]
  | sweeps capacity millis range set malformed =>
    obtain ⟨slice, made, _⟩ := sliceOrStandard_of_inRange range
    rw [ofEnvironment, readVariable_of_gives capacity, bind_ok, readVariable_of_gives millis,
      bind_ok, made, bind_ok, readVariable_of_malformed set malformed, bind_error]
  | room capacity millis range sweeps =>
    obtain ⟨slice, made, _⟩ := sliceOrStandard_of_inRange range
    rw [ofEnvironment, readVariable_of_gives capacity, bind_ok, readVariable_of_gives millis,
      bind_ok, made, bind_ok, readVariable_of_gives sweeps, bind_ok]
    rfl

/-- Of every environment a configuration can be made, or it has a first fault. -/
theorem valid_or_fault (lookup : String → Option String) :
    (∃ capacity millis sweeps, Valid lookup capacity millis sweeps) ∨
      ∃ error, FirstFault lookup error := by
  obtain ⟨capacity, first⟩ | ⟨raw, set, malformed⟩ := gives_or_malformed lookup capacityVariable
  · obtain ⟨millis, second⟩ | ⟨raw, set, malformed⟩ := gives_or_malformed lookup timeSliceVariable
    · by_cases range : InRange millis
      · obtain ⟨sweeps, third⟩ | ⟨raw, set, malformed⟩ :=
          gives_or_malformed lookup maxSweepsVariable
        · by_cases room : capacity = some 0
          · subst room
            exact .inr ⟨_, .room first second range third⟩
          · exact .inl ⟨_, _, _, first, second, range, third, room⟩
        · exact .inr ⟨_, .sweeps first second range set malformed⟩
      · cases millis with
        | none => exact absurd nofun range
        | some n => exact .inr ⟨_, .range first second range⟩
    · exact .inr ⟨_, .slice first set malformed⟩
  · exact .inr ⟨_, .capacity set malformed⟩

theorem ofEnvironment_eq_ok_iff :
    (∃ config, ofEnvironment lookup = .ok config) ↔
      ∃ capacity millis sweeps, Valid lookup capacity millis sweeps := by
  constructor
  · rintro ⟨config, made⟩
    rcases valid_or_fault lookup with valid | ⟨error, fault⟩
    · exact valid
    · cases made.symm.trans fault.ofEnvironment_eq
  · rintro ⟨capacity, millis, sweeps, valid⟩
    obtain ⟨config, made, _⟩ := valid.ofEnvironment_eq
    exact ⟨config, made⟩

theorem ofEnvironment_eq_error_iff :
    ofEnvironment lookup = .error error ↔ FirstFault lookup error := by
  constructor
  · intro failed
    rcases valid_or_fault lookup with ⟨capacity, millis, sweeps, valid⟩ | ⟨error', fault⟩
    · obtain ⟨config, made, _⟩ := valid.ofEnvironment_eq
      cases made.symm.trans failed
    · obtain rfl := Except.error.inj (fault.ofEnvironment_eq.symm.trans failed)
      exact fault
  · exact FirstFault.ofEnvironment_eq

/-- A configuration that an environment asks for has room for a task. -/
theorem capacity_ne_zero {config : Config} (made : ofEnvironment lookup = .ok config) :
    config.capacity ≠ 0 := by
  obtain ⟨capacity, millis, sweeps, valid⟩ := ofEnvironment_eq_ok_iff.1 ⟨config, made⟩
  obtain ⟨config', made', room, _⟩ := valid.ofEnvironment_eq
  obtain rfl := Except.ok.inj (made.symm.trans made')
  rw [room]
  exact valid.capacity_ne_zero

/-- The configuration of an environment depends on three variables. There is one just if each of
them that is set denotes a number, the time slice is from one to 60000 milliseconds and the capacity
is not zero; then what is set has its number and everything else its standard value. If there is
none, the error is the first fault. A scheduler is built with every configuration of an environment,
so none of them has no room for a task or a time slice outside the accepted range. -/
theorem environment_decides :
    (∀ lookup lookup', lookup capacityVariable = lookup' capacityVariable →
        lookup timeSliceVariable = lookup' timeSliceVariable →
        lookup maxSweepsVariable = lookup' maxSweepsVariable →
        ofEnvironment lookup = ofEnvironment lookup') ∧
      (∀ lookup, (∃ config, ofEnvironment lookup = .ok config) ↔
        ∃ capacity millis sweeps, Valid lookup capacity millis sweeps) ∧
      (∀ lookup capacity millis sweeps, Valid lookup capacity millis sweeps →
        ∃ config, ofEnvironment lookup = .ok config ∧
          config.capacity = capacity.getD standard.capacity ∧
            config.timeSlice.duration.totalNanos = sliceNanos millis ∧
              config.maxSweeps = sweeps) ∧
      (∀ lookup error, ofEnvironment lookup = .error error ↔ FirstFault lookup error) ∧
      ∀ lookup config, ofEnvironment lookup = .ok config →
        ∃ s, Scheduler.build config = .ok s ∧ s.config = config ∧ 0 < s.registry.capacity ∧
          1000 ≤ s.config.timeSlice.duration.totalNanos ∧
            s.config.timeSlice.duration.totalNanos ≤ 60000000000 := by
  refine ⟨?_, ?_, ?_, ?_, ?_⟩
  · intro lookup lookup' capacity millis sweeps
    rw [ofEnvironment, ofEnvironment, readVariable_congr capacity, readVariable_congr millis,
      readVariable_congr sweeps]
  · exact fun lookup => ofEnvironment_eq_ok_iff
  · exact fun lookup capacity millis sweeps valid => valid.ofEnvironment_eq
  · exact fun lookup error => ofEnvironment_eq_error_iff
  · intro lookup config made
    have room := capacity_ne_zero made
    have passes : config.validate = .ok () := if_neg room
    have positive : 0 < config.capacity.toNat :=
      Nat.pos_of_ne_zero fun zero => room (UInt64.toNat_inj.1 zero)
    refine ⟨.new config, ?_, rfl, positive, config.timeSlice.atLeast, config.timeSlice.atMost⟩
    rw [Scheduler.build, passes]
    rfl

/-- A capacity with a plus sign and blanks around it, and a time slice that is no number although
the capacity is zero. -/
theorem environment_decides_padded :
    (Valid (fun key => [(capacityVariable, "\t+8 ")].lookup key) (some 8) none none ∧
        ∃ config, ofEnvironment (fun key => [(capacityVariable, "\t+8 ")].lookup key) = .ok config ∧
          config.capacity = 8) ∧
      ofEnvironment (fun key =>
          [(capacityVariable, "0"), (timeSliceVariable, "soon")].lookup key) =
        .error (.invalidValue timeSliceVariable "soon") := by
  have eight : Denotes "\t+8 " 8 := denotes_iff.2 (by decide)
  have zero : Denotes "0" 0 := denotes_iff.2 (by decide)
  have soon : Malformed "soon" := fun n denotes => by
    have nothing : word? (trim "soon".toList) = none := by decide
    cases nothing.symm.trans (denotes_iff.1 denotes)
  have valid : Valid (fun key => [(capacityVariable, "\t+8 ")].lookup key) (some 8) none none :=
    ⟨.number eight, .unset, nofun, .unset, by decide⟩
  obtain ⟨config, made, capacity, _⟩ := environment_decides.2.2.1 _ _ _ _ valid
  exact ⟨⟨valid, config, made, capacity⟩,
    (environment_decides.2.2.2.1 _ _).2 (.slice (.number zero) rfl soon)⟩

end TimeShare.Config
