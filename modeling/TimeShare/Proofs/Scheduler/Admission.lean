import TimeShare.Proofs.Scheduler.Observer

/-!
# Admission over a scheduler's life

Programs are offered by calls. The first of them are admitted, as many as there
are places, and become tasks under the identifiers zero, one, two and so on;
the others are refused. Nothing that happens later adds a place, moves a task or
takes one away. `admission_law` says so of every life.

* `keeps_run`: what is no admission leaves the roll of tasks as it is.
* `Admits`: which of some offers are admitted, and under which identifiers.
  `Admits.trans` joins offers made one after another, and with it batches
  (`admits_submitEach`) and lives (`admits_calls`) go by induction.
* `submitAll_eq_calls`: a batch is as good as its programs one by one.
-/

namespace TimeShare

/-- The programs that a call offers, with their priorities; a source that does not load offers
none. -/
def Call.offers : Call → List (Int32 × Program)
  | submit priority program => [(priority, program)]
  | submitSource priority source =>
    match Program.ofString source with
    | .ok program => [(priority, program)]
    | .error _ => []
  | submitAll programs => programs
  | sweep => []
  | run => []

namespace Scheduler

open Registry (Keeps)

variable {plan : Plan} {s s' s'' : Scheduler}

/-! ## Sweeps and runs admit nothing -/

theorem keeps_sweepUntilDone (plan : Plan) (sweeps : Nat) (s : Scheduler) :
    Keeps s.registry (sweepUntilDone plan sweeps s).2.registry := by
  fun_induction sweepUntilDone plan sweeps s with
  | case1 => exact .refl _
  | case2 => exact .refl _
  | case3 sweeps s _ _ error next made =>
    have kept := keeps_sweep plan s
    rwa [made] at kept
  | case4 sweeps s _ _ exits next made ih =>
    have kept := keeps_sweep plan s
    rw [made] at kept
    exact kept.trans ih

theorem keeps_run (plan : Plan) (s : Scheduler) : Keeps s.registry (s.run plan).2.registry := by
  have kept := keeps_sweepUntilDone plan 0
    (s.record (.schedulerStarted s.registry.size s.config.timeSlice.micros))
  rw [registry_record] at kept
  unfold run
  dsimp only
  split
  · rename_i error last failed
    rwa [failed] at kept
  · rename_i sweeps last done
    rwa [done] at kept

/-! ## One admission -/

theorem submit_of_room (priority : Int32) (program : Program)
    (room : s.registry.size < s.registry.limit) :
    (s.submit priority program).1 = .ok (UInt32.ofNat s.registry.size) ∧
      (s.submit priority program).2.registry.capacity = s.registry.capacity ∧
      (s.submit priority program).2.registry.roll =
        s.registry.roll ++ enroll s.registry.size [(priority, program)] ∧
      (s.submit priority program).2.trace =
        s.trace ++ (enroll s.registry.size [(priority, program)]).map Enrollment.event := by
  obtain ⟨grown, inserted, capacity, roll⟩ := Registry.insert_of_room priority program room
  rw [submit, inserted]
  dsimp only
  rw [registry_recordAdmission, trace_recordAdmission]
  exact ⟨rfl, capacity, roll, rfl⟩

/-- A program that finds the registry full is refused, and nothing but that is recorded. -/
theorem submit_of_full (priority : Int32) (program : Program)
    (full : s.registry.limit ≤ s.registry.size) :
    s.submit priority program =
      (.error ⟨s.registry.capacity⟩, s.record (.admissionRejected s.registry.capacity)) := by
  rw [submit, Registry.insert_of_full priority program full]

theorem submit_cases (s : Scheduler) (priority : Int32) (program : Program) :
    (s.registry.size < s.registry.limit ∧
        (s.submit priority program).1 = .ok (UInt32.ofNat s.registry.size)) ∨
      (s.registry.limit ≤ s.registry.size ∧ s.submit priority program =
        (.error ⟨s.registry.capacity⟩, s.record (.admissionRejected s.registry.capacity))) := by
  by_cases room : s.registry.size < s.registry.limit
  · exact .inl ⟨room, (submit_of_room priority program room).1⟩
  · exact .inr ⟨Nat.not_lt.1 room, submit_of_full priority program (Nat.not_lt.1 room)⟩

theorem submitSource_of_error {priority : Int32} {source : String} {error : LoadError}
    (fails : Program.ofString source = .error error) :
    s.submitSource priority source = (.error (.load error), s) := by
  rw [submitSource, fails]

/-! ## Offers made one after another -/

/-- Of some offers those are admitted that find room, the first ones, under the next identifiers. -/
structure Admits (s : Scheduler) (offers : List (Int32 × Program)) (ids : List TaskId)
    (s' : Scheduler) : Prop where
  capacity : s'.registry.capacity = s.registry.capacity
  roll : s'.registry.roll =
    s.registry.roll ++ enroll s.registry.size (offers.take s.registry.room)
  ids : ids = (enroll s.registry.size (offers.take s.registry.room)).map Enrollment.id

namespace Admits

variable {first second : List (Int32 × Program)} {ids ids' : List TaskId}

theorem of_keeps (kept : Keeps s.registry s'.registry) : Admits s [] [] s' where
  capacity := kept.capacity
  roll := by rw [kept.roll, List.take_nil, enroll, List.append_nil]
  ids := by rw [List.take_nil, enroll, List.map_nil]

theorem size (admits : Admits s first ids s') :
    s'.registry.size = s.registry.size + min s.registry.room first.length := by
  rw [← Registry.length_roll, admits.roll, List.length_append, Registry.length_roll,
    length_enroll, List.length_take]

theorem limit (admits : Admits s first ids s') : s'.registry.limit = s.registry.limit := by
  rw [Registry.limit, admits.capacity, Registry.limit]

theorem trans (before : Admits s first ids s') (later : Admits s' second ids' s'') :
    Admits s (first ++ second) (ids ++ ids') s'' := by
  -- Later offers find the room that the earlier ones left.
  have left : s'.registry.room = s.registry.room - first.length := by
    rw [Registry.room, before.limit, before.size, Registry.room]
    omega
  have joined : enroll s.registry.size ((first ++ second).take s.registry.room) =
      enroll s.registry.size (first.take s.registry.room) ++
        enroll s'.registry.size (second.take s'.registry.room) := by
    rw [List.take_append, enroll_append, List.length_take, ← before.size, left]
  refine ⟨later.capacity.trans before.capacity, ?_, ?_⟩
  · rw [later.roll, before.roll, joined, List.append_assoc]
  · rw [later.ids, before.ids, joined, List.map_append]

end Admits

/-- The identifiers that an answer hands out. -/
def Answer.handles : Answer → List TaskId
  | admitted (.ok id) => [id]
  | admittedAll ids => ids
  | _ => []

theorem admits_submit (s : Scheduler) (priority : Int32) (program : Program) :
    Admits s [(priority, program)]
      (Answer.admitted ((s.submit priority program).1.mapError .admission)).handles
      (s.submit priority program).2 := by
  by_cases room : s.registry.size < s.registry.limit
  · obtain ⟨result, capacity, roll, _⟩ := submit_of_room priority program room
    have whole : [(priority, program)].take s.registry.room = [(priority, program)] := by
      apply List.take_of_length_le
      rw [List.length_singleton, Registry.room]
      omega
    rw [result]
    exact ⟨capacity, by rw [roll, whole], by rw [whole]; rfl⟩
  · have full := Nat.not_lt.1 room
    have none_left : s.registry.room = 0 := Nat.sub_eq_zero_of_le full
    rw [submit_of_full priority program full]
    refine ⟨rfl, ?_, ?_⟩
    · rw [none_left, List.take_zero, enroll, List.append_nil, registry_record]
    · rw [none_left, List.take_zero]
      rfl

/-! ## Batches -/

/-- The calls that offer programs one by one. -/
def oneByOne (programs : List (Int32 × Program)) : List Call :=
  programs.map fun offer => .submit offer.1 offer.2

/-- A batch hands out the identifiers that its programs get one by one, and leaves the same. -/
theorem submitEach_eq_calls (plan : Plan) (programs : List (Int32 × Program)) (s : Scheduler) :
    (submitEach programs s).1.1 =
        (answerEach plan (oneByOne programs) s).flatMap Answer.handles ∧
      (submitEach programs s).2 = (oneByOne programs).foldl (perform plan) s := by
  induction programs generalizing s with
  | nil => exact ⟨rfl, rfl⟩
  | cons offer rest ih =>
    obtain ⟨priority, program⟩ := offer
    obtain ⟨ids, state⟩ := ih (s.submit priority program).2
    rw [submitEach_cons, oneByOne, List.map_cons, ← oneByOne, answerEach, List.flatMap_cons,
      List.foldl_cons, perform, answer]
    dsimp only
    rw [← ids, ← state]
    refine ⟨?_, rfl⟩
    cases (s.submit priority program).1 <;> rfl

/-- Every program of a batch is either admitted or refused. -/
theorem length_submitEach (programs : List (Int32 × Program)) (s : Scheduler) :
    (submitEach programs s).1.1.length + (submitEach programs s).1.2 = programs.length := by
  induction programs generalizing s with
  | nil => rfl
  | cons offer rest ih =>
    obtain ⟨priority, program⟩ := offer
    have later := ih (s.submit priority program).2
    rw [submitEach_cons, List.length_cons]
    dsimp only
    cases (s.submit priority program).1 with
    | ok id =>
      simp only [List.length_cons]
      omega
    | error error =>
      dsimp only
      omega

theorem admits_submitEach (programs : List (Int32 × Program)) (s : Scheduler) :
    Admits s programs (submitEach programs s).1.1 (submitEach programs s).2 := by
  induction programs generalizing s with
  | nil => exact .of_keeps (.refl _)
  | cons offer rest ih =>
    obtain ⟨priority, program⟩ := offer
    have joined := (admits_submit s priority program).trans (ih (s.submit priority program).2)
    rw [submitEach_cons]
    dsimp only
    revert joined
    cases (s.submit priority program).1 <;> exact id

/-- A batch records the admissions first and then one refusal for each of the others. -/
theorem trace_submitEach (programs : List (Int32 × Program)) (s : Scheduler) :
    (submitEach programs s).2.trace =
      s.trace ++
        ((enroll s.registry.size (programs.take s.registry.room)).map Enrollment.event ++
          List.replicate (programs.length - s.registry.room)
            (.admissionRejected s.registry.capacity)) := by
  induction programs generalizing s with
  | nil => rw [submitEach, List.take_nil, List.length_nil, Nat.zero_sub, enroll]; simp
  | cons offer rest ih =>
    obtain ⟨priority, program⟩ := offer
    rw [submitEach_cons]
    dsimp only
    rw [ih]
    by_cases room : s.registry.size < s.registry.limit
    · obtain ⟨_, capacity, _, trace⟩ := submit_of_room priority program room
      have admits := admits_submit s priority program
      have some_left : s.registry.room = s.registry.limit - (s.registry.size + 1) + 1 := by
        rw [Registry.room]
        omega
      have size := admits.size
      rw [some_left, List.length_singleton, Nat.min_eq_right (Nat.le_add_left 1 _)] at size
      rw [capacity, trace, size, Registry.room, admits.limit, size, some_left, List.take_succ_cons,
        List.length_cons, Nat.add_sub_add_right, List.append_assoc]
      rfl
    · have full := Nat.not_lt.1 room
      have none_left : s.registry.room = 0 := Nat.sub_eq_zero_of_le full
      rw [submit_of_full priority program full]
      dsimp only
      rw [registry_record, trace_record, none_left, List.take_zero, List.take_zero, Nat.sub_zero,
        Nat.sub_zero, List.length_cons, List.replicate_succ, List.append_assoc]
      rfl

/-! ## Lives -/

theorem admits_perform (plan : Plan) (s : Scheduler) (call : Call) :
    Admits s call.offers (s.answer plan call).handles (s.perform plan call) := by
  cases call with
  | submit priority program => exact admits_submit s priority program
  | submitSource priority source =>
    rw [Call.offers, answer, perform]
    cases loaded : Program.ofString source with
    | error error =>
      rw [submitSource_of_error loaded]
      exact .of_keeps (.refl _)
    | ok program =>
      rw [submitSource_of_ok loaded]
      exact admits_submit s priority program
  | submitAll programs =>
    have each := admits_submitEach programs s
    rw [Call.offers, answer, perform, submitAll_eq]
    dsimp only
    split
    · exact each
    · exact ⟨each.capacity, each.roll, each.ids⟩
  | sweep => exact .of_keeps (keeps_sweep plan s)
  | run => exact .of_keeps (keeps_run plan s)

theorem admits_calls (plan : Plan) (s : Scheduler) (calls : List Call) :
    Admits s (calls.flatMap Call.offers) ((answerEach plan calls s).flatMap Answer.handles)
      (calls.foldl (perform plan) s) := by
  induction calls generalizing s with
  | nil => exact .of_keeps (.refl _)
  | cons call rest ih =>
    rw [List.flatMap_cons, answerEach, List.flatMap_cons, List.foldl_cons]
    exact (admits_perform plan s call).trans (ih _)

/-- The identifiers handed out in a life, in order. -/
def handles (plan : Plan) (config : Config) (calls : List Call) : List TaskId :=
  (answers plan config calls).flatMap Answer.handles

/-- What a scheduler does with further programs that has given away some of its places. -/
structure AdmissionsFrom (plan : Plan) (s : Scheduler) (given capacity : Nat) : Prop where
  /-- A program finds room as long as there is a place left. -/
  accepted : ∀ priority program,
    (∃ id, (s.submit priority program).1 = .ok id) ↔ given < capacity
  number : ∀ priority program id, (s.submit priority program).1 = .ok id → id.toNat = given
  /-- A refusal is recorded and changes nothing else. -/
  refused : ∀ priority program error, (s.submit priority program).1 = .error error →
    error = ⟨capacity⟩ ∧ (s.submit priority program).2 = s.record (.admissionRejected capacity)
  /-- A source is admitted as its program is. -/
  loaded : ∀ priority source program, Program.ofString source = .ok program →
    s.submitSource priority source =
      ((s.submit priority program).1.mapError .admission, (s.submit priority program).2)
  /-- A source that does not load changes nothing and leaves no record. -/
  malformed : ∀ priority source error, Program.ofString source = .error error →
    s.submitSource priority source = (.error (.load error), s)
  /-- A batch gets the answers that its programs get one by one. -/
  batch_handles : ∀ programs,
    (s.submitAll programs).1 = (answerEach plan (oneByOne programs) s).flatMap Answer.handles
  /-- A batch leaves what its programs leave one by one, with a notice if some were refused. -/
  batch_state : ∀ programs, (s.submitAll programs).2 =
    let last := (oneByOne programs).foldl (perform plan) s
    if programs.length ≤ capacity - given then last
    else last.note (.programsDropped (capacity - given) (programs.length - (capacity - given))
      capacity)
  /-- The first programs of a batch are admitted, as many as there are places. -/
  batch_numbers : ∀ programs, (s.submitAll programs).1.map UInt32.toNat =
    List.range' given (min programs.length (capacity - given))
  /-- A batch records its admissions and then one refusal for each of the others. -/
  batch_trace : ∀ programs, (s.submitAll programs).2.trace = s.trace ++
    ((enroll given (programs.take (capacity - given))).map Enrollment.event ++
      List.replicate (programs.length - (capacity - given)) (.admissionRejected capacity))

/-- What admission is over a life. -/
structure AdmissionLaw (plan : Plan) (config : Config) (calls : List Call) : Prop where
  /-- The tasks are the first programs offered, as many as there are places, in order. -/
  roll : (after plan config calls).registry.roll =
    enroll 0 ((calls.flatMap Call.offers).take config.capacity.toNat)
  /-- Their identifiers were handed out in order, from zero on. -/
  numbers : (handles plan config calls).map UInt32.toNat =
    List.range (min (calls.flatMap Call.offers).length config.capacity.toNat)
  /-- An identifier leads to its task ever after. -/
  lasting : ∀ (more : List Call) (place : Nat) (id : TaskId),
    (handles plan config calls)[place]? = some id →
    ∃ offer task, (calls.flatMap Call.offers)[place]? = some offer ∧
      (after plan config (calls ++ more)).registry.get? id = some task ∧
      task.enrollment = ⟨id, offer.1, offer.2⟩
  /-- The identifiers handed out so far decide what comes of further programs. -/
  further : AdmissionsFrom plan (after plan config calls) (handles plan config calls).length
    config.capacity.toNat

/-- The state after some calls of a new scheduler has admitted what the calls offer. -/
theorem admits_after (plan : Plan) (config : Config) (calls : List Call) :
    Admits (new config) (calls.flatMap Call.offers) (handles plan config calls)
      (after plan config calls) :=
  admits_calls plan (new config) calls

theorem room_new {config : Config} (fits : config.capacity.toNat ≤ taskIdCount) :
    (new config).registry.room = config.capacity.toNat :=
  Nat.min_eq_left fits

theorem roll_after {config : Config} (fits : config.capacity.toNat ≤ taskIdCount) (plan : Plan)
    (calls : List Call) : (after plan config calls).registry.roll =
      enroll 0 ((calls.flatMap Call.offers).take config.capacity.toNat) := by
  have roll := (admits_after plan config calls).roll
  rw [room_new fits] at roll
  exact roll

theorem handles_eq {config : Config} (fits : config.capacity.toNat ≤ taskIdCount) (plan : Plan)
    (calls : List Call) : handles plan config calls =
      (enroll 0 ((calls.flatMap Call.offers).take config.capacity.toNat)).map Enrollment.id := by
  have ids := (admits_after plan config calls).ids
  rw [room_new fits] at ids
  exact ids

/-- An identifier that was handed out leads to its task, however the life goes on. -/
theorem get?_of_handles {config : Config} (fits : config.capacity.toNat ≤ taskIdCount)
    (plan : Plan) (calls more : List Call) {place : Nat} {id : TaskId}
    (handed : (handles plan config calls)[place]? = some id) :
    ∃ offer task, (calls.flatMap Call.offers)[place]? = some offer ∧
      (after plan config (calls ++ more)).registry.get? id = some task ∧
      task.enrollment = ⟨id, offer.1, offer.2⟩ := by
  rw [handles_eq fits, List.getElem?_map, getElem?_enroll, Option.map_map, Nat.zero_add,
    Option.map_eq_some_iff] at handed
  obtain ⟨offer, offered, rfl⟩ := handed
  have within : place < config.capacity.toNat := by
    have inside := (List.getElem?_eq_some_iff.1 offered).1
    rw [List.length_take] at inside
    exact Nat.lt_of_lt_of_le inside (Nat.min_le_left _ _)
  have here : (calls.flatMap Call.offers)[place]? = some offer := by
    rwa [List.getElem?_take_of_lt within] at offered
  have number : (UInt32.ofNat place).toNat = place :=
    UInt32.toNat_ofNat_of_lt' (Nat.lt_of_lt_of_le within fits)
  -- Later offers come behind the earlier ones.
  have entry : (after plan config (calls ++ more)).registry.roll[place]? =
      some ⟨UInt32.ofNat place, offer.1, offer.2⟩ := by
    rw [roll_after fits, getElem?_enroll, List.getElem?_take_of_lt within, List.flatMap_append,
      List.getElem?_append_left (List.getElem?_eq_some_iff.1 here).1, here, Nat.zero_add]
    rfl
  rw [← number, Registry.getElem?_roll, Option.map_eq_some_iff, number] at entry
  obtain ⟨task, found, enrolled⟩ := entry
  exact ⟨offer, task, here, found, enrolled⟩

/-- The identifiers that a batch hands out follow those handed out before. -/
theorem numbers_submitEach (programs : List (Int32 × Program)) (s : Scheduler)
    (within : s.registry.size ≤ s.registry.limit) :
    (submitEach programs s).1.1.map UInt32.toNat =
      List.range' s.registry.size (min programs.length s.registry.room) := by
  have fits : s.registry.size + (programs.take s.registry.room).length ≤ taskIdCount := by
    rw [List.length_take, Registry.room]
    rw [Registry.limit] at *
    omega
  have numbers := toNat_enroll fits
  rw [List.length_take, Nat.min_comm] at numbers
  rw [(admits_submitEach programs s).ids, List.map_map]
  exact numbers

/-- As many programs of a batch are refused as there is no room for. -/
theorem refused_submitEach (programs : List (Int32 × Program)) (s : Scheduler) :
    (submitEach programs s).1.1.length = min programs.length s.registry.room ∧
      (submitEach programs s).1.2 = programs.length - s.registry.room := by
  have admitted : (submitEach programs s).1.1.length = min programs.length s.registry.room := by
    rw [(admits_submitEach programs s).ids, List.length_map, length_enroll, List.length_take,
      Nat.min_comm]
  have total := length_submitEach programs s
  exact ⟨admitted, by omega⟩

/-- A batch leaves what its programs leave one by one, and a notice if some were refused. -/
theorem submitAll_eq_calls (plan : Plan) (programs : List (Int32 × Program)) (s : Scheduler) :
    (s.submitAll programs).1 =
        (answerEach plan (oneByOne programs) s).flatMap Answer.handles ∧
      (s.submitAll programs).2 =
        let last := (oneByOne programs).foldl (perform plan) s
        if programs.length ≤ s.registry.room then last
        else last.note (.programsDropped s.registry.room (programs.length - s.registry.room)
          s.registry.capacity) := by
  obtain ⟨ids, state⟩ := submitEach_eq_calls plan programs s
  obtain ⟨admitted, refused⟩ := refused_submitEach programs s
  have capacity := (admits_submitEach programs s).capacity
  rw [submitAll_eq]
  dsimp only
  rw [← ids, ← state, refused, capacity, admitted]
  by_cases whole : programs.length ≤ s.registry.room
  · rw [if_pos (Nat.sub_eq_zero_of_le whole), if_pos whole]
    exact ⟨rfl, rfl⟩
  · have some_refused : programs.length - s.registry.room ≠ 0 := by omega
    rw [if_neg some_refused, if_neg whole, Nat.min_eq_right (by omega)]
    exact ⟨rfl, rfl⟩

theorem trace_submitAll (programs : List (Int32 × Program)) (s : Scheduler) :
    (s.submitAll programs).2.trace = (submitEach programs s).2.trace := by
  rw [submitAll_eq]
  dsimp only
  split
  · rfl
  · exact trace_note _ _

/-- A scheduler that has admitted so many tasks goes on from there. -/
theorem admissionsFrom_size (plan : Plan) (s : Scheduler)
    (fits : s.registry.capacity ≤ taskIdCount) (within : s.registry.size ≤ s.registry.capacity) :
    AdmissionsFrom plan s s.registry.size s.registry.capacity := by
  have limit : s.registry.limit = s.registry.capacity := Nat.min_eq_left fits
  have room : s.registry.capacity - s.registry.size = s.registry.room := by
    rw [Registry.room, limit]
  constructor
  case accepted =>
    intro priority program
    rcases s.submit_cases priority program with ⟨free, result⟩ | ⟨full, refused⟩
    · rw [result, ← limit]
      exact iff_of_true ⟨_, rfl⟩ free
    · rw [refused, ← limit]
      exact iff_of_false nofun (Nat.not_lt.2 full)
  case number =>
    intro priority program id admitted
    rcases s.submit_cases priority program with ⟨free, result⟩ | ⟨_, refused⟩
    · rw [result] at admitted
      obtain rfl := Except.ok.inj admitted
      exact UInt32.toNat_ofNat_of_lt' (Nat.lt_of_lt_of_le (limit ▸ free) fits)
    · rw [refused] at admitted
      cases admitted
  case refused =>
    intro priority program error failed
    rcases s.submit_cases priority program with ⟨_, result⟩ | ⟨_, refused⟩
    · rw [result] at failed
      cases failed
    · rw [refused] at failed ⊢
      exact ⟨(Except.error.inj failed).symm, rfl⟩
  case loaded => exact fun _ _ _ loaded => submitSource_of_ok loaded
  case malformed => exact fun _ _ _ fails => submitSource_of_error fails
  case batch_handles => exact fun programs => (submitAll_eq_calls plan programs s).1
  case batch_state =>
    intro programs
    rw [room]
    exact (submitAll_eq_calls plan programs s).2
  case batch_numbers =>
    intro programs
    rw [(submitAll_eq_calls plan programs s).1, ← (submitEach_eq_calls plan programs s).1, room]
    exact numbers_submitEach programs s (limit ▸ within)
  case batch_trace =>
    intro programs
    rw [trace_submitAll, trace_submitEach, room]

/-- In every life programs are admitted in the order in which they are offered, until the places
are used up; each has its place and its identifier for ever. -/
theorem admission_law (plan : Plan) {config : Config} (fits : config.capacity.toNat ≤ taskIdCount)
    (calls : List Call) : AdmissionLaw plan config calls := by
  have ids := handles_eq fits plan calls
  have roll := roll_after fits plan calls
  have capacity : (after plan config calls).registry.capacity = config.capacity.toNat :=
    (admits_after plan config calls).capacity
  have count : (handles plan config calls).length = (after plan config calls).registry.size := by
    rw [ids, ← Registry.length_roll, roll, List.length_map]
  constructor
  case roll => exact roll
  case numbers =>
    have below : 0 + ((calls.flatMap Call.offers).take config.capacity.toNat).length ≤
        taskIdCount := by
      rw [List.length_take]
      omega
    have numbers := toNat_enroll below
    rw [List.length_take, Nat.min_comm, ← List.range_eq_range'] at numbers
    rw [ids, List.map_map]
    exact numbers
  case lasting => exact fun more place id handed => get?_of_handles fits plan calls more handed
  case further =>
    have within : (after plan config calls).registry.size ≤ config.capacity.toNat := by
      rw [← Registry.length_roll, roll, length_enroll, List.length_take]
      exact Nat.min_le_left _ _
    rw [count, ← capacity]
    rw [← capacity] at fits within
    exact admissionsFrom_size plan _ fits within

/-- A life with a lost context and a batch that is too large. -/
def crowdedCalls : List Call :=
  lossyCalls ++ [.submitAll (List.replicate 5 (2, endPush)), .run]

/-- In a life with a lost context five of seven programs find a place. -/
theorem admission_law_crowded :
    AdmissionLaw lossyPlan .standard crowdedCalls ∧
      handles lossyPlan .standard crowdedCalls = [0, 1, 2, 3, 4] :=
  ⟨admission_law lossyPlan (by decide) crowdedCalls, by decide +kernel⟩

end Scheduler

end TimeShare
