import TimeShare.Json.Tagged
import TimeShare.Proofs.Json.Values

/-!
# Records are read again

An object is read as a record if its members fill the fields of the record.
`Fields.Makes` says which record some members make; it is put together field by
field, where a field that may be missing has a member only if it has a value. The
fields of two records go together if no key belongs to both.

`restores_tagged` and `restores_bareTag` say the same of values of one of several
kinds: their kind stands before their details, so these are read as soon as they are
met.
-/

namespace TimeShare.Json

variable {σ τ α β : Type} {read : Reader α} {tokens : List Token} {value : α} {key : String}
  {members : List (String × List Token)}

/-- A value that is there is not taken for a missing one. -/
theorem Restores.optional (restores : Restores read tokens value) :
    Restores (Reader.optional read) tokens (some value) where
  reads rest := by
    obtain ⟨token, first, other, _⟩ := restores.first
    obtain ⟨behind, rfl⟩ := List.head?_eq_some_iff.1 first
    have here := (restores.map some).reads rest
    rw [Reader.optional.eq_2]
    · exact here
    · intro _ null
      exact other (Lexeme.token.inj (List.cons.inj null).1)
  separate := restores.separate
  first := restores.first

/-- A value that may be missing has a member if it is there. -/
theorem map_fst_optional (key : String) (write : α → List Token) (value : Option α) :
    (optional key write value).map Prod.fst = if value.isSome then [key] else [] := by
  cases value <;> rfl

/-- An object whose members take one state to another is read as the last state. -/
theorem Collects.restores {step : String → σ → Reader σ} {start last : σ}
    (collects : Collects step start members last)
    (separate : ∀ member ∈ members, Separate member.2) :
    Restores (Reader.object step start) (Json.object members) last :=
  ⟨collects.object, separate_object separate, .openObject, rfl, nofun, nofun⟩

namespace Fields

variable {first : Fields σ α} {second : Fields τ β} {fields : Fields σ α} {others : β}
  {left left' : σ} {right right' : τ}

/-! ## Keys -/

/-- A key belongs to no field. -/
def Ignores (fields : Fields σ α) (key : String) : Prop :=
  ∀ state, fields.step key state = none

@[simp] theorem ignores_required {other : String} :
    (required key read).Ignores other ↔ other ≠ key := by
  constructor
  · rintro ignores rfl
    have step : (required other read).step other none = some (read.map some) := if_pos rfl
    cases step.symm.trans (ignores none)
  · exact fun other _ => if_neg other

@[simp] theorem ignores_optional {other : String} :
    (optional key read).Ignores other ↔ other ≠ key := by
  constructor
  · rintro ignores rfl
    have step : (optional other read).step other none = some (read.optional.map some) := if_pos rfl
    cases step.symm.trans (ignores none)
  · exact fun other _ => if_neg other

theorem step_both_left {reader : Reader σ} (step : first.step key left = some reader) (right : τ) :
    (first.both second).step key (left, right) = some (reader.map fun left => (left, right)) := by
  rw [both]
  dsimp only
  rw [step]

theorem step_both_right (ignores : first.Ignores key) (left : σ) (right : τ) :
    (first.both second).step key (left, right) =
      (second.step key right).map fun read => read.map fun right => (left, right) := by
  rw [both]
  dsimp only
  rw [ignores left]

@[simp] theorem ignores_both :
    (first.both second).Ignores key ↔ first.Ignores key ∧ second.Ignores key := by
  constructor
  · intro ignores
    have foreign : first.Ignores key := by
      intro left
      cases step : first.step key left with
      | none => rfl
      | some reader => cases (step_both_left step second.start).symm.trans (ignores _)
    refine ⟨foreign, fun right => ?_⟩
    have nothing := ignores (first.start, right)
    rw [step_both_right foreign] at nothing
    exact Option.map_eq_none_iff.1 nothing
  · rintro ⟨foreign, foreign'⟩ ⟨left, right⟩
    rw [step_both_right foreign, foreign' right]
    rfl

/-! ## Members -/

/-- Some members, each with the value of a field, take one state to another. -/
inductive Fills (fields : Fields σ α) : σ → List (String × List Token) → σ → Prop
  | nil {state : σ} : Fills fields state [] state
  | cons {state next last : σ} {key : String} {tokens : List Token} {read : Reader σ}
      {members : List (String × List Token)} : fields.step key state = some read →
    Restores read tokens next → Fills fields next members last →
    Fills fields state ((key, tokens) :: members) last

theorem Fills.append {last : σ} {more : List (String × List Token)}
    (fills : fields.Fills left members left') (later : fields.Fills left' more last) :
    fields.Fills left (members ++ more) last := by
  induction fills with
  | nil => exact later
  | cons step restores _ ih => exact .cons step restores (ih later)

/-- Members of the first of two records leave the state of the second. -/
theorem Fills.both_left (fills : first.Fills left members left') (right : τ) :
    (first.both second).Fills (left, right) members (left', right) := by
  induction fills with
  | nil => exact .nil
  | cons step restores _ ih => exact .cons (step_both_left step right) (restores.map _) ih

/-- Members of the second of two records leave the state of the first, if no key belongs to
both. -/
theorem Fills.both_right (apart : ∀ key, first.Ignores key ∨ second.Ignores key)
    (fills : second.Fills right members right') (left : σ) :
    (first.both second).Fills (left, right) members (left, right') := by
  induction fills with
  | nil => exact .nil
  | @cons state next last key tokens read members step restores _ ih =>
    rcases apart key with foreign | foreign
    · have found : (first.both second).step key (left, state) = _ :=
        step_both_right foreign left state
      rw [step, Option.map_some] at found
      exact .cons found (restores.map _) ih
    · cases (foreign state).symm.trans step

/-- Some members make a record. -/
def Makes (fields : Fields σ α) (members : List (String × List Token)) (value : α) : Prop :=
  ∃ last, fields.Fills fields.start members last ∧ fields.finish last = some value

theorem makes_required (key : String) (restores : Restores read tokens value) :
    (required key read).Makes [(key, tokens)] value :=
  ⟨some value, .cons (if_pos rfl) (restores.map some) .nil, rfl⟩

/-- A field that may be missing has a member if it has a value. -/
theorem makes_optional (key : String) {write : α → List Token} {value : Option α}
    (restores : ∀ v ∈ value, Restores read (write v) v) :
    (optional key read).Makes (Json.optional key write value) value := by
  cases value with
  | none => exact ⟨none, .nil, rfl⟩
  | some v =>
    exact ⟨some (some v), .cons (if_pos rfl) ((restores v rfl).optional.map some) .nil, rfl⟩

theorem Makes.both {more : List (String × List Token)}
    (apart : ∀ key, first.Ignores key ∨ second.Ignores key) (makes : first.Makes members value)
    (makes' : second.Makes more others) :
    (first.both second).Makes (members ++ more) (value, others) := by
  obtain ⟨left, fills, finish⟩ := makes
  obtain ⟨right, fills', finish'⟩ := makes'
  refine ⟨(left, right), (fills.both_left _).append (fills'.both_right apart left), ?_⟩
  rw [Fields.both]
  dsimp only
  rw [finish, finish']

/-- The field of a key and a record without this key have no key in common. -/
theorem apart_of_ignores (keyed : ∀ other, first.Ignores other ↔ other ≠ key)
    (fresh : second.Ignores key) (other : String) : first.Ignores other ∨ second.Ignores other := by
  by_cases same : other = key
  · exact .inr (same ▸ fresh)
  · exact .inl ((keyed other).2 same)

/-- A field in front of a record that does not have its key. -/
theorem Makes.after_required (restores : Restores read tokens value) (fresh : second.Ignores key)
    (makes : second.Makes members others) :
    ((required key read).both second).Makes ((key, tokens) :: members) (value, others) :=
  .both (apart_of_ignores (fun _ => ignores_required) fresh) (makes_required key restores) makes

/-- A field that may be missing in front of a record that does not have its key. -/
theorem Makes.after_optional {write : α → List Token} {value : Option α}
    (restores : ∀ v ∈ value, Restores read (write v) v) (fresh : second.Ignores key)
    (makes : second.Makes members others) :
    ((optional key read).both second).Makes (Json.optional key write value ++ members)
      (value, others) :=
  .both (apart_of_ignores (fun _ => ignores_optional) fresh) (makes_optional key restores) makes

/-! ## Records -/

theorem Fills.collects {last : σ} (fills : fields.Fills left members last) :
    Collects (fun key state => (fields.step key state).getD (Reader.skip state)) left members
      last := by
  induction fills with
  | nil => exact .nil
  | cons step restores _ ih =>
    refine .cons (fun rest => ?_) ih
    rw [step]
    exact restores.reads rest

theorem Fills.separate {last : σ} (fills : fields.Fills left members last) :
    ∀ member ∈ members, Separate member.2 := by
  induction fills with
  | nil => exact List.forall_mem_nil _
  | cons _ restores _ ih => exact List.forall_mem_cons.2 ⟨restores.separate, ih⟩

/-- Members that make a record are read as it. -/
theorem Makes.restores (makes : fields.Makes members value) :
    Restores fields.reader (object members) value := by
  obtain ⟨last, fills, finish⟩ := makes
  exact (fills.collects.restores fills.separate).filterMap finish

end Fields

/-- Members that make the record of a kind are read as the value that the kind makes of it. -/
theorem Fields.Makes.restores_details {fields : Fields σ α} (makes : fields.Makes members value)
    {make : α → β} : Restores (Kind.ofFields fields make).details (object members) (make value) :=
  makes.restores.map make

/-! ## Tagged records -/

section Tagged

variable {kinds : List (String × Kind α)} {name : String} {kind : Kind α}
  {details : List (String × List Token)}

/-- The kind of a value is read if it is met first. -/
theorem restores_kind
    (found : (kinds.find? fun (other, _) => other = name).map (·.2) = some kind) :
    Restores (TaggedState.step kinds kindKey .start) [.string name] ⟨some kind, none, none⟩ :=
  (restores_oneOf found).check rfl

/-- Details of a known kind are read at once. -/
theorem restores_details (restores : Restores kind.details tokens value) :
    Restores (TaggedState.step kinds detailsKey ⟨some kind, none, none⟩) tokens
      ⟨some kind, none, some value⟩ := by
  have step : TaggedState.step kinds detailsKey ⟨some kind, none, none⟩ =
      kind.details.map fun value => ⟨some kind, none, some value⟩ := rfl
  rw [step]
  exact restores.map fun value => TaggedState.mk (some kind) none (some value)

theorem restores_tagged
    (found : (kinds.find? fun (other, _) => other = name).map (·.2) = some kind)
    (restores : Restores kind.details (object details) value) :
    Restores (Reader.tagged kinds) (tagged name details) value := by
  have first := restores_kind found
  have second : Restores (TaggedState.step kinds detailsKey _) _ _ := restores_details restores
  have collects := Collects.cons first.reads (.cons second.reads .nil)
  have separate : ∀ member ∈ [(kindKey, [Token.string name]), (detailsKey, object details)],
      Separate member.2 :=
    List.forall_mem_cons.2 ⟨first.separate, List.forall_mem_singleton.2 second.separate⟩
  exact (collects.restores separate).filterMap rfl

theorem restores_bareTag
    (found : (kinds.find? fun (other, _) => other = name).map (·.2) = some kind)
    (bare : kind.bare = some value) : Restores (Reader.tagged kinds) (bareTag name) value := by
  have first := restores_kind found
  have collects := Collects.cons first.reads .nil
  have separate : ∀ member ∈ [(kindKey, [Token.string name])], Separate member.2 :=
    List.forall_mem_singleton.2 first.separate
  exact (collects.restores separate).filterMap bare

end Tagged

end TimeShare.Json
