import TimeShare.Json.Reader

/-!
# Records with named fields

`Fields` describes how a record is read from an object: which keys belong to it
and how the value of each is read. Fields may come in any order. A second value
for a field is refused as soon as its key is met, keys that belong to no field are
passed over, and whether a required field is missing is decided at the end.
-/

namespace TimeShare.Json

/-- How a record is read from the members of an object into a state. -/
structure Fields (σ α : Type) where
  start : σ
  /-- How the value of a key is read, if the key belongs to the record. -/
  step : String → σ → Option (Reader σ)
  /-- The record, if nothing is missing. -/
  finish : σ → Option α

namespace Fields

variable {σ τ α β : Type}

def required (key : String) (read : Reader α) : Fields (Option α) α :=
  { start := none
    step := fun other state =>
      if other = key then some (Reader.once state some read) else none
    finish := id }

/-- A field that may be missing or null. -/
def optional (key : String) (read : Reader α) : Fields (Option (Option α)) (Option α) :=
  { start := none
    step := fun other state =>
      if other = key then some (Reader.once state some read.optional) else none
    finish := fun state => some state.join }

/-- The fields of one record followed by those of another. -/
def both (first : Fields σ α) (second : Fields τ β) : Fields (σ × τ) (α × β) :=
  { start := (first.start, second.start)
    step := fun key (left, right) =>
      match first.step key left with
      | some read => some (read.map fun left => (left, right))
      | none => (second.step key right).map fun read => read.map fun right => (left, right)
    finish := fun (left, right) =>
      match first.finish left, second.finish right with
      | some a, some b => some (a, b)
      | _, _ => none }

/-- Reads an object as a record. -/
def reader (fields : Fields σ α) : Reader α :=
  (Reader.object (fun key state => (fields.step key state).getD (Reader.skip state))
    fields.start).filterMap fields.finish

end Fields

end TimeShare.Json
