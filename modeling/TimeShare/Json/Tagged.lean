import TimeShare.Json.Fields

/-!
# Tagged records

A value of one of several kinds is written as an object with the kind under
`error_type` and the record of that kind under `details`. A kind without a record
leaves `details` out; when read, null may stand there.

The two members may come in either order, and others are passed over. Details in
front of their kind have to be kept until the kind is known. Only whole characters,
numbers in the range of floating-point numbers and a bounded nesting can be kept,
and not every kind can be read from what was kept.
-/

namespace TimeShare.Json

def kindKey : String := "error_type"

def detailsKey : String := "details"

def tagged (kind : String) (details : List (String × List Token)) : List Token :=
  object [(kindKey, [.string kind]), (detailsKey, object details)]

def bareTag (kind : String) : List Token :=
  object [(kindKey, [.string kind])]

/-- How the values of one kind are read. -/
structure Kind (α : Type) where
  details : Reader α
  /-- The value without details, for a kind without a record. -/
  bare : Option α
  /-- Whether details can be kept until the kind is known. -/
  keepable : Bool

namespace Kind

variable {α : Type}

def ofFields {σ β : Type} (fields : Fields σ β) (make : β → α) : Kind α :=
  ⟨fields.reader.map make, none, true⟩

def ofValue (value : α) : Kind α :=
  ⟨Reader.null.map fun _ => value, some value, true⟩

def readKept (kind : Kind α) (kept : List Lexeme) : Except ReadError α :=
  if kind.keepable then (kind.details kept).map (·.1) else .error .malformed

end Kind

/-! ## Keeping details -/

/-- How many brackets may be open at once in details that are kept. -/
def maxKeptNesting : Nat := 126

/-- How many brackets are open at once at most in some lexemes, if some are open before. -/
def nesting : Nat → List Lexeme → Nat
  | level, [] => level
  | level, .token .openArray :: rest => nesting (level + 1) rest
  | level, .token .openObject :: rest => nesting (level + 1) rest
  | level, .token .closeArray :: rest => max level (nesting (level - 1) rest)
  | level, .token .closeObject :: rest => max level (nesting (level - 1) rest)
  | level, _ :: rest => nesting level rest

def Lexeme.isKeepable : Lexeme → Bool
  | token (.integer value) => (Magnitude.ofDigits (Text.ofNat value.natAbs) [] 0).isFinite
  | token _ => true
  | real magnitude => magnitude.isFinite
  | half => false
  | malformed => false

/-- Whether the lexemes of a value can be kept. -/
def isKeepable (lexemes : List Lexeme) : Bool :=
  lexemes.all Lexeme.isKeepable && nesting 0 lexemes ≤ maxKeptNesting

/-- What has been read of a tagged record. -/
structure TaggedState (α : Type) where
  kind : Option (Kind α)
  kept : Option (List Lexeme)
  value : Option α

namespace TaggedState

variable {α : Type}

def start : TaggedState α :=
  ⟨none, none, none⟩

/-- Reads the kind, and then the details if they were kept. -/
def readKind (kinds : List (String × Kind α)) (state : TaggedState α) : Reader (TaggedState α) :=
  if state.kind.isSome then
    Reader.fail
  else
    (Reader.oneOf kinds).check fun kind =>
      match state.kept with
      | none => .ok { state with kind := some kind }
      | some kept =>
        (kind.readKept kept).map fun value => { state with kind := some kind, value := some value }

/-- Keeps the lexemes of a value of any shape, if they can be kept. -/
def keep (state : TaggedState α) : Reader (TaggedState α) :=
  fun lexemes =>
    match Reader.skipRest .value [] lexemes with
    | .error error => .error error
    | .ok rest =>
      let kept := lexemes.take (lexemes.length - rest.length)
      if isKeepable kept then
        .ok ({ state with kept := some kept }, rest)
      else
        .error .malformed

/-- Reads the details of a known kind, or keeps them. -/
def readDetails (state : TaggedState α) : Reader (TaggedState α) :=
  if state.kept.isSome || state.value.isSome then
    Reader.fail
  else
    match state.kind with
    | some kind => kind.details.map fun value => { state with value := some value }
    | none => state.keep

def step (kinds : List (String × Kind α)) (key : String) (state : TaggedState α) :
    Reader (TaggedState α) :=
  if key = kindKey then state.readKind kinds
  else if key = detailsKey then state.readDetails
  else Reader.skip state

/-- The value read, or that of a kind without a record. -/
def finish (state : TaggedState α) : Option α :=
  match state.value with
  | some value => some value
  | none => state.kind.bind Kind.bare

end TaggedState

/-- Reads a value of one of several kinds. -/
def Reader.tagged {α : Type} (kinds : List (String × Kind α)) : Reader α :=
  (Reader.object (TaggedState.step kinds) TaggedState.start).filterMap TaggedState.finish

end TimeShare.Json
