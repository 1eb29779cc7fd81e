import TimeShare.Json.Lexeme

/-!
# Readers

A reader takes a typed value from the front of a list of lexemes. It stops at the
first fault in the order of the text, which is either that the text is not what
the type asks for, or that the type refuses a well-formed value for a reason of
its own.

Objects are read member by member into a state. A key that is met chooses how its
value is read; `skip` passes over a value of any shape, and `once` refuses a second
value for the same key.
-/

namespace TimeShare.Json

/-- Why a value could not be read. -/
inductive ReadError
  /-- The text is not JSON, or not of the shape that the type asks for. -/
  | malformed
  /-- The type refuses a well-formed value, for the given reason. -/
  | refused (reason : String)
  deriving DecidableEq, Repr

/-- Takes a value from the front of some lexemes and leaves the others. -/
abbrev Reader (α : Type) := List Lexeme → Except ReadError (α × List Lexeme)

namespace Reader

variable {α β σ : Type}

def fail : Reader α :=
  fun _ => .error .malformed

def map (f : α → β) (read : Reader α) : Reader β :=
  fun lexemes => (read lexemes).map fun (value, rest) => (f value, rest)

/-- Passes the value that a reader takes through a check. -/
def check (f : α → Except ReadError β) (read : Reader α) : Reader β :=
  fun lexemes =>
    match read lexemes with
    | .error error => .error error
    | .ok (value, rest) => (f value).map fun value => (value, rest)

/-- Keeps the values that a partial function takes. -/
def filterMap (f : α → Option β) (read : Reader α) : Reader β :=
  read.check fun value =>
    match f value with
    | some value => .ok value
    | none => .error .malformed

/-! ## Values without members -/

def integer : Reader Int
  | .token (.integer value) :: rest => .ok (value, rest)
  | _ => .error .malformed

def integerIn (low high : Int) : Reader Int :=
  integer.filterMap fun value => if low ≤ value ∧ value ≤ high then some value else none

/-- Reads a natural number of at most so many bits. -/
def word (bits : Nat) : Reader Nat :=
  (integerIn 0 (Int.ofNat (1 <<< bits) - 1)).map Int.toNat

/-- Reads a signed integer of so many bits. -/
def signedWord (bits : Nat) : Reader Int :=
  let bound := Int.ofNat (1 <<< (bits - 1))
  integerIn (-bound) (bound - 1)

def bool : Reader Bool
  | .token (.bool value) :: rest => .ok (value, rest)
  | _ => .error .malformed

def string : Reader String
  | .token (.string text) :: rest => .ok (text, rest)
  | _ => .error .malformed

/-- Reads a name: a string, or an object with the string as its only key and null as the value. -/
def name : Reader String
  | .token (.string text) :: rest => .ok (text, rest)
  | .token .openObject :: .token (.string text) :: .token .colon :: .token .null ::
      .token .closeObject :: rest => .ok (text, rest)
  | _ => .error .malformed

def oneOf (names : List (String × α)) : Reader α :=
  name.filterMap fun text => (names.find? fun (name, _) => name = text).map (·.2)

def null : Reader Unit
  | .token .null :: rest => .ok ((), rest)
  | _ => .error .malformed

/-- Reads a null as nothing and anything else as a value. -/
def optional (read : Reader α) : Reader (Option α)
  | .token .null :: rest => .ok (none, rest)
  | lexemes => read.map some lexemes

/-! ## Arrays -/

/-- Reads the elements of an array that is not empty, up to the closing bracket; `fuel` bounds
their number. -/
def elements (read : Reader α) : Nat → Reader (List α)
  | 0 => fail
  | fuel + 1 => fun lexemes =>
    match read lexemes with
    | .error error => .error error
    | .ok (value, .token .closeArray :: rest) => .ok ([value], rest)
    | .ok (value, .token .comma :: rest) => (elements read fuel).map (value :: ·) rest
    | .ok _ => .error .malformed

/-- Reads an array. Each element takes a lexeme at least, so the lexemes bound their number. -/
def array (read : Reader α) : Reader (List α)
  | .token .openArray :: .token .closeArray :: rest => .ok ([], rest)
  | .token .openArray :: rest => elements read rest.length rest
  | _ => .error .malformed

/-- Reads an array of exactly so many elements. -/
def vector (size : Nat) (read : Reader α) : Reader (Vector α size) :=
  (array read).filterMap fun values =>
    if h : values.toArray.size = size then some ⟨values.toArray, h⟩ else none

/-! ## Objects -/

/-- Reads the members of an object that is not empty, up to the closing brace. `step` reads the
value of a key into the state; `fuel` bounds the number of members. -/
def members (step : String → σ → Reader σ) : Nat → σ → Reader σ
  | 0, _, _ => .error .malformed
  | fuel + 1, state, .token (.string key) :: .token .colon :: lexemes =>
    match step key state lexemes with
    | .error error => .error error
    | .ok (state, .token .closeObject :: rest) => .ok (state, rest)
    | .ok (state, .token .comma :: rest) => members step fuel state rest
    | .ok _ => .error .malformed
  | _, _, _ => .error .malformed

/-- Reads an object into a state. Each member takes a lexeme at least, so the lexemes bound their
number. -/
def object (step : String → σ → Reader σ) (start : σ) : Reader σ
  | .token .openObject :: .token .closeObject :: rest => .ok (start, rest)
  | .token .openObject :: rest => members step rest.length start rest
  | _ => .error .malformed

/-- Reads a value for a key that has none yet. -/
def once (present : Option β) (put : α → σ) (read : Reader α) : Reader σ :=
  if present.isSome then fail else read.map put

/-! ## Values that are passed over -/

/-- What may come next while a value is passed over. -/
inductive Expected
  | value
  | valueOrClose
  | key
  | keyOrClose
  | colon
  /-- The value just passed over is complete. -/
  | separator
  deriving DecidableEq, Repr

inductive Bracket
  | array
  | object
  deriving DecidableEq, Repr

/-- Passes over the rest of a value inside some open brackets, the innermost first. Numbers that
are no integers and halves of characters may stand in it. -/
def skipRest : Expected → List Bracket → List Lexeme → Except ReadError (List Lexeme)
  | .separator, [], lexemes => .ok lexemes
  | _, _, [] => .error .malformed
  | expected, outer, lexeme :: rest =>
    match expected, outer, lexeme with
    | .value, outer, .token .openObject => skipRest .keyOrClose (.object :: outer) rest
    | .valueOrClose, outer, .token .openObject => skipRest .keyOrClose (.object :: outer) rest
    | .value, outer, .token .openArray => skipRest .valueOrClose (.array :: outer) rest
    | .valueOrClose, outer, .token .openArray => skipRest .valueOrClose (.array :: outer) rest
    | .valueOrClose, .array :: outer, .token .closeArray => skipRest .separator outer rest
    | .keyOrClose, .object :: outer, .token .closeObject => skipRest .separator outer rest
    | .key, outer, .token (.string _) => skipRest .colon outer rest
    | .key, outer, .half => skipRest .colon outer rest
    | .keyOrClose, outer, .token (.string _) => skipRest .colon outer rest
    | .keyOrClose, outer, .half => skipRest .colon outer rest
    | .colon, outer, .token .colon => skipRest .value outer rest
    | .separator, .array :: outer, .token .comma => skipRest .value (.array :: outer) rest
    | .separator, .object :: outer, .token .comma => skipRest .key (.object :: outer) rest
    | .separator, .array :: outer, .token .closeArray => skipRest .separator outer rest
    | .separator, .object :: outer, .token .closeObject => skipRest .separator outer rest
    | expected, outer, lexeme =>
      if (expected = .value || expected = .valueOrClose) && isScalar lexeme then
        skipRest .separator outer rest
      else
        .error .malformed
where
  /-- Whether a lexeme is a value by itself. -/
  isScalar : Lexeme → Bool
    | .token .null => true
    | .token (.bool _) => true
    | .token (.integer _) => true
    | .token (.string _) => true
    | .real _ => true
    | .half => true
    | _ => false

/-- Passes over a value of any shape. -/
def skip (state : σ) : Reader σ :=
  fun lexemes => (skipRest .value [] lexemes).map fun rest => (state, rest)

def readText (read : Reader α) (text : String) : Except ReadError α :=
  match read (scan text.toList) with
  | .error error => .error error
  | .ok (value, []) => .ok value
  | .ok _ => .error .malformed

end Reader

end TimeShare.Json
