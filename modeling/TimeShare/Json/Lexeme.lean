import TimeShare.Json.Magnitude
import TimeShare.Json.Token

/-!
# Lexemes

`scan` cuts a text into lexemes. A lexeme is a token, or something that no typed
value can be read from: a number that is no integer literal, a string with half a
character, or the place where the text stops being JSON, after which nothing more
is scanned. Readers go through lexemes in order, so that a reader meets the faults
of a text in the order in which they stand.
-/

namespace TimeShare.Json

/-- What a scanner finds in a text. -/
inductive Lexeme
  | token (token : Token)
  /-- A well-formed number with a fraction or an exponent, or a negative zero. -/
  | real (magnitude : Magnitude)
  /-- A well-formed string with half a character. -/
  | half
  /-- The text is not JSON from here on. -/
  | malformed
  deriving DecidableEq, Repr

def isSpace (c : Char) : Bool :=
  c = ' ' || c = '\t' || c = '\n' || c = '\r'

/-- The digits at the front of a text, and what follows them. -/
def spanDigits (text : List Char) : List Char × List Char :=
  (text.takeWhile Char.isDigit, text.dropWhile Char.isDigit)

/-- The digits of the fraction at the front of a text, if there is one, and what follows; nothing
if it has no digits. -/
def scanFraction : List Char → Option (Option (List Char) × List Char)
  | '.' :: rest =>
    match spanDigits rest with
    | ([], _) => none
    | (digits, rest) => some (some digits, rest)
  | text => some (none, text)

/-- Whether the sign at the front of a text is a minus, and what follows. -/
def scanSign : List Char → Bool × List Char
  | '+' :: rest => (false, rest)
  | '-' :: rest => (true, rest)
  | text => (false, text)

def signed (negative : Bool) (size : Nat) : Int :=
  if negative then -(size : Int) else size

/-- The exponent at the front of a text, if there is one, and what follows; nothing if it has no
digits. -/
def scanExponent : List Char → Option (Option Int × List Char)
  | [] => some (none, [])
  | c :: rest =>
    if c = 'e' || c = 'E' then
      let (negative, rest) := scanSign rest
      match spanDigits rest with
      | ([], _) => none
      | (digits, rest) => some (some (signed negative (Nat.ofDigitChars 10 digits 0)), rest)
    else
      some (none, c :: rest)

/-- Whether digits may be the integer part of a number: there is one, and no zero stands before
others. -/
def isIntegerPart : List Char → Bool
  | [] => false
  | [_] => true
  | first :: _ => first ≠ '0'

/-- The lexeme of a number without its sign, and what follows. -/
def scanNumber (negative : Bool) (text : List Char) : Option (Lexeme × List Char) :=
  let (digits, rest) := spanDigits text
  if isIntegerPart digits then
    match scanFraction rest with
    | none => none
    | some (fraction, rest) =>
      match scanExponent rest with
      | none => none
      | some (exponent, rest) =>
        let size := Nat.ofDigitChars 10 digits 0
        if fraction.isSome || exponent.isSome || (negative && size = 0) then
          some (.real (.ofDigits digits (fraction.getD []) (exponent.getD 0)), rest)
        else
          some (.token (.integer (signed negative size)), rest)
  else
    none

/-- The lexeme of a string after its opening quote, and what follows. -/
def scanString (text : List Char) : Option (Lexeme × List Char) :=
  (scanPieces text).map fun (pieces, rest) =>
    match joinPieces pieces with
    | some characters => (.token (.string (String.ofList characters)), rest)
    | none => (.half, rest)

/-- The tokens that have one spelling only and no quotes. -/
def fixedTokens : List Token :=
  [.openObject, .closeObject, .openArray, .closeArray, .comma, .colon, .null, .bool true,
    .bool false]

/-- The lexeme of a token of fixed spelling, and what follows. -/
def scanFixed (text : List Char) : Option (Lexeme × List Char) :=
  (fixedTokens.find? fun token => token.chars.isPrefixOf text).map fun token =>
    (.token token, text.drop token.chars.length)

/-- The lexeme at the front of a text that begins with the given character, and what follows. -/
def scanFrom (c : Char) (rest : List Char) : Option (Lexeme × List Char) :=
  if c = '"' then scanString rest
  else if c = '-' then scanNumber true rest
  else if c.isDigit then scanNumber false (c :: rest)
  else scanFixed (c :: rest)

/-! ## What is left is shorter -/

theorem length_spanDigits (text : List Char) :
    (spanDigits text).1.length + (spanDigits text).2.length = text.length := by
  simp only [spanDigits, ← List.length_append, List.takeWhile_append_dropWhile]

theorem length_scanFraction {text rest : List Char} {fraction : Option (List Char)}
    (h : scanFraction text = some (fraction, rest)) : rest.length ≤ text.length := by
  unfold scanFraction at h
  split at h
  · rename_i tail
    have total := length_spanDigits tail
    split at h
    · cases h
    · rename_i digits left _ span
      rw [span] at total
      obtain ⟨_, rfl⟩ := Prod.mk.inj (Option.some.inj h)
      simp only [List.length_cons] at total ⊢
      omega
  · obtain ⟨_, rfl⟩ := Prod.mk.inj (Option.some.inj h)
    exact Nat.le_refl _

theorem length_scanSign (text : List Char) : (scanSign text).2.length ≤ text.length := by
  unfold scanSign
  split <;> simp

theorem length_scanExponent {text rest : List Char} {exponent : Option Int}
    (h : scanExponent text = some (exponent, rest)) : rest.length ≤ text.length := by
  unfold scanExponent at h
  split at h
  · obtain ⟨_, rfl⟩ := Prod.mk.inj (Option.some.inj h)
    exact Nat.le_refl _
  · rename_i c tail
    split at h
    · have total := length_spanDigits (scanSign tail).2
      have sign := length_scanSign tail
      simp only at h
      split at h
      · cases h
      · rename_i digits left _ span
        rw [span] at total
        obtain ⟨_, rfl⟩ := Prod.mk.inj (Option.some.inj h)
        simp only [List.length_cons] at total ⊢
        omega
    · obtain ⟨_, rfl⟩ := Prod.mk.inj (Option.some.inj h)
      exact Nat.le_refl _

theorem length_scanNumber {negative : Bool} {text rest : List Char} {lexeme : Lexeme}
    (h : scanNumber negative text = some (lexeme, rest)) : rest.length < text.length := by
  have total := length_spanDigits text
  simp only [scanNumber] at h
  split at h
  · rename_i integerPart
    have digit : 0 < (spanDigits text).1.length := by
      cases digits : (spanDigits text).1 with
      | nil =>
        rw [digits] at integerPart
        cases integerPart
      | cons first others => simp
    split at h
    · cases h
    · rename_i fraction afterFraction scanned
      have first := length_scanFraction scanned
      split at h
      · cases h
      · rename_i exponent afterExponent scanned
        have second := length_scanExponent scanned
        split at h <;> obtain ⟨_, rfl⟩ := Prod.mk.inj (Option.some.inj h) <;> omega
  · cases h

theorem length_scanString {text rest : List Char} {lexeme : Lexeme}
    (h : scanString text = some (lexeme, rest)) : rest.length < text.length := by
  obtain ⟨⟨pieces, left⟩, scanned, pair⟩ := Option.map_eq_some_iff.1 h
  have shorter := length_scanPieces scanned
  simp only at pair
  split at pair <;> obtain ⟨_, rfl⟩ := Prod.mk.inj pair <;> exact shorter

theorem chars_ne_nil_of_mem_fixedTokens {token : Token} (h : token ∈ fixedTokens) :
    token.chars ≠ [] := by
  simp only [fixedTokens, List.mem_cons, List.not_mem_nil, or_false] at h
  rcases h with rfl | rfl | rfl | rfl | rfl | rfl | rfl | rfl | rfl <;> simp [Token.chars]

theorem length_scanFixed {text rest : List Char} {lexeme : Lexeme}
    (h : scanFixed text = some (lexeme, rest)) : rest.length < text.length := by
  obtain ⟨token, found, pair⟩ := Option.map_eq_some_iff.1 h
  obtain ⟨_, rfl⟩ := Prod.mk.inj pair
  have spelled : token.chars.isPrefixOf text = true := by
    simpa using List.find?_some found
  have fits := (List.isPrefixOf_iff_prefix.1 spelled).length_le
  have longer := List.length_pos_iff.2
    (chars_ne_nil_of_mem_fixedTokens (List.mem_of_find?_eq_some found))
  rw [List.length_drop]
  omega

theorem length_scanFrom {c : Char} {text rest : List Char} {lexeme : Lexeme}
    (h : scanFrom c text = some (lexeme, rest)) : rest.length < (c :: text).length := by
  unfold scanFrom at h
  split at h
  · exact Nat.lt_succ_of_lt (length_scanString h)
  · split at h
    · exact Nat.lt_succ_of_lt (length_scanNumber h)
    · split at h
      · exact length_scanNumber h
      · exact length_scanFixed h

def scan (text : List Char) : List Lexeme :=
  match text with
  | [] => []
  | c :: rest =>
    if isSpace c then
      scan rest
    else
      match _scanned : scanFrom c rest with
      | some (lexeme, rest) => lexeme :: scan rest
      | none => [.malformed]
termination_by text.length
decreasing_by
  · simp
  · exact length_scanFrom (by assumption)

end TimeShare.Json
