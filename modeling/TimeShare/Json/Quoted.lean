/-!
# Quoted strings

How a string stands in a JSON text. Quotes, backslashes and the characters below
the blank are escaped, six of them by a letter and the others by four hexadecimal
digits; every other character stands for itself.

Reading accepts every escape of the format. An escape by digits gives one half of
a character beyond the first 65536, so reading goes through pieces: characters
and 16-bit units. `joinPieces` puts halves together and refuses a half without its
other half.
-/

namespace TimeShare.Json

def escapeLetter? (c : Char) : Option Char :=
  if c = '"' then some '"'
  else if c = '\\' then some '\\'
  else if c = '\x08' then some 'b'
  else if c = '\x0c' then some 'f'
  else if c = '\n' then some 'n'
  else if c = '\r' then some 'r'
  else if c = '\t' then some 't'
  else none

/-- The least character that needs no escape. -/
def firstPlain : Nat := 0x20

/-- A character as it stands in a quoted string. -/
def escape (c : Char) : List Char :=
  match escapeLetter? c with
  | some letter => ['\\', letter]
  | none =>
    if c.toNat < firstPlain then
      ['\\', 'u', '0', '0', (c.toNat / 16).digitChar, (c.toNat % 16).digitChar]
    else
      [c]

def quote (text : List Char) : List Char :=
  '"' :: text.flatMap escape ++ ['"']

/-! ## Reading -/

inductive Piece
  /-- A character, plain or escaped by a letter. -/
  | char (c : Char)
  /-- A 16-bit unit, escaped by four digits. -/
  | unit (code : Nat)
  deriving DecidableEq, Repr

/-- The character that a letter after a backslash stands for. -/
def unescapeLetter? (letter : Char) : Option Char :=
  if letter = '"' then some '"'
  else if letter = '\\' then some '\\'
  else if letter = '/' then some '/'
  else if letter = 'b' then some '\x08'
  else if letter = 'f' then some '\x0c'
  else if letter = 'n' then some '\n'
  else if letter = 'r' then some '\r'
  else if letter = 't' then some '\t'
  else none

/-- The value of a hexadecimal digit in either case. -/
def hexDigit? (c : Char) : Option Nat :=
  if c.isDigit then some (c.toNat - '0'.toNat)
  else if 'a' ≤ c ∧ c ≤ 'f' then some (c.toNat - 'a'.toNat + 10)
  else if 'A' ≤ c ∧ c ≤ 'F' then some (c.toNat - 'A'.toNat + 10)
  else none

def hexUnit? (a b c d : Char) : Option Nat := do
  let a ← hexDigit? a
  let b ← hexDigit? b
  let c ← hexDigit? c
  let d ← hexDigit? d
  return ((a * 16 + b) * 16 + c) * 16 + d

/-- The pieces up to the closing quote and the text after it; nothing if the string is not closed
or holds a bare control character or an unknown escape. -/
def scanPieces : List Char → Option (List Piece × List Char)
  | [] => none
  | c :: rest =>
    if c = '"' then
      some ([], rest)
    else if c = '\\' then
      match rest with
      | 'u' :: a :: b :: c :: d :: rest =>
        match hexUnit? a b c d with
        | some code => (scanPieces rest).map fun (pieces, rest) => (.unit code :: pieces, rest)
        | none => none
      | letter :: rest =>
        match unescapeLetter? letter with
        | some c => (scanPieces rest).map fun (pieces, rest) => (.char c :: pieces, rest)
        | none => none
      | [] => none
    else if c.toNat < firstPlain then
      none
    else
      (scanPieces rest).map fun (pieces, rest) => (.char c :: pieces, rest)

/-- Whether a unit is the first half of a character. -/
def isLeading (code : Nat) : Bool :=
  0xD800 ≤ code && code ≤ 0xDBFF

/-- Whether a unit is the second half of a character. -/
def isTrailing (code : Nat) : Bool :=
  0xDC00 ≤ code && code ≤ 0xDFFF

/-- The character made of two halves. -/
def joinHalves (leading trailing : Nat) : Char :=
  Char.ofNat (0x10000 + (leading - 0xD800) * 0x400 + (trailing - 0xDC00))

/-- The characters of some pieces, if every half stands beside its other half. -/
def joinPieces : List Piece → Option (List Char)
  | [] => some []
  | .char c :: rest => (joinPieces rest).map (c :: ·)
  | .unit leading :: .unit trailing :: rest =>
    if isLeading leading then
      if isTrailing trailing then
        (joinPieces rest).map (joinHalves leading trailing :: ·)
      else
        none
    else if isTrailing leading then
      none
    else
      (joinPieces (.unit trailing :: rest)).map (Char.ofNat leading :: ·)
  | .unit code :: rest =>
    if isLeading code || isTrailing code then
      none
    else
      (joinPieces rest).map (Char.ofNat code :: ·)

/-- What is left after a quoted string is shorter than the text. -/
theorem length_scanPieces {text rest : List Char} {pieces : List Piece}
    (h : scanPieces text = some (pieces, rest)) : rest.length < text.length := by
  fun_induction scanPieces text generalizing pieces rest with
  | case1 => cases h
  | case2 =>
    obtain ⟨_, rfl⟩ := Prod.mk.inj (Option.some.inj h)
    simp
  | case3 a b c d tail code _ _ ih =>
    obtain ⟨⟨inner, left⟩, scanned, pair⟩ := Option.map_eq_some_iff.1 h
    obtain ⟨_, rfl⟩ := Prod.mk.inj pair
    have shorter := ih scanned
    simp only [List.length_cons]
    omega
  | case4 => cases h
  | case5 letter tail _ c _ _ ih =>
    obtain ⟨⟨inner, left⟩, scanned, pair⟩ := Option.map_eq_some_iff.1 h
    obtain ⟨_, rfl⟩ := Prod.mk.inj pair
    have shorter := ih scanned
    simp only [List.length_cons]
    omega
  | case6 => cases h
  | case7 => cases h
  | case8 => cases h
  | case9 c tail _ _ _ ih =>
    obtain ⟨⟨inner, left⟩, scanned, pair⟩ := Option.map_eq_some_iff.1 h
    obtain ⟨_, rfl⟩ := Prod.mk.inj pair
    have shorter := ih scanned
    simp only [List.length_cons]
    omega

end TimeShare.Json
