import TimeShare.Text.Decimal

/-!
# Registers

A processor has eight general registers of 32 bits, written `R0` to `R7`.
`RegisterFile` holds their values; a fresh file holds zeros.
-/

namespace TimeShare

def registerCount : Nat := 8

/-- A general register, by its number. -/
abbrev Register := Fin registerCount

namespace Register

/-- The register with a number, if there is one. -/
def ofNat? (n : Nat) : Option Register :=
  if h : n < registerCount then some ⟨n, h⟩ else none

/-- A register is written with a capital R and its number. -/
def chars (r : Register) : List Char :=
  'R' :: Text.ofNat r.val

/-- The written form of a register as a string. -/
def text (r : Register) : String :=
  String.ofList r.chars

/-- A register is read from exactly two characters, R in either case and one digit. -/
def ofChars? : List Char → Option Register
  | [letter, digit] =>
    if (letter = 'R' ∨ letter = 'r') ∧ digit.isDigit = true then
      ofNat? (digit.toNat - '0'.toNat)
    else
      none
  | _ => none

end Register

abbrev RegisterFile := Vector Int32 registerCount

def RegisterFile.zero : RegisterFile :=
  Vector.replicate registerCount 0

end TimeShare
