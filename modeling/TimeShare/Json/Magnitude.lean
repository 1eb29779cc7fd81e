/-!
# Magnitudes

How large a number of any size is taken to be where a floating-point number of 64
bits has to hold it. The digits count as long as they fit into a word of 64 bits.
Digits of the integer part after that only raise the power of ten, and digits of
the fraction after that are dropped. What is left is a word times a power of ten;
both are rounded to 53 binary digits, and so is their product.

`Magnitude.isFinite` says whether that product is in the range of such a number.
-/

namespace TimeShare.Json

/-- The nearest number with at most so many binary digits; a tie goes to the even neighbour. -/
def roundBits (bits n : Nat) : Nat :=
  let unit := 1 <<< (n.log2 + 1 - bits)
  let below := n / unit
  let excess := 2 * (n % unit)
  if unit < excess ∨ (unit = excess ∧ below % 2 = 1) then (below + 1) * unit else below * unit

/-- A number that has few binary digits already is left as it is. -/
theorem roundBits_of_lt {bits n : Nat} (few : n < 1 <<< bits) (positive : n ≠ 0) :
    roundBits bits n = n := by
  have digits : n.log2 + 1 - bits = 0 := by
    rw [Nat.one_shiftLeft] at few
    have short := (Nat.log2_lt positive).2 few
    omega
  simp [roundBits, digits, Nat.mod_one]

/-- Appends digits to a significand as long as it fits into a word, and gives the others. -/
def appendDigits (significand : Nat) : List Char → Nat × List Char
  | [] => (significand, [])
  | digit :: rest =>
    let longer := significand * 10 + (digit.toNat - '0'.toNat)
    if longer < UInt64.size then appendDigits longer rest else (significand, digit :: rest)

/-- The size of a number: a significand of 64 bits times a power of ten. -/
structure Magnitude where
  significand : Nat
  exponent : Int
  deriving DecidableEq, Repr

namespace Magnitude

/-- The magnitude of a number from the digits of its integer part and of its fraction and from its
exponent. -/
def ofDigits (whole fraction : List Char) (exponent : Int) : Magnitude :=
  let (significand, uncounted) := appendDigits 0 whole
  let (significand, dropped) := appendDigits significand fraction
  ⟨significand, exponent + uncounted.length + dropped.length - fraction.length⟩

/-- The number of binary digits of a floating-point number of 64 bits. -/
def precision : Nat := 53

/-- The least power of two that a floating-point number of 64 bits does not reach. -/
def overflowExponent : Nat := 1024

/-- The largest power of ten that a floating-point number of 64 bits reaches. -/
def maxTenExponent : Nat := 308

/-- Whether a floating-point number of 64 bits can hold a magnitude. -/
def isFinite (m : Magnitude) : Bool :=
  if m.significand = 0 then true
  else
    match m.exponent with
    | .negSucc _ => true
    | .ofNat exponent =>
      if maxTenExponent < exponent then false
      else
        let product := roundBits precision m.significand * roundBits precision (Nat.pow 10 exponent)
        roundBits precision product < 1 <<< overflowExponent

end Magnitude

end TimeShare.Json
