/-!
# Decimal integers

Reading and writing integers in base ten with the ten ASCII digits. Digits are
read without a bound; a caller that needs a range checks it. A sign is allowed
where the reader says so, and nothing else may surround the digits.
-/

namespace TimeShare.Text

/-- The number written by one or more digits. -/
def digits? (text : List Char) : Option Nat :=
  if text ≠ [] ∧ text.all Char.isDigit = true then some (Nat.ofDigitChars 10 text 0) else none

/-- The number written by one or more digits after an optional plus sign. -/
def unsigned? : List Char → Option Nat
  | '+' :: rest => digits? rest
  | text => digits? text

/-- The integer written by one or more digits after an optional sign. -/
def signed? : List Char → Option Int
  | '-' :: rest => (digits? rest).map fun n => -(n : Int)
  | '+' :: rest => (digits? rest).map Int.ofNat
  | text => (digits? text).map Int.ofNat

/-- The digits of a natural number, without leading zeros. -/
def ofNat (n : Nat) : List Char :=
  Nat.toDigits 10 n

/-- The digits of an integer, after a minus sign if it is negative. -/
def ofInt : Int → List Char
  | .ofNat n => ofNat n
  | .negSucc n => '-' :: ofNat (n + 1)

/-- Reading undoes writing a natural number. -/
@[simp] theorem digits?_ofNat (n : Nat) : digits? (ofNat n) = some n := by
  have digits : (ofNat n).all Char.isDigit = true := by
    rw [List.all_eq_true]
    intro c mem
    exact Nat.isDigit_of_mem_toDigits (by decide) (by decide) mem
  have nonempty : ofNat n ≠ [] := Nat.toDigits_ne_nil
  rw [digits?, if_pos ⟨nonempty, digits⟩, ofNat, Nat.ofDigitChars_ten_toDigits]

end TimeShare.Text
