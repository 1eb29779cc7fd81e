import Mathlib.Data.List.Induction
import TimeShare.Text.Decimal

/-!
# The numbers that digits write

`Digits` says of one or more digits which number they write in base ten, `Numeral`
does the same where a sign may stand in front, and `UnsignedNumeral` where only a plus
sign may. The readers `digits?`, `signed?` and `unsigned?` accept these texts with these
numbers and nothing else, and the writers `ofNat` and `ofInt` stay within them.
-/

namespace TimeShare.Text

variable {text : List Char} {n : Nat} {i : Int} {c : Char}

/-- One or more digits and the number that they write in base ten. -/
inductive Digits : List Char → Nat → Prop
  | single {d : Nat} : d < 10 → Digits [Nat.digitChar d] d
  | append {text : List Char} {n d : Nat} : Digits text n → d < 10 →
    Digits (text ++ [Nat.digitChar d]) (10 * n + d)

/-- One or more digits after an optional sign and the integer that they write. -/
inductive Numeral : List Char → Int → Prop
  | plain {digits : List Char} {n : Nat} : Digits digits n → Numeral digits n
  | plus {digits : List Char} {n : Nat} : Digits digits n → Numeral ('+' :: digits) n
  | minus {digits : List Char} {n : Nat} : Digits digits n → Numeral ('-' :: digits) (-n)

/-- One or more digits after an optional plus sign and the number that they write. -/
inductive UnsignedNumeral : List Char → Nat → Prop
  | plain {digits : List Char} {n : Nat} : Digits digits n → UnsignedNumeral digits n
  | plus {digits : List Char} {n : Nat} : Digits digits n → UnsignedNumeral ('+' :: digits) n

/-! ## Digits -/

theorem exists_digitChar (digit : c.isDigit = true) : ∃ d < 10, c = Nat.digitChar d := by
  obtain ⟨low, high⟩ := Char.isDigit_iff_toNat.1 digit
  have below : c.toNat - 48 < 10 := by
    change c.toNat ≤ 57 at high
    omega
  refine ⟨c.toNat - 48, below, Char.toNat_inj.1 ?_⟩
  rw [Nat.toNat_digitChar_of_lt_ten below]
  exact (Nat.add_sub_of_le low).symm

theorem Digits.ne_nil (digits : Digits text n) : text ≠ [] := by
  cases digits with
  | single _ => exact List.cons_ne_nil _ _
  | append _ _ => exact List.append_ne_nil_of_right_ne_nil _ (List.cons_ne_nil _ _)

theorem Digits.isDigit (digits : Digits text n) : ∀ c ∈ text, c.isDigit = true := by
  induction digits with
  | @single d below =>
    rw [List.forall_mem_singleton, Nat.isDigit_digitChar]
    exact decide_eq_true below
  | @append text n d _ below ih =>
    rw [List.forall_mem_append, List.forall_mem_singleton, Nat.isDigit_digitChar]
    exact ⟨ih, decide_eq_true below⟩

theorem Digits.value (digits : Digits text n) : Nat.ofDigitChars 10 text 0 = n := by
  induction digits with
  | single below => rw [Nat.ofDigitChars_cons_digitChar_of_lt_ten below, Nat.ofDigitChars_nil,
      Nat.mul_zero, Nat.zero_add]
  | append _ below ih => rw [Nat.ofDigitChars_append, ih,
      Nat.ofDigitChars_cons_digitChar_of_lt_ten below, Nat.ofDigitChars_nil]

theorem digits_of_isDigit (nonempty : text ≠ []) (digits : ∀ c ∈ text, c.isDigit = true) :
    Digits text (Nat.ofDigitChars 10 text 0) := by
  induction text using List.reverseRecOn with
  | nil => exact absurd rfl nonempty
  | append_singleton text c ih =>
    rw [List.forall_mem_append, List.forall_mem_singleton] at digits
    obtain ⟨d, below, rfl⟩ := exists_digitChar digits.2
    rw [Nat.ofDigitChars_append, Nat.ofDigitChars_cons_digitChar_of_lt_ten below,
      Nat.ofDigitChars_nil]
    cases text with
    | nil =>
      rw [Nat.ofDigitChars_nil, Nat.mul_zero, Nat.zero_add]
      exact .single below
    | cons first text => exact .append (ih (List.cons_ne_nil _ _) digits.1) below

theorem digits?_eq_some_iff : digits? text = some n ↔ Digits text n := by
  constructor
  · intro read
    obtain ⟨⟨nonempty, digits⟩, value⟩ := Option.ite_none_right_eq_some.1 read
    obtain rfl := Option.some.inj value
    exact digits_of_isDigit nonempty (List.all_eq_true.1 digits)
  · intro digits
    rw [digits?, if_pos ⟨digits.ne_nil, List.all_eq_true.2 digits.isDigit⟩, digits.value]

theorem digits_ofNat (n : Nat) : Digits (ofNat n) n :=
  digits?_eq_some_iff.1 (digits?_ofNat n)

/-! ## Signs -/

/-- Digits are not mistaken for a sign. -/
theorem signed?_of_digits (digits : Digits text n) : signed? text = some (n : Int) := by
  have read : (digits? text).map Int.ofNat = some (n : Int) := by
    rw [digits?_eq_some_iff.2 digits]
    rfl
  unfold signed?
  split
  · exact absurd (digits.isDigit '-' List.mem_cons_self) (by decide)
  · exact absurd (digits.isDigit '+' List.mem_cons_self) (by decide)
  · exact read

theorem numeral_of_signed? (read : signed? text = some i) : Numeral text i := by
  unfold signed? at read
  split at read
  · obtain ⟨_, absolute, rfl⟩ := Option.map_eq_some_iff.1 read
    obtain ⟨n, digits, same⟩ := Option.bind_eq_some_iff.1 absolute
    obtain rfl := Option.some.inj same
    exact .minus (digits?_eq_some_iff.1 digits)
  · obtain ⟨n, digits, rfl⟩ := Option.map_eq_some_iff.1 read
    exact .plus (digits?_eq_some_iff.1 digits)
  · obtain ⟨n, digits, rfl⟩ := Option.map_eq_some_iff.1 read
    exact .plain (digits?_eq_some_iff.1 digits)

theorem signed?_eq_some_iff : signed? text = some i ↔ Numeral text i := by
  refine ⟨numeral_of_signed?, fun numeral => ?_⟩
  cases numeral with
  | plain digits => exact signed?_of_digits digits
  | plus digits => rw [signed?, digits?_eq_some_iff.2 digits]; rfl
  | minus digits => rw [signed?, digits?_eq_some_iff.2 digits]; rfl

theorem unsigned?_of_digits (digits : Digits text n) : unsigned? text = some n := by
  unfold unsigned?
  split
  · exact absurd (digits.isDigit '+' List.mem_cons_self) (by decide)
  · exact digits?_eq_some_iff.2 digits

theorem unsigned?_eq_some_iff : unsigned? text = some n ↔ UnsignedNumeral text n := by
  constructor
  · intro read
    unfold unsigned? at read
    split at read
    · exact .plus (digits?_eq_some_iff.1 read)
    · exact .plain (digits?_eq_some_iff.1 read)
  · intro numeral
    cases numeral with
    | plain digits => exact unsigned?_of_digits digits
    | plus digits => rw [unsigned?, digits?_eq_some_iff.2 digits]

/-- An integer is written as one of its numerals. -/
theorem numeral_ofInt (i : Int) : Numeral (ofInt i) i := by
  cases i with
  | ofNat n => exact .plain (digits_ofNat n)
  | negSucc n => exact .minus (digits_ofNat (n + 1))

theorem Numeral.ne_nil (numeral : Numeral text i) : text ≠ [] := by
  cases numeral with
  | plain digits => exact digits.ne_nil
  | plus _ => exact List.cons_ne_nil _ _
  | minus _ => exact List.cons_ne_nil _ _

theorem Numeral.isDigit_or_sign (numeral : Numeral text i) :
    ∀ c ∈ text, c.isDigit = true ∨ c = '+' ∨ c = '-' := by
  cases numeral with
  | plain digits => exact fun c mem => .inl (digits.isDigit c mem)
  | plus digits =>
    exact List.forall_mem_cons.2 ⟨.inr (.inl rfl), fun c mem => .inl (digits.isDigit c mem)⟩
  | minus digits =>
    exact List.forall_mem_cons.2 ⟨.inr (.inr rfl), fun c mem => .inl (digits.isDigit c mem)⟩

end TimeShare.Text
