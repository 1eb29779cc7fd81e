import Mathlib.Data.List.Chain
import TimeShare.Json.Lexeme
import TimeShare.Proofs.Json.Quoted
import TimeShare.Proofs.Text.Decimal

/-!
# Written tokens are scanned again

Tokens are written without anything between them, and `scan_compactChars` says
that they are scanned again one by one. The only tokens that might run into each
other are two integers; in a written object commas and colons stand between
values, so there are none side by side (`Separate`). No token is written with a
character below the blank.
-/

namespace TimeShare.Json

open Text

variable {text rest digits : List Char} {token : Token} {first second : List Token}

/-! ## Numbers -/

/-- No number is read on into a text. -/
def EndsNumber (text : List Char) : Prop :=
  ∀ c ∈ text.head?, c.isDigit = false ∧ c ≠ '.' ∧ c ≠ 'e' ∧ c ≠ 'E'

theorem endsNumber_nil : EndsNumber [] :=
  fun _ head => absurd head (Option.not_mem_none _)

theorem spanDigits_append (isDigit : ∀ c ∈ digits, c.isDigit = true) (ends : EndsNumber rest) :
    spanDigits (digits ++ rest) = (digits, rest) := by
  have stops : rest.takeWhile Char.isDigit = [] ∧ rest.dropWhile Char.isDigit = rest := by
    cases rest with
    | nil => exact ⟨rfl, rfl⟩
    | cons c rest =>
      have other : ¬ c.isDigit = true := Bool.eq_false_iff.1 (ends c rfl).1
      exact ⟨List.takeWhile_cons_of_neg other, List.dropWhile_cons_of_neg other⟩
  rw [spanDigits, List.takeWhile_append_of_pos isDigit, List.dropWhile_append_of_pos isDigit,
    stops.1, stops.2, List.append_nil]

theorem scanFraction_of_ends (ends : EndsNumber rest) : scanFraction rest = some (none, rest) := by
  unfold scanFraction
  split
  · exact absurd rfl (ends '.' rfl).2.1
  · rfl

theorem scanExponent_of_ends (ends : EndsNumber rest) : scanExponent rest = some (none, rest) := by
  cases rest with
  | nil => rfl
  | cons c rest =>
    obtain ⟨_, _, lower, upper⟩ := ends c rfl
    rw [scanExponent, if_neg (by simp [lower, upper])]

/-- No zero stands in front of the digits of a number. -/
theorem first_ofNat {n : Nat} (positive : 0 < n) : ∀ c ∈ (ofNat n).head?, c ≠ '0' := by
  induction n using Nat.strong_induction_on with
  | h n ih =>
    intro c first
    rw [ofNat, Nat.toDigits_eq_if (by decide)] at first
    split at first
    · rename_i below
      obtain rfl := Option.some.inj first
      exact (by decide : ∀ d < 10, 0 < d → Nat.digitChar d ≠ '0') n below positive
    · rename_i above
      rw [List.head?_append_of_ne_nil _ Nat.toDigits_ne_nil] at first
      exact ih (n / 10) (by omega) (by omega) c first

theorem isIntegerPart_ofNat (n : Nat) : isIntegerPart (ofNat n) = true := by
  rcases Nat.eq_zero_or_pos n with rfl | positive
  · rfl
  · have first := first_ofNat positive
    cases written : ofNat n with
    | nil => exact absurd written Nat.toDigits_ne_nil
    | cons c others =>
      rw [written] at first
      cases others with
      | nil => rfl
      | cons _ _ => exact decide_eq_true (first c rfl)

/-- A written number is scanned up to its last digit, as zero only if it has no sign. -/
theorem scanNumber_ofNat {negative : Bool} {n : Nat} (sign : negative = true → n ≠ 0)
    (ends : EndsNumber rest) :
    scanNumber negative (ofNat n ++ rest) =
      some (.token (.integer (signed negative n)), rest) := by
  have zero : (negative && decide (n = 0)) = false := by
    cases negative with
    | false => rfl
    | true => exact decide_eq_false (sign rfl)
  rw [scanNumber, spanDigits_append (digits_ofNat n).isDigit ends]
  dsimp only
  rw [if_pos (isIntegerPart_ofNat n), scanFraction_of_ends ends]
  dsimp only
  rw [scanExponent_of_ends ends]
  dsimp only
  rw [(digits_ofNat n).value, zero]
  rfl

/-! ## Tokens -/

def Token.isInteger : Token → Bool
  | integer _ => true
  | _ => false

/-- A lexeme that begins with no blank is scanned, and then what follows it. -/
theorem scan_cons {c : Char} {lexeme : Lexeme} (visible : isSpace c = false)
    (scanned : scanFrom c text = some (lexeme, rest)) :
    scan (c :: text) = lexeme :: scan rest := by
  rw [scan, if_neg (by rw [visible]; exact Bool.false_ne_true)]
  split
  · rename_i found
    obtain ⟨rfl, rfl⟩ := Prod.mk.inj (Option.some.inj (found.symm.trans scanned))
    rfl
  · rename_i nothing
    cases nothing.symm.trans scanned

theorem scan_quote (text rest : List Char) :
    scan (quote text ++ rest) = .token (.string (String.ofList text)) :: scan rest := by
  have written : quote text ++ rest = '"' :: (text.flatMap escape ++ '"' :: rest) := by
    rw [quote, List.append_assoc, List.cons_append]
    rfl
  rw [written]
  refine scan_cons rfl ?_
  rw [scanFrom, if_pos rfl, scanString, scanPieces_quote, Option.map_some]
  dsimp only
  rw [joinPieces_map_piece]

theorem scan_ofInt (value : Int) (ends : EndsNumber rest) :
    scan (ofInt value ++ rest) = .token (.integer value) :: scan rest := by
  cases value with
  | ofNat n =>
    have unsigned : false = true → n ≠ 0 := nofun
    have scanned := scanNumber_ofNat unsigned ends
    cases written : ofNat n with
    | nil => exact absurd written Nat.toDigits_ne_nil
    | cons c others =>
      have digit : c.isDigit = true := by
        refine (digits_ofNat n).isDigit c ?_
        rw [written]
        exact List.mem_cons_self
      obtain ⟨d, below, rfl⟩ := exists_digitChar digit
      have visible : isSpace d.digitChar = false ∧ d.digitChar ≠ '"' ∧ d.digitChar ≠ '-' :=
        (by decide : ∀ d < 10, isSpace (Nat.digitChar d) = false ∧ Nat.digitChar d ≠ '"' ∧
          Nat.digitChar d ≠ '-') d below
      rw [ofInt, written]
      rw [written] at scanned
      refine scan_cons visible.1 ?_
      rw [scanFrom, if_neg visible.2.1, if_neg visible.2.2, if_pos digit]
      exact scanned
  | negSucc n => exact scan_cons rfl (scanNumber_ofNat (fun _ => Nat.succ_ne_zero n) ends)

/-- A written token is scanned, and then what follows it. -/
theorem scan_chars (ends : token.isInteger = true → EndsNumber rest) :
    scan (token.chars ++ rest) = .token token :: scan rest := by
  cases token with
  | integer value => exact scan_ofInt value (ends rfl)
  | string text =>
    rw [Token.chars, scan_quote, String.ofList_toList]
  | bool value => cases value <;> exact scan_cons rfl rfl
  | _ => exact scan_cons rfl rfl

/-- No number is read on into a token that is none. -/
theorem endsNumber_chars (other : token.isInteger = false) (rest : List Char) :
    EndsNumber (token.chars ++ rest) := by
  intro c first
  cases token with
  | integer value => cases other
  | bool value => cases value <;> obtain rfl := Option.some.inj first <;> decide
  | _ =>
    obtain rfl := Option.some.inj first
    decide

/-! ## Lists of tokens -/

/-- No two integers stand side by side. -/
def Separate (tokens : List Token) : Prop :=
  tokens.IsChain fun first second => first.isInteger = true → second.isInteger = false

/-- Written tokens are scanned again. -/
theorem scan_compactChars {tokens : List Token} (separate : Separate tokens) :
    scan (compactChars tokens) = tokens.map .token := by
  induction tokens with
  | nil => rw [compactChars, List.flatMap_nil, scan, List.map_nil]
  | cons token tokens ih =>
    rw [compactChars, List.flatMap_cons, scan_chars, ← compactChars, ih separate.tail,
      List.map_cons]
    intro integer
    cases tokens with
    | nil => exact endsNumber_nil
    | cons next tokens =>
      exact endsNumber_chars ((List.isChain_cons_cons.1 separate).1 integer) _

/-- A token that is no integer separates those before it from those behind it. -/
theorem Separate.join (before : Separate first) (behind : Separate second)
    (other : token.isInteger = false) : Separate (first ++ token :: second) := by
  refine List.isChain_append.2 ⟨before, behind.cons ?_, ?_⟩
  · intro _ _ integer
    cases other.symm.trans integer
  · intro _ _ next head _
    obtain rfl := Option.some.inj head
    exact other

theorem separate_nil : Separate [] := .nil

theorem separate_singleton (token : Token) : Separate [token] := .singleton token

theorem separate_separated {values : List (List Token)}
    (separate : ∀ value ∈ values, Separate value) : Separate (separated values) := by
  induction values with
  | nil => exact separate_nil
  | cons value values ih =>
    rw [List.forall_mem_cons] at separate
    cases values with
    | nil => exact separate.1
    | cons next rest => exact separate.1.join (ih separate.2) rfl

theorem separate_object {members : List (String × List Token)}
    (separate : ∀ member ∈ members, Separate member.2) : Separate (object members) := by
  have closing : Token.closeObject.isInteger = false := rfl
  refine separate_nil.join ((separate_separated ?_).join separate_nil closing) rfl
  rw [List.forall_mem_map]
  rintro ⟨key, value⟩ mem
  exact (separate_singleton (.string key)).join (separate (key, value) mem) rfl

/-! ## Characters below the blank -/

theorem firstPlain_le_of_mem_chars {c : Char} (mem : c ∈ token.chars) : firstPlain ≤ c.toNat := by
  have fixed : ∀ token ∈ fixedTokens, ∀ c ∈ token.chars, firstPlain ≤ c.toNat := by
    have all : (fixedTokens.all fun token => token.chars.all (firstPlain ≤ ·.toNat)) = true := rfl
    simpa only [List.all_eq_true, decide_eq_true_eq] using all
  cases token with
  | integer value =>
    rcases (numeral_ofInt value).isDigit_or_sign c mem with digit | rfl | rfl
    · have low := (Char.isDigit_iff_toNat.1 digit).1
      exact Nat.le_trans (by decide) low
    · decide
    · decide
  | string text => exact firstPlain_le_of_mem_quote mem
  | bool value => cases value <;> exact fixed _ (by decide) c mem
  | _ => exact fixed _ (by decide) c mem

theorem firstPlain_le_of_mem_compactChars {tokens : List Token} :
    ∀ c ∈ compactChars tokens, firstPlain ≤ c.toNat := by
  intro c mem
  obtain ⟨token, _, inside⟩ := List.mem_flatMap.1 mem
  exact firstPlain_le_of_mem_chars inside

end TimeShare.Json
