import Mathlib.Tactic.SplitIfs
import TimeShare.Json.Quoted

/-!
# Quoted strings are read back

Whatever characters a string holds, its quoted form holds none below the blank, so
in particular no newline, and is scanned up to its closing quote and not further.
Every character is one piece of it: a 16-bit unit if it is escaped by digits, and
else itself. A unit that comes of a character below the blank is no half of a
character, so the pieces are joined to the string again.
-/

namespace TimeShare.Json

variable {c letter : Char} {text rest : List Char}

/-! ## Escapes -/

/-- A letter stands for the character that it escapes, and is none that digits follow. -/
theorem unescapeLetter?_of_escapeLetter? (escaped : escapeLetter? c = some letter) :
    unescapeLetter? letter = some c ∧ letter ≠ 'u' ∧ firstPlain ≤ letter.toNat := by
  unfold escapeLetter? at escaped
  split_ifs at escaped <;> obtain rfl := Option.some.inj escaped <;> subst_vars <;> decide

theorem escapeLetter?_eq_none (plain : escapeLetter? c = none) : c ≠ '"' ∧ c ≠ '\\' := by
  constructor
  · rintro rfl
    cases plain
  · rintro rfl
    cases plain

theorem hexDigit?_digitChar {d : Nat} (below : d < 16) : hexDigit? d.digitChar = some d :=
  (by decide : ∀ d < 16, hexDigit? (Nat.digitChar d) = some d) d below

/-- A character below the blank is escaped by the digits of its number. -/
theorem hexUnit?_digitChar {code : Nat} (low : code < firstPlain) :
    hexUnit? '0' '0' (code / 16).digitChar (code % 16).digitChar = some code := by
  have zero : hexDigit? '0' = some 0 := rfl
  rw [firstPlain] at low
  rw [hexUnit?, zero, hexDigit?_digitChar (show code / 16 < 16 by omega),
    hexDigit?_digitChar (show code % 16 < 16 by omega)]
  have value : ((0 * 16 + 0) * 16 + code / 16) * 16 + code % 16 = code := by omega
  exact congrArg some value

/-- No character of an escape is below the blank. -/
theorem firstPlain_le_of_mem_escape {d : Char} (mem : d ∈ escape c) : firstPlain ≤ d.toNat := by
  have digit : ∀ d < 16, firstPlain ≤ (Nat.digitChar d).toNat := by decide
  unfold escape at mem
  split at mem
  · rename_i letter escaped
    rw [List.mem_cons, List.mem_singleton] at mem
    rcases mem with rfl | rfl
    · decide
    · exact (unescapeLetter?_of_escapeLetter? escaped).2.2
  · split at mem
    · rename_i low
      rw [firstPlain] at low
      simp only [List.mem_cons, List.not_mem_nil, or_false] at mem
      rcases mem with rfl | rfl | rfl | rfl | rfl | rfl
      · decide
      · decide
      · decide
      · decide
      · exact digit _ (by omega)
      · exact digit _ (by omega)
    · rename_i high
      rw [List.mem_singleton.1 mem]
      exact Nat.not_lt.1 high

theorem firstPlain_le_of_mem_quote {d : Char} (mem : d ∈ quote text) : firstPlain ≤ d.toNat := by
  rw [quote, List.cons_append, List.mem_cons, List.mem_append, List.mem_singleton,
    List.mem_flatMap] at mem
  rcases mem with rfl | ⟨_, _, inside⟩ | rfl
  · decide
  · exact firstPlain_le_of_mem_escape inside
  · decide

/-! ## Pieces -/

/-- What a character of a quoted string is scanned as. -/
def piece (c : Char) : Piece :=
  if escapeLetter? c = none ∧ c.toNat < firstPlain then .unit c.toNat else .char c

theorem scanPieces_letter (escaped : escapeLetter? c = some letter) (rest : List Char) :
    scanPieces ('\\' :: letter :: rest) =
      (scanPieces rest).map fun (pieces, rest) => (.char c :: pieces, rest) := by
  obtain ⟨unescaped, other, _⟩ := unescapeLetter?_of_escapeLetter? escaped
  rw [scanPieces.eq_def]
  dsimp only
  rw [if_neg (by decide), if_pos rfl]
  split
  · rename_i digits
    exact absurd (List.cons.inj digits).1 other
  · rename_i same
    obtain ⟨rfl, rfl⟩ := List.cons.inj same
    rw [unescaped]
  · rename_i nothing
    cases nothing

theorem scanPieces_unit {code : Nat} (low : code < firstPlain) (rest : List Char) :
    scanPieces ('\\' :: 'u' :: '0' :: '0' :: (code / 16).digitChar :: (code % 16).digitChar ::
        rest) =
      (scanPieces rest).map fun (pieces, rest) => (.unit code :: pieces, rest) := by
  rw [scanPieces.eq_def]
  dsimp only
  rw [if_neg (by decide), if_pos rfl]
  simp only [hexUnit?_digitChar low]

theorem scanPieces_plain (plain : escapeLetter? c = none) (high : ¬ c.toNat < firstPlain)
    (rest : List Char) : scanPieces (c :: rest) =
      (scanPieces rest).map fun (pieces, rest) => (.char c :: pieces, rest) := by
  obtain ⟨no_quote, no_backslash⟩ := escapeLetter?_eq_none plain
  rw [scanPieces.eq_def]
  dsimp only
  rw [if_neg no_quote, if_neg no_backslash, if_neg high]

/-- The escape of a character is scanned as one piece. -/
theorem scanPieces_escape (c : Char) (rest : List Char) :
    scanPieces (escape c ++ rest) =
      (scanPieces rest).map fun (pieces, rest) => (piece c :: pieces, rest) := by
  rw [escape]
  cases escaped : escapeLetter? c with
  | some letter =>
    have whole : piece c = .char c := if_neg fun both => nomatch both.1.symm.trans escaped
    rw [whole]
    exact scanPieces_letter escaped rest
  | none =>
    dsimp only
    split
    · rename_i low
      have unit : piece c = .unit c.toNat := if_pos ⟨escaped, low⟩
      rw [unit]
      exact scanPieces_unit low rest
    · rename_i high
      have whole : piece c = .char c := if_neg fun both => high both.2
      rw [whole]
      exact scanPieces_plain escaped high rest

/-- A quoted string is scanned up to its closing quote. -/
theorem scanPieces_quote (text rest : List Char) :
    scanPieces (text.flatMap escape ++ '"' :: rest) = some (text.map piece, rest) := by
  induction text with
  | nil =>
    rw [List.flatMap_nil, List.nil_append, scanPieces.eq_def]
    rfl
  | cons c text ih =>
    rw [List.flatMap_cons, List.append_assoc, scanPieces_escape, ih]
    rfl

/-- A unit that is no half stands for a character by itself. -/
theorem joinPieces_unit {code : Nat} (low : code < firstPlain) (pieces : List Piece) :
    joinPieces (.unit code :: pieces) = (joinPieces pieces).map (Char.ofNat code :: ·) := by
  rw [firstPlain] at low
  have no_leading : isLeading code = false := by
    rw [isLeading, Bool.and_eq_false_iff]
    exact .inl (decide_eq_false (by omega))
  have no_trailing : isTrailing code = false := by
    rw [isTrailing, Bool.and_eq_false_iff]
    exact .inl (decide_eq_false (by omega))
  cases pieces with
  | nil => simp [joinPieces, no_leading, no_trailing]
  | cons next pieces => cases next <;> simp [joinPieces, no_leading, no_trailing]

theorem joinPieces_piece (c : Char) (pieces : List Piece) :
    joinPieces (piece c :: pieces) = (joinPieces pieces).map (c :: ·) := by
  by_cases escaped : escapeLetter? c = none ∧ c.toNat < firstPlain
  · rw [piece, if_pos escaped, joinPieces_unit escaped.2, Char.ofNat_toNat]
  · rw [piece, if_neg escaped, joinPieces]

/-- The pieces of a quoted string are joined to the string. -/
theorem joinPieces_map_piece (text : List Char) : joinPieces (text.map piece) = some text := by
  induction text with
  | nil => rfl
  | cons c text ih =>
    rw [List.map_cons, joinPieces_piece, ih]
    rfl

end TimeShare.Json
