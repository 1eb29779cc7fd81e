import TimeShare.Proofs.Json.Reader

/-!
# Typed values are read again

`Restores` says of a reader, some tokens and a value that the value is read again
from these tokens wherever they stand in a record. It holds of integers in range, of
texts, of names in a table and of arrays of such values, and it passes through the
maps and checks that a reader puts behind another.
-/

namespace TimeShare.Json

variable {α β : Type} {read : Reader α} {token : Token} {tokens : List Token} {value : α}

/-- A reader takes a value from some tokens, whatever follows them. The tokens stay apart when they
are written, and they begin with neither null nor the end of an array, so that a missing value and
an empty array are told from them. -/
structure Restores (read : Reader α) (tokens : List Token) (value : α) : Prop where
  reads : Reads read tokens value
  separate : Separate tokens
  first : ∃ token ∈ tokens.head?, token ≠ .null ∧ token ≠ .closeArray

namespace Restores

theorem readText (restores : Restores read tokens value) :
    Reader.readText read (compact tokens) = .ok value :=
  restores.reads.readText restores.separate

theorem check {f : α → Except ReadError β} {other : β} (restores : Restores read tokens value)
    (passes : f value = .ok other) : Restores (read.check f) tokens other where
  reads rest := by
    rw [Reader.check, restores.reads rest]
    dsimp only
    rw [passes]
    rfl
  separate := restores.separate
  first := restores.first

theorem filterMap {f : α → Option β} {other : β} (restores : Restores read tokens value)
    (taken : f value = some other) : Restores (read.filterMap f) tokens other :=
  restores.check (by rw [taken])

theorem map (f : α → β) (restores : Restores read tokens value) :
    Restores (read.map f) tokens (f value) where
  reads rest := by
    rw [Reader.map, restores.reads rest]
    rfl
  separate := restores.separate
  first := restores.first

/-- A value is read again as the one that it stands for. -/
theorem mapTo {f : α → β} {other : β} (restores : Restores read tokens value)
    (same : f value = other) : Restores (read.map f) tokens other :=
  same ▸ restores.map f

end Restores

/-- A value that is read and does not pass a check is refused for the reason of the check. -/
theorem check_eq_error {f : α → Except ReadError β} {error : ReadError} {lexemes rest : List Lexeme}
    (taken : read lexemes = .ok (value, rest)) (fails : f value = .error error) :
    read.check f lexemes = .error error := by
  rw [Reader.check, taken]
  dsimp only
  rw [fails]
  rfl

/-! ## Values without members -/

theorem restores_token (reads : ∀ rest, read (.token token :: rest) = .ok (value, rest))
    (first : token ≠ .null ∧ token ≠ .closeArray) : Restores read [token] value :=
  ⟨reads, separate_singleton token, token, rfl, first⟩

theorem restores_integerIn {low high value : Int} (above : low ≤ value) (below : value ≤ high) :
    Restores (Reader.integerIn low high) [.integer value] value := by
  have integer : Restores Reader.integer [.integer value] value :=
    restores_token (fun _ => rfl) ⟨nofun, nofun⟩
  exact integer.filterMap (if_pos ⟨above, below⟩)

/-- A natural number is read again with so many bits as it has at most. -/
theorem restores_word {bits n : Nat} (fits : n < 1 <<< bits) :
    Restores (Reader.word bits) (natural n) n := by
  have below : (n : Int) ≤ Int.ofNat (1 <<< bits) - 1 := by
    rw [Int.ofNat_eq_natCast]
    omega
  exact (restores_integerIn (Int.natCast_nonneg n) below).map Int.toNat

/-- A natural number of more bits is refused. -/
theorem word_of_le {bits n : Nat} (large : 1 <<< bits ≤ n) (rest : List Lexeme) :
    Reader.word bits (.token (.integer n) :: rest) = .error .malformed := by
  have outside : ¬ ((0 : Int) ≤ n ∧ (n : Int) ≤ Int.ofNat (1 <<< bits) - 1) := by
    rw [Int.ofNat_eq_natCast]
    omega
  rw [Reader.word, Reader.map, Reader.integerIn, Reader.filterMap, Reader.check, Reader.integer]
  dsimp only
  rw [if_neg outside]
  rfl

/-- A signed integer is read again with its number of bits. -/
theorem restores_signedWord {bits : Nat} {value : Int}
    (above : -Int.ofNat (1 <<< (bits - 1)) ≤ value)
    (below : value < Int.ofNat (1 <<< (bits - 1))) :
    Restores (Reader.signedWord bits) [.integer value] value :=
  restores_integerIn above (Int.le_sub_one_of_lt below)

theorem restores_uint32 (n : UInt32) :
    Restores ((Reader.word 32).map UInt32.ofNat) (natural n.toNat) n :=
  .mapTo (restores_word n.toNat_lt) UInt32.ofNat_toNat

theorem restores_uint64 (n : UInt64) :
    Restores ((Reader.word 64).map UInt64.ofNat) (natural n.toNat) n :=
  .mapTo (restores_word n.toNat_lt) UInt64.ofNat_toNat

theorem restores_int32 (n : Int32) :
    Restores ((Reader.signedWord 32).map Int32.ofInt) [.integer n.toInt] n :=
  .mapTo (restores_signedWord n.le_toInt n.toInt_lt) (Int32.ofInt_toInt n)

theorem restores_int64 (n : Int64) :
    Restores ((Reader.signedWord 64).map Int64.ofInt) [.integer n.toInt] n :=
  .mapTo (restores_signedWord n.le_toInt n.toInt_lt) (Int64.ofInt_toInt n)

theorem restores_bool (value : Bool) : Restores Reader.bool [.bool value] value :=
  restores_token (fun _ => rfl) ⟨nofun, nofun⟩

theorem restores_string (text : String) : Restores Reader.string [.string text] text :=
  restores_token (fun _ => rfl) ⟨nofun, nofun⟩

theorem restores_oneOf {names : List (String × α)} {name : String}
    (found : (names.find? fun (other, _) => other = name).map (·.2) = some value) :
    Restores (Reader.oneOf names) [.string name] value := by
  have text : Restores Reader.name [.string name] name :=
    restores_token (fun _ => rfl) ⟨nofun, nofun⟩
  exact text.filterMap found

/-- The digits of a natural number are what is written of it. -/
theorem compact_natural (n : Nat) : compact (natural n) = toString n := by
  rw [compact, compactChars, natural, List.flatMap_singleton]
  rfl

theorem scan_toString (n : Nat) : scan (toString n).toList = [.token (.integer n)] := by
  have separate : Separate (natural n) := separate_singleton _
  rw [← compact_natural, compact, String.toList_ofList, scan_compactChars separate]
  rfl

/-! ## Arrays -/

section Array

variable {write : α → List Token} {values : List α}

/-- The tokens of the elements of an array up to its closing bracket. -/
def elementTokens (write : α → List Token) (values : List α) : List Token :=
  separated (values.map write) ++ [.closeArray]

theorem elementTokens_singleton (write : α → List Token) (value : α) :
    elementTokens write [value] = write value ++ [.closeArray] := rfl

theorem elementTokens_cons (write : α → List Token) (value next : α) (values : List α) :
    elementTokens write (value :: next :: values) =
      write value ++ .comma :: elementTokens write (next :: values) := by
  simp only [elementTokens, List.map_cons, separated, List.append_assoc, List.cons_append]

/-- Every element has a token at least. -/
theorem length_le_length_elementTokens
    (restores : ∀ value ∈ values, Restores read (write value) value) :
    values.length ≤ (elementTokens write values).length := by
  induction values with
  | nil => exact Nat.zero_le _
  | cons value values ih =>
    rw [List.forall_mem_cons] at restores
    cases values with
    | nil => simp [elementTokens_singleton]
    | cons next values =>
      have later := ih restores.2
      rw [elementTokens_cons]
      simp only [List.length_cons, List.length_append] at later ⊢
      omega

theorem elements_eq {fuel : Nat} (restores : ∀ value ∈ values, Restores read (write value) value)
    (filled : values ≠ []) (enough : values.length ≤ fuel) (rest : List Lexeme) :
    Reader.elements read fuel ((elementTokens write values).map .token ++ rest) =
      .ok (values, rest) := by
  induction values generalizing fuel with
  | nil => exact absurd rfl filled
  | cons value values ih =>
    rw [List.forall_mem_cons] at restores
    cases fuel with
    | zero => cases enough
    | succ fuel =>
      cases values with
      | nil =>
        have here := restores.1.reads (.token .closeArray :: rest)
        simp only [elementTokens_singleton, List.map_append, List.map_cons, List.map_nil,
          List.append_assoc, List.cons_append, List.nil_append, Reader.elements, here]
      | cons next values =>
        have here := restores.1.reads
          (.token .comma :: ((elementTokens write (next :: values)).map .token ++ rest))
        have later := ih restores.2 (List.cons_ne_nil _ _) (Nat.le_of_succ_le_succ enough)
        simp only [elementTokens_cons, List.map_append, List.map_cons, List.append_assoc,
          List.cons_append, Reader.elements, here, Reader.map, later]
        rfl

/-- An array is read again if its elements are. -/
theorem restores_array (restores : ∀ value ∈ values, Restores read (write value) value) :
    Restores (Reader.array read) (array (values.map write)) values where
  reads rest := by
    cases values with
    | nil => rfl
    | cons value values =>
      have whole : (array ((value :: values).map write)).map Lexeme.token ++ rest =
          .token .openArray :: ((elementTokens write (value :: values)).map .token ++ rest) := rfl
      have enough : (value :: values).length ≤
          ((elementTokens write (value :: values)).map Lexeme.token ++ rest).length := by
        have fits := length_le_length_elementTokens restores
        rw [List.length_append, List.length_map]
        omega
      have read := elements_eq restores (List.cons_ne_nil _ _) enough rest
      rw [whole, Reader.array, read]
      -- The first element does not begin with the end of an array.
      intro _ empty
      obtain ⟨token, first, _, other⟩ := (List.forall_mem_cons.1 restores).1.first
      obtain ⟨tokens, written⟩ := List.head?_eq_some_iff.1 first
      cases values with
      | nil =>
        rw [elementTokens_singleton, written] at empty
        exact other (Lexeme.token.inj (List.cons.inj empty).1)
      | cons next values =>
        rw [elementTokens_cons, written] at empty
        exact other (Lexeme.token.inj (List.cons.inj empty).1)
  separate := by
    have closing : Token.closeArray.isInteger = false := rfl
    refine separate_nil.join ((separate_separated ?_).join separate_nil closing) rfl
    rw [List.forall_mem_map]
    exact fun value mem => (restores value mem).separate
  first := ⟨.openArray, rfl, nofun, nofun⟩

theorem restores_vector {size : Nat} {values : Vector α size}
    (restores : ∀ value ∈ values.toList, Restores read (write value) value) :
    Restores (Reader.vector size read) (array (values.toList.map write)) values := by
  refine (restores_array restores).filterMap ?_
  have sized : values.toList.toArray.size = size := by
    rw [List.size_toArray, Vector.length_toList]
  rw [dif_pos sized]
  rfl

end Array

end TimeShare.Json
