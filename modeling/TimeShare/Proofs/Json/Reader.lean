import TimeShare.Json.Reader
import TimeShare.Proofs.Json.Scan

/-!
# Written objects are read again

`Reads` says that a reader takes a value from the tokens that it is written as and
leaves what follows. An object is read member by member into a state, so a reader
of objects reads what is written if each member takes the state on (`Collects`).

`Reader.flat` reads an object of any members that are no arrays or objects, in
their order; `reads_flat` says that nothing written is lost to it.
-/

namespace TimeShare.Json

variable {α σ : Type} {value : α} {tokens : List Token} {step : String → σ → Reader σ}
  {start last : σ} {members : List (String × List Token)}

/-- A reader takes a value from some tokens, whatever follows them. -/
def Reads (read : Reader α) (tokens : List Token) (value : α) : Prop :=
  ∀ rest, read (tokens.map .token ++ rest) = .ok (value, rest)

/-- What is written of separate tokens is read again. -/
theorem Reads.readText {read : Reader α} (reads : Reads read tokens value)
    (separate : Separate tokens) : Reader.readText read (compact tokens) = .ok value := by
  have whole := reads []
  rw [List.append_nil] at whole
  rw [Reader.readText, compact, String.toList_ofList, scan_compactChars separate, whole]

/-! ## Objects -/

/-- Some members take one state to another, one after another. -/
inductive Collects (step : String → σ → Reader σ) : σ → List (String × List Token) → σ → Prop
  | nil {state : σ} : Collects step state [] state
  | cons {state next last : σ} {key : String} {value : List Token}
      {members : List (String × List Token)} : Reads (step key state) value next →
    Collects step next members last → Collects step state ((key, value) :: members) last

/-- The tokens of the members of an object up to its closing brace. -/
def contents (members : List (String × List Token)) : List Token :=
  separated (members.map fun (key, value) => member key value) ++ [.closeObject]

theorem contents_singleton (key : String) (value : List Token) :
    contents [(key, value)] = .string key :: .colon :: (value ++ [.closeObject]) := rfl

theorem contents_cons (key : String) (value : List Token) (next : String × List Token)
    (members : List (String × List Token)) :
    contents ((key, value) :: next :: members) =
      .string key :: .colon :: (value ++ .comma :: contents (next :: members)) := by
  simp only [contents, List.map_cons, separated, member, List.cons_append, List.append_assoc]

/-- Every member has a token at least. -/
theorem length_le_length_contents (members : List (String × List Token)) :
    members.length ≤ (contents members).length := by
  induction members with
  | nil => exact Nat.zero_le _
  | cons first members ih =>
    obtain ⟨key, value⟩ := first
    cases members with
    | nil => simp [contents_singleton]
    | cons next members =>
      rw [contents_cons]
      simp only [List.length_cons, List.length_append] at ih ⊢
      omega

theorem Collects.members_eq {fuel : Nat} (collects : Collects step start members last)
    (filled : members ≠ []) (enough : members.length ≤ fuel) (rest : List Lexeme) :
    Reader.members step fuel start ((contents members).map .token ++ rest) = .ok (last, rest) := by
  induction collects generalizing fuel with
  | nil => exact absurd rfl filled
  | @cons state next last key value members reads collects ih =>
    cases fuel with
    | zero => cases enough
    | succ fuel =>
      cases members with
      | nil =>
        cases collects with
        | nil =>
          have here := reads (.token .closeObject :: rest)
          simp only [contents_singleton, List.map_cons, List.map_append, List.map_nil,
            List.cons_append, List.append_assoc, List.nil_append, Reader.members, here]
      | cons second members =>
        have here := reads (.token .comma :: ((contents (second :: members)).map .token ++ rest))
        have later := ih (List.cons_ne_nil _ _) (Nat.le_of_succ_le_succ enough)
        simp only [contents_cons, List.map_cons, List.map_append, List.cons_append,
          List.append_assoc, Reader.members, here, later]

/-- An object whose members take the state from the first to the last is read as the last. -/
theorem Collects.object (collects : Collects step start members last) :
    Reads (Reader.object step start) (object members) last := by
  intro rest
  cases members with
  | nil =>
    cases collects with
    | nil => rfl
  | cons first members =>
    have whole : (object (first :: members)).map Lexeme.token ++ rest =
        .token .openObject :: ((contents (first :: members)).map .token ++ rest) := rfl
    have enough : (first :: members).length ≤
        ((contents (first :: members)).map Lexeme.token ++ rest).length := by
      have fits := length_le_length_contents (first :: members)
      rw [List.length_append, List.length_map]
      omega
    have read := collects.members_eq (List.cons_ne_nil _ _) enough rest
    rw [whole, Reader.object, read]
    -- The members begin with a key, so the object is not taken for an empty one.
    intro _ empty
    cases members with
    | nil => rw [contents_singleton] at empty; cases empty
    | cons next members => rw [contents_cons] at empty; cases empty

/-! ## Objects of values without members -/

/-- Whether a token is a value by itself. -/
def Token.isScalar : Token → Bool
  | null => true
  | bool _ => true
  | integer _ => true
  | string _ => true
  | _ => false

/-- Reads a value that is one token. -/
def Reader.scalar : Reader Token
  | .token token :: rest => if token.isScalar then .ok (token, rest) else .error .malformed
  | _ => .error .malformed

/-- Reads an object whose values have no members, with its members in order. -/
def Reader.flat : Reader (List (String × Token)) :=
  Reader.object (fun key read => Reader.scalar.map fun value => read ++ [(key, value)]) []

/-- Writes an object whose values have no members. -/
def flatObject (members : List (String × Token)) : List Token :=
  object (members.map fun (key, value) => (key, [value]))

theorem separate_flatObject (members : List (String × Token)) : Separate (flatObject members) := by
  refine separate_object ?_
  rw [List.forall_mem_map]
  exact fun member _ => separate_singleton member.2

theorem reads_flat {members : List (String × Token)}
    (scalar : ∀ member ∈ members, member.2.isScalar = true) :
    Reads Reader.flat (flatObject members) members := by
  have collects : ∀ before, Collects
      (fun key read => Reader.scalar.map fun value => read ++ [(key, value)]) before
      (members.map fun (key, value) => (key, [value])) (before ++ members) := by
    induction members with
    | nil =>
      intro before
      rw [List.append_nil]
      exact .nil
    | cons member members ih =>
      rw [List.forall_mem_cons] at scalar
      intro before
      have later := ih scalar.2 (before ++ [member])
      rw [List.append_assoc] at later
      refine .cons (fun rest => ?_) later
      rw [Reader.map, List.map_singleton, List.singleton_append, Reader.scalar,
        if_pos scalar.1]
      rfl
  exact (collects []).object

end TimeShare.Json
