import TimeShare.Proofs.Json.Values

/-!
# Texts over several lines are read again

`pretty` only puts blanks and the ends of lines between tokens, and a scanner
passes over both. So a text that is laid out over lines is cut into the same
lexemes as a compact one, and a value is read again from either.
-/

namespace TimeShare.Json

variable {α : Type} {token : Token} {tokens : List Token}

/-! ## Space -/

theorem scan_space {c : Char} (space : isSpace c = true) (text : List Char) :
    scan (c :: text) = scan text := by
  rw [scan, if_pos space]

theorem scan_newLine (level : Nat) (text : List Char) :
    scan (newLine level ++ text) = scan text := by
  have blanks : ∀ count, scan (List.replicate count ' ' ++ text) = scan text := by
    intro count
    induction count with
    | zero => rfl
    | succ count ih => rw [List.replicate_succ, List.cons_append, scan_space rfl, ih]
  rw [newLine, List.cons_append, scan_space rfl, blanks]

/-- No number is read on over the end of a line. -/
theorem endsNumber_newLine (level : Nat) (text : List Char) :
    EndsNumber (newLine level ++ text) := by
  intro c first
  obtain rfl := Option.some.inj first
  decide

/-! ## Layout -/

/-- No number is read on into a token that is none, or into the line that it stands on. -/
theorem endsNumber_prettyFrom (level : Nat)
    (other : ∀ token ∈ tokens.head?, token.isInteger = false) :
    EndsNumber (prettyFrom level tokens) := by
  fun_cases prettyFrom level tokens with
  | case1 => exact endsNumber_nil
  | case6 | case7 =>
    rw [List.append_assoc]
    exact endsNumber_newLine _ _
  | _ => exact endsNumber_chars (other _ rfl) _

theorem scan_chars_of_not_integer (other : token.isInteger = false) (text : List Char) :
    scan (token.chars ++ text) = .token token :: scan text :=
  scan_chars fun integer => nomatch other.symm.trans integer

/-- Tokens that are laid out over lines are scanned again. -/
theorem scan_prettyFrom (level : Nat) (separate : Separate tokens) :
    scan (prettyFrom level tokens) = tokens.map .token := by
  -- A new line stands in front of a closing token and behind the other ones that have one.
  fun_induction prettyFrom level tokens with
  | case1 => rw [scan, List.map_nil]
  | case2 level rest ih | case3 level rest ih =>
    rw [List.append_assoc, scan_chars_of_not_integer rfl, scan_chars_of_not_integer rfl,
      ih separate.tail.tail]
    rfl
  | case4 level rest _ ih | case5 level rest _ ih | case8 level rest ih =>
    rw [List.append_assoc, scan_chars_of_not_integer rfl, scan_newLine, ih separate.tail]
    rfl
  | case6 level rest ih | case7 level rest ih =>
    rw [List.append_assoc, scan_newLine, scan_chars_of_not_integer rfl, ih separate.tail]
    rfl
  | case9 level rest ih =>
    rw [scan_chars_of_not_integer rfl, scan_space rfl, ih separate.tail]
    rfl
  | case10 level token rest _ _ _ _ _ _ _ _ ih =>
    have ends : token.isInteger = true → EndsNumber (prettyFrom level rest) := by
      intro integer
      refine endsNumber_prettyFrom level fun next first => ?_
      cases rest with
      | nil => cases first
      | cons next' rest =>
        obtain rfl := Option.some.inj first
        exact (List.isChain_cons_cons.1 separate).1 integer
    rw [scan_chars ends, ih separate.tail]
    rfl

/-- A value is read again from its tokens laid out over lines. -/
theorem Restores.readText_pretty {read : Reader α} {value : α}
    (restores : Restores read tokens value) : Reader.readText read (pretty tokens) = .ok value := by
  have whole := restores.reads []
  rw [List.append_nil] at whole
  rw [Reader.readText, pretty, String.toList_ofList, scan_prettyFrom 0 restores.separate, whole]

end TimeShare.Json
