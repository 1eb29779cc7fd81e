import TimeShare.Proofs.Text.Blank
import TimeShare.Text.Words

/-!
# The lines of a text

A text is cut at its newlines into pieces, one more than there are newlines, and
none of them with a newline in it. Its lines are these pieces, except that a
carriage return in front of a newline is taken off and that no empty line follows
the last newline. So lines and pieces differ in blanks only.

A text made of lines with a newline behind each is cut into these lines again
(`splitOn_ended`, `lines_ended`).

`Recoded` relates a text to the texts that it becomes when some of its lines are
ended by a carriage return and a newline; `Recoded.pieces` says what that does to
the pieces.
-/

namespace TimeShare.Text

variable {text recoded line piece trail : List Char} {c : Char}

/-! ## Pieces -/

theorem length_pieces (text : List Char) :
    (text.splitOn '\n').length = text.count '\n' + 1 := by
  induction text with
  | nil => rfl
  | cons c text ih =>
    rw [List.splitOn_cons_eq_if_modifyHead, List.count_cons]
    split
    · rw [List.length_cons, ih]
    · rw [List.length_modifyHead, ih, Nat.add_zero]

/-- No newline is left in a piece. -/
theorem newline_not_mem_piece (mem : piece ∈ text.splitOn '\n') : '\n' ∉ piece := by
  induction text generalizing piece with
  | nil =>
    rw [List.splitOn_nil, List.mem_singleton] at mem
    subst mem
    exact List.not_mem_nil
  | cons c text ih =>
    rw [List.splitOn_cons_eq_if_modifyHead] at mem
    split at mem
    · rcases List.mem_cons.1 mem with rfl | later
      · exact List.not_mem_nil
      · exact ih later
    · rename_i other
      cases pieces : text.splitOn '\n' with
      | nil => exact absurd pieces (List.splitOn_ne_nil _ _)
      | cons first rest =>
        rw [pieces] at ih
        rw [pieces, List.modifyHead_cons] at mem
        rcases List.mem_cons.1 mem with rfl | later
        · intro newline
          rcases List.mem_cons.1 newline with rfl | inside
          · exact other (beq_self_eq_true _)
          · exact ih List.mem_cons_self inside
        · exact ih (List.mem_cons_of_mem _ later)

/-! ## Blanks at the end -/

/-- Blanks behind a text are trimmed off with those at its end. -/
theorem trim_append (blank : ∀ c ∈ trail, isBlank c = true) (text : List Char) :
    trim (text ++ trail) = trim text := by
  obtain ⟨isTrim, lead, trail', blank', blank'', split⟩ := trimmed_trim text
  refine trim_eq_iff.2 ⟨isTrim, lead, trail' ++ trail, blank', ?_, ?_⟩
  · exact List.forall_mem_append.2 ⟨blank'', blank⟩
  · conv_lhs => rw [split]
    simp only [List.append_assoc]

theorem blank_return : ∀ c ∈ ['\r'], isBlank c = true :=
  List.forall_mem_singleton.2 rfl

theorem trim_dropReturn (line : List Char) : trim (dropReturn line) = trim line := by
  unfold dropReturn
  split
  · rename_i last
    have whole : line.dropLast ++ ['\r'] = line := List.dropLast_append_getLast? _ last
    have trimmed := trim_append blank_return line.dropLast
    rw [whole] at trimmed
    exact trimmed.symm
  · rfl

theorem mem_of_mem_trim (mem : c ∈ trim text) : c ∈ text := by
  obtain ⟨_, lead, trail, _, _, split⟩ := trimmed_trim text
  rw [split]
  exact List.mem_append_right _ (List.mem_append_left _ mem)

/-! ## Lines that are ended -/

/-- Lines that are ended by a newline each are the pieces of a text, with nothing in the last. -/
theorem splitOn_ended {lines : List (List Char)} (single : ∀ line ∈ lines, '\n' ∉ line) :
    (lines.flatMap (· ++ ['\n'])).splitOn '\n' = lines ++ [[]] := by
  induction lines with
  | nil => rfl
  | cons line lines ih =>
    rw [List.forall_mem_cons] at single
    rw [List.flatMap_cons, List.append_assoc, List.singleton_append,
      List.splitOn_append_cons_self, List.splitOn_eq_singleton single.1, ih single.2,
      List.singleton_append, List.cons_append]

theorem linesOfPieces_ended (pieces : List (List Char)) :
    linesOfPieces (pieces ++ [[]]) = pieces.map dropReturn := by
  induction pieces with
  | nil => rfl
  | cons piece pieces ih =>
    cases pieces with
    | nil => rfl
    | cons next rest =>
      rw [List.map_cons, ← ih]
      rfl

/-- Lines that are ended by a newline each, and hold no newlines or carriage returns, are the lines
of a text. -/
theorem lines_ended {lines : List (List Char)}
    (single : ∀ line ∈ lines, '\n' ∉ line ∧ '\r' ∉ line) :
    Text.lines (lines.flatMap (· ++ ['\n'])) = lines := by
  have kept : ∀ line ∈ lines, dropReturn line = line :=
    fun line mem => if_neg fun last => (single line mem).2 (List.mem_of_mem_getLast? last)
  rw [Text.lines, splitOn_ended fun line mem => (single line mem).1, linesOfPieces_ended]
  exact (List.map_congr_left kept).trans (List.map_id _)

/-! ## Line endings -/

/-- A text and what it becomes when a carriage return is put in front of some of its newlines. -/
inductive Recoded : List Char → List Char → Prop
  | nil : Recoded [] []
  | keep {text recoded : List Char} (c : Char) : Recoded text recoded →
    Recoded (c :: text) (c :: recoded)
  | crlf {text recoded : List Char} : Recoded text recoded →
    Recoded ('\n' :: text) ('\r' :: '\n' :: recoded)

/-- The pieces stay the same, but for a carriage return at their ends. -/
theorem Recoded.pieces (h : Recoded text recoded) :
    List.Forall₂ (fun piece piece' => piece' = piece ∨ piece' = piece ++ ['\r'])
      (text.splitOn '\n') (recoded.splitOn '\n') := by
  induction h with
  | nil => exact .cons (.inl rfl) .nil
  | @keep text recoded c _ ih =>
    rw [List.splitOn_cons_eq_if_modifyHead, List.splitOn_cons_eq_if_modifyHead]
    split
    · exact .cons (.inl rfl) ih
    · generalize text.splitOn '\n' = pieces, recoded.splitOn '\n' = pieces' at ih ⊢
      cases ih with
      | nil => exact .nil
      | cons related rest =>
        refine .cons ?_ rest
        rcases related with rfl | rfl
        · exact .inl rfl
        · exact .inr rfl
  | @crlf text recoded _ ih =>
    have plain : ('\n' :: text).splitOn '\n' = [] :: text.splitOn '\n' :=
      List.splitOn_append_cons_self [] text
    have ended : ('\r' :: '\n' :: recoded).splitOn '\n' = ['\r'] :: recoded.splitOn '\n' :=
      List.splitOn_append_cons_self ['\r'] recoded
    rw [plain, ended]
    exact .cons (.inr rfl) ih

end TimeShare.Text
