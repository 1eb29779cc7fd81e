import TimeShare.Proofs.Instruction.Grammar

/-!
# The written form of an instruction

What an instruction is written as is a line that decodes to it again. A written
instruction of the set is cut into a mnemonic and the operands that denote it
(`exists_commands`); an unknown one is kept without the blanks at its ends, which
are no part of its words. `decode_chars_canonical` draws the consequences.
-/

namespace TimeShare.Instruction

open Text

variable {line : Nat} {text word core : List Char} {found : List (List Char)} {kept : String}
  {i : Instruction}

/-! ## Written words -/

theorem isSeparator_digitChar {d : Nat} (below : d < 10) :
    isSeparator (Nat.digitChar d) = false :=
  (by decide : ∀ d < 10, isSeparator (Nat.digitChar d) = false) d below

theorem any_isSeparator_text (m : Mnemonic) : m.text.toList.any isSeparator = false := by
  cases m with
  | arith op => cases op <;> rfl
  | _ => rfl

theorem isWord_mnemonic (m : Mnemonic) : IsWord isSeparator m.text.toList := by
  refine ⟨?_, fun c mem => Bool.of_not_eq_true ?_⟩
  · cases m with
    | arith op => cases op <;> exact List.cons_ne_nil _ _
    | _ => exact List.cons_ne_nil _ _
  · exact List.any_eq_false.1 (any_isSeparator_text m) c mem

theorem spelt_text (m : Mnemonic) : m.SpeltBy m.text.toList := by
  cases m with
  | arith op => cases op <;> rfl
  | _ => rfl

theorem register_chars (r : Register) : r.chars = ['R', Nat.digitChar r.val] := by
  revert r
  decide

theorem isRegister_chars (r : Register) : IsRegister r.chars r := by
  rw [register_chars]
  exact .capital r

theorem isWord_register (r : Register) : IsWord isSeparator r.chars := by
  have below : r.val < 10 := r.isLt.trans (by decide)
  refine ⟨List.cons_ne_nil _ _, ?_⟩
  rw [register_chars, List.forall_mem_cons, List.forall_mem_singleton]
  exact ⟨rfl, isSeparator_digitChar below⟩

theorem isWord_numeral {value : Int} (numeral : Numeral word value) :
    IsWord isSeparator word := by
  refine ⟨numeral.ne_nil, fun c mem => ?_⟩
  rcases numeral.isDigit_or_sign c mem with digit | rfl | rfl
  · obtain ⟨d, below, rfl⟩ := exists_digitChar digit
    exact isSeparator_digitChar below
  · rfl
  · rfl

/-- An immediate is written as an immediate operand. -/
theorem isImmediate_ofInt (imm : Int32) : IsImmediate (ofInt imm.toInt) imm := by
  have low := imm.le_toInt
  have high := imm.toInt_lt
  have isImmediate : IsImmediate (ofInt imm.toInt) (Int32.ofInt imm.toInt) :=
    .numeral (numeral_ofInt imm.toInt) (by omega) (by omega)
  rwa [Int32.ofInt_toInt] at isImmediate

/-! ## Written instructions -/

theorem chars_load (rd : Register) (imm : Int32) :
    (load rd imm).chars =
      Mnemonic.load.text.toList ++ ' ' :: (rd.chars ++ (", ".toList ++ ofInt imm.toInt)) := by
  have written : (load rd imm).chars =
      "LOAD ".toList ++ rd.chars ++ ", ".toList ++ ofInt imm.toInt := rfl
  rw [written, List.append_assoc, List.append_assoc]
  rfl

/-- Where the result replaces the left operand, the operand is written once. -/
theorem chars_arith_self (op : ArithOp) (rd rhs : Register) :
    (arith op rd rd rhs).chars =
      op.mnemonic.toList ++ ' ' :: (rd.chars ++ (", ".toList ++ rhs.chars)) := by
  have written : (arith op rd rd rhs).chars =
      op.mnemonic.toList ++ ' ' :: rd.chars ++ ", ".toList ++ rhs.chars := if_pos rfl
  rw [written, List.append_assoc, List.append_assoc]
  rfl

theorem chars_arith_of_ne {rd lhs : Register} (other : lhs ≠ rd) (op : ArithOp) (rhs : Register) :
    (arith op rd lhs rhs).chars = op.mnemonic.toList ++
      ' ' :: (rd.chars ++ (", ".toList ++ (lhs.chars ++ (", ".toList ++ rhs.chars)))) := by
  have written : (arith op rd lhs rhs).chars = op.mnemonic.toList ++ ' ' :: rd.chars ++
      ", ".toList ++ lhs.chars ++ ", ".toList ++ rhs.chars := if_neg other
  rw [written, List.append_assoc, List.append_assoc, List.append_assoc, List.append_assoc]
  rfl

theorem cut_comma (cut : Cut isSeparator text found) (isWord : IsWord isSeparator word) :
    Cut isSeparator (word ++ (", ".toList ++ text)) (word :: found) :=
  (cut.cons_separator (c := ' ') rfl).cons_word isWord rfl

theorem commands_mnemonic (m : Mnemonic) (cut : Cut isSeparator text found) :
    Commands (m.text.toList ++ ' ' :: text) m found :=
  ⟨m.text.toList, cut.cons_word (isWord_mnemonic m) rfl, spelt_text m⟩

/-- A written instruction is cut into a mnemonic and the operands that denote it. -/
theorem exists_commands (real : ∀ kept, i ≠ .unknown kept) :
    ∃ m operands, Commands i.chars m operands ∧ Denotes m operands i := by
  cases i with
  | load rd imm =>
    have last := (isWord_numeral (numeral_ofInt imm.toInt)).cut
    rw [chars_load]
    exact ⟨_, _, commands_mnemonic .load (cut_comma last (isWord_register rd)),
      .load (isRegister_chars rd) (isImmediate_ofInt imm)⟩
  | arith op rd lhs rhs =>
    have last := (isWord_register rhs).cut
    by_cases same : lhs = rd
    · subst same
      rw [chars_arith_self]
      exact ⟨_, _, commands_mnemonic (.arith op) (cut_comma last (isWord_register lhs)),
        .arithTwo (isRegister_chars lhs) (isRegister_chars rhs)⟩
    · have operands := cut_comma (cut_comma last (isWord_register lhs)) (isWord_register rd)
      rw [chars_arith_of_ne same]
      exact ⟨_, _, commands_mnemonic (.arith op) operands,
        .arithThree (isRegister_chars rd) (isRegister_chars lhs) (isRegister_chars rhs)⟩
  | push rs =>
    exact ⟨_, _, commands_mnemonic .push (isWord_register rs).cut, .push (isRegister_chars rs)⟩
  | pop rd =>
    exact ⟨_, _, commands_mnemonic .pop (isWord_register rd).cut, .pop (isRegister_chars rd)⟩
  | halt => exact ⟨_, _, ⟨_, (isWord_mnemonic .halt).cut, spelt_text .halt⟩, .halt⟩
  | unknown kept => exact absurd rfl (real kept)

theorem decode_chars_of_real (real : ∀ kept, i ≠ .unknown kept) (line : Nat) :
    decode line i.chars = .ok i := by
  obtain ⟨m, operands, commands, denotes⟩ := exists_commands real
  rw [commands.decode_eq, denotes.ofOperands_eq]

/-! ## Lines that are kept -/

/-- The blanks at the ends of a line are no part of its words. -/
theorem words_of_trimmed (trimmed : Trimmed text core) :
    words isSeparator text = words isSeparator core := by
  have separates : ∀ gap, (∀ c ∈ gap, isBlank c = true) → IsGap isSeparator gap := by
    intro gap blank c mem
    rw [isSeparator, blank c mem, Bool.true_or]
  obtain ⟨_, lead, trail, blank, blank', rfl⟩ := trimmed
  rw [words_gap_append (separates lead blank), words_append_gap (separates trail blank')]

theorem decode_kept (decoded : decode line text = .ok (.unknown kept)) (line' : Nat) :
    decode line' kept.toList = .ok (.unknown kept) := by
  have decodes : Decodes line text (.ok (.unknown kept)) := decoded ▸ decodes_decode line text
  cases decodes with
  | nothing _ => rfl
  | @unknown first core others cut strange trimmed =>
    have cut' : Cut isSeparator core (first :: others) := by
      rw [← words_eq_iff, ← words_of_trimmed trimmed, cut.words_eq]
    rw [String.toList_ofList]
    exact (Decodes.unknown cut' strange trimmed.1.trimmed).decode_eq
  | denoted _ denotes => cases denotes

/-! ## Reading and writing -/

theorem decode_chars (decoded : decode line text = .ok i) (line' : Nat) :
    decode line' i.chars = .ok i := by
  by_cases known : ∃ kept, i = .unknown kept
  · obtain ⟨kept, rfl⟩ := known
    exact decode_kept decoded line'
  · exact decode_chars_of_real (not_exists.1 known) line'

/-- Decoding undoes writing, of every instruction that a line decodes to and of every instruction
of the set. So no two instructions that lines decode to are written alike, a kept line is not
written like an instruction of the set, and what a line is written as after it was decoded is
written as itself. -/
theorem decode_chars_canonical :
    (∀ line line' text (i : Instruction), decode line text = .ok i →
        decode line' i.chars = .ok i) ∧
      (∀ line (i : Instruction), (∀ kept, i ≠ .unknown kept) → decode line i.chars = .ok i) ∧
      (∀ line line' text text' (i j : Instruction), decode line text = .ok i →
        decode line' text' = .ok j → i.chars = j.chars → i = j) ∧
      (∀ line text kept (i : Instruction), decode line text = .ok (.unknown kept) →
        (∀ other, i ≠ .unknown other) → (unknown kept).chars ≠ i.chars) ∧
      ∀ line line' text written, (decode line text).map chars = .ok written →
        (decode line' written).map chars = .ok written := by
  refine ⟨?_, ?_, ?_, ?_, ?_⟩
  · intro line line' text i decoded
    exact decode_chars decoded line'
  · intro line i real
    exact decode_chars_of_real real line
  · intro line line' text text' i j decoded decoded' same
    have again := decode_chars decoded line
    rw [same, decode_chars decoded' line] at again
    exact (Except.ok.inj again).symm
  · intro line text kept i decoded real same
    have again := decode_chars decoded line
    rw [same, decode_chars_of_real real line] at again
    exact real kept (Except.ok.inj again)
  · intro line line' text written decoded
    cases result : decode line text with
    | error e =>
      rw [result] at decoded
      cases decoded
    | ok i =>
      rw [result] at decoded
      obtain rfl := Except.ok.inj decoded
      rw [decode_chars result line']
      rfl

/-- A line comes back in capitals and with one comma between operands. -/
example : (decode 1 " sub\tr3,R3, r1".toList).map chars = .ok "SUB R3, R1".toList := by decide

end TimeShare.Instruction
