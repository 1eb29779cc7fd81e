import TimeShare.Instruction.Decode
import TimeShare.Proofs.Text.Blank
import TimeShare.Proofs.Text.Decimal
import TimeShare.Proofs.Text.Words

/-!
# The grammar of a line

`Denotes` says which operands each mnemonic takes and which instruction they make,
`Refuses` says of the other operands which error they are, where several faults at
once leave one error, and `Decodes` puts a line together from its words.
`decode_eq_iff` says that a line decodes to the result that the grammar gives it
and to no other, and that it decodes to an unknown instruction just when its first
word is no mnemonic.
-/

namespace TimeShare

namespace Mnemonic

variable {word : List Char} {m : Mnemonic}

/-- The numbers of operands that a mnemonic takes. -/
def Takes : Mnemonic → Nat → Prop
  | load, n => n = 2
  | arith _, n => n = 2 ∨ n = 3
  | push, n => n = 1
  | pop, n => n = 1
  | halt, n => n = 0

/-- The words that spell a mnemonic, once the Latin letters in them are capitals. -/
def SpeltBy : Mnemonic → List Char → Prop
  | load, word => word.map Char.toUpper = ['L', 'O', 'A', 'D']
  | arith .add, word => word.map Char.toUpper = ['A', 'D', 'D']
  | arith .sub, word => word.map Char.toUpper = ['S', 'U', 'B']
  | arith .mul, word => word.map Char.toUpper = ['M', 'U', 'L']
  | push, word => word.map Char.toUpper = ['P', 'U', 'S', 'H']
  | pop, word => word.map Char.toUpper = ['P', 'O', 'P']
  | halt, word => word.map Char.toUpper = ['H', 'A', 'L', 'T']

/-- In capitals a word that spells a mnemonic is the text of it. -/
theorem speltBy_iff : m.SpeltBy word ↔ word.map Char.toUpper = m.text.toList := by
  cases m with
  | arith op => cases op <;> exact Iff.rfl
  | _ => exact Iff.rfl

/-- No two mnemonics have one text. -/
theorem find?_text (m : Mnemonic) :
    all.find? (fun other => other.text.toList = m.text.toList) = some m := by
  cases m with
  | arith op => cases op <;> rfl
  | _ => rfl

theorem ofChars?_eq_some_iff : ofChars? word = some m ↔ m.SpeltBy word := by
  constructor
  · intro found
    have same := List.find?_some found
    have spelt : m.text.toList = word.map Char.toUpper := of_decide_eq_true same
    exact speltBy_iff.2 spelt.symm
  · intro spelt
    rw [ofChars?, speltBy_iff.1 spelt]
    exact find?_text m

theorem ofChars?_eq_none_iff : ofChars? word = none ↔ ∀ m : Mnemonic, ¬ m.SpeltBy word := by
  rw [Option.eq_none_iff_forall_ne_some]
  exact forall_congr' fun m => not_congr ofChars?_eq_some_iff

end Mnemonic

namespace Instruction

open Text

variable {line : Nat} {text word operand bad first : List Char} {operands : List (List Char)}
  {m : Mnemonic} {r : Register} {imm : Int32} {i : Instruction} {e : LoadError}
  {result : Except LoadError Instruction}

/-- R in either case and the digit of the register. -/
inductive IsRegister : List Char → Register → Prop
  | capital (r : Register) : IsRegister ['R', Nat.digitChar r.val] r
  | small (r : Register) : IsRegister ['r', Nat.digitChar r.val] r

/-- A numeral whose value fits into 32 bits. -/
inductive IsImmediate : List Char → Int32 → Prop
  | numeral {word : List Char} {value : Int} : Numeral word value → -2147483648 ≤ value →
    value ≤ 2147483647 → IsImmediate word (Int32.ofInt value)

/-- A mnemonic with operands that fit, and the instruction that they denote. -/
inductive Denotes : Mnemonic → List (List Char) → Instruction → Prop
  | load {a b : List Char} {rd : Register} {imm : Int32} : IsRegister a rd → IsImmediate b imm →
    Denotes .load [a, b] (.load rd imm)
  | arithTwo {op : ArithOp} {a b : List Char} {rd rhs : Register} :
    IsRegister a rd → IsRegister b rhs → Denotes (.arith op) [a, b] (.arith op rd rd rhs)
  | arithThree {op : ArithOp} {a b c : List Char} {rd lhs rhs : Register} :
    IsRegister a rd → IsRegister b lhs → IsRegister c rhs →
    Denotes (.arith op) [a, b, c] (.arith op rd lhs rhs)
  | push {a : List Char} {rs : Register} : IsRegister a rs → Denotes .push [a] (.push rs)
  | pop {a : List Char} {rd : Register} : IsRegister a rd → Denotes .pop [a] (.pop rd)
  | halt : Denotes .halt [] .halt

/-- The first operand that is no register. -/
inductive FirstBad : List (List Char) → List Char → Prop
  | here {bad : List Char} {others : List (List Char)} : (∀ r, ¬ IsRegister bad r) →
    FirstBad (bad :: others) bad
  | later {operand bad : List Char} {others : List (List Char)} {r : Register} :
    IsRegister operand r → FirstBad others bad → FirstBad (operand :: others) bad

/-- A mnemonic with operands that do not fit, and the error that they are: a wrong number of them
comes before all else, then the immediate of LOAD, then the registers from left to right. -/
inductive Refuses (line : Nat) : Mnemonic → List (List Char) → LoadError → Prop
  | count {m : Mnemonic} {operands : List (List Char)} : ¬ m.Takes operands.length →
    Refuses line m operands (.operandCount line m.text m.operandCounts operands.length)
  | immediate {a bad : List Char} : (∀ imm, ¬ IsImmediate bad imm) →
    Refuses line .load [a, bad] (.invalidImmediate line (String.ofList bad))
  | loadRegister {bad b : List Char} {imm : Int32} : (∀ r, ¬ IsRegister bad r) →
    IsImmediate b imm → Refuses line .load [bad, b] (.invalidRegister line (String.ofList bad))
  | register {m : Mnemonic} {operands : List (List Char)} {bad : List Char} : m ≠ .load →
    m.Takes operands.length → FirstBad operands bad →
    Refuses line m operands (.invalidRegister line (String.ofList bad))

/-- A text whose first word is a mnemonic, with that mnemonic and the other words. -/
def Commands (text : List Char) (m : Mnemonic) (operands : List (List Char)) : Prop :=
  ∃ first, Cut isSeparator text (first :: operands) ∧ m.SpeltBy first

/-- What a line decodes to. -/
inductive Decodes (line : Nat) (text : List Char) : Except LoadError Instruction → Prop
  | nothing : Cut isSeparator text [] → Decodes line text (.ok (.unknown ""))
  | unknown {first core : List Char} {others : List (List Char)} :
    Cut isSeparator text (first :: others) → (∀ m : Mnemonic, ¬ m.SpeltBy first) →
    Trimmed text core → Decodes line text (.ok (.unknown (String.ofList core)))
  | denoted {m : Mnemonic} {operands : List (List Char)} {i : Instruction} :
    Commands text m operands → Denotes m operands i → Decodes line text (.ok i)
  | refused {m : Mnemonic} {operands : List (List Char)} {e : LoadError} :
    Commands text m operands → Refuses line m operands e → Decodes line text (.error e)

/-! ## Operands -/

theorem isRegister_of_ofChars? (found : Register.ofChars? word = some r) : IsRegister word r := by
  unfold Register.ofChars? at found
  split at found
  · obtain ⟨⟨either, isDigit⟩, number⟩ := Option.ite_none_right_eq_some.1 found
    obtain ⟨d, below, rfl⟩ := exists_digitChar isDigit
    obtain ⟨_, same⟩ := Option.dite_none_right_eq_some.1 number
    have value : d = r.val := by
      rw [← Option.some.inj same]
      exact (Nat.toNat_digitChar_sub_48_of_lt_ten below).symm
    subst value
    rcases either with rfl | rfl
    · exact .capital r
    · exact .small r
  · cases found

theorem isRegister_iff : IsRegister word r ↔ Register.ofChars? word = some r := by
  refine ⟨fun isRegister => ?_, isRegister_of_ofChars?⟩
  cases isRegister with
  | capital => revert r; decide
  | small => revert r; decide

theorem readRegister_of_isRegister (isRegister : IsRegister word r) :
    readRegister line word = .ok r := by
  rw [readRegister, isRegister_iff.1 isRegister]

theorem readRegister_of_not (bad : ∀ r, ¬ IsRegister word r) :
    readRegister line word = .error (.invalidRegister line (String.ofList word)) := by
  have unread : Register.ofChars? word = none :=
    Option.eq_none_iff_forall_ne_some.2 fun r read => bad r (isRegister_iff.2 read)
  rw [readRegister, unread]

theorem readImmediate_of_isImmediate (isImmediate : IsImmediate word imm) :
    readImmediate line word = .ok imm := by
  obtain ⟨numeral, low, high⟩ := isImmediate
  rw [readImmediate, signed?_eq_some_iff.2 numeral]
  exact if_pos ⟨low, high⟩

theorem readImmediate_of_not (bad : ∀ imm, ¬ IsImmediate word imm) :
    readImmediate line word = .error (.invalidImmediate line (String.ofList word)) := by
  unfold readImmediate
  split
  · next value read =>
    exact if_neg fun ⟨low, high⟩ => bad _ (.numeral (signed?_eq_some_iff.1 read) low high)
  · rfl

/-! ## Operands that fit -/

/-- A mnemonic with operands that fit decodes to what they denote. -/
theorem Denotes.ofOperands_eq (denotes : Denotes m operands i) :
    ofOperands line m operands = .ok i := by
  cases denotes with
  | load isRegister isImmediate =>
    rw [ofOperands, readImmediate_of_isImmediate isImmediate, readRegister_of_isRegister isRegister]
    rfl
  | arithTwo first second =>
    rw [ofOperands, readRegister_of_isRegister first, readRegister_of_isRegister second]
    rfl
  | arithThree first second third =>
    rw [ofOperands, readRegister_of_isRegister first, readRegister_of_isRegister second,
      readRegister_of_isRegister third]
    rfl
  | push isRegister =>
    rw [ofOperands, readRegister_of_isRegister isRegister]
    rfl
  | pop isRegister =>
    rw [ofOperands, readRegister_of_isRegister isRegister]
    rfl
  | halt => rfl

/-- Registers in the right number denote an instruction, LOAD apart. -/
theorem exists_denotes {registers : List Register} (other : m ≠ .load)
    (takes : m.Takes operands.length) (areRegisters : List.Forall₂ IsRegister operands registers) :
    ∃ i, Denotes m operands i := by
  cases m with
  | load => exact absurd rfl other
  | arith op =>
    rcases takes with two | three
    · obtain ⟨a, b, rfl⟩ := List.length_eq_two.1 two
      obtain _ | ⟨first, _ | ⟨second, _⟩⟩ := areRegisters
      exact ⟨_, .arithTwo first second⟩
    · obtain ⟨a, b, c, rfl⟩ := List.length_eq_three.1 three
      obtain _ | ⟨first, _ | ⟨second, _ | ⟨third, _⟩⟩⟩ := areRegisters
      exact ⟨_, .arithThree first second third⟩
  | push =>
    obtain ⟨a, rfl⟩ := List.length_eq_one_iff.1 takes
    obtain _ | ⟨isRegister, _⟩ := areRegisters
    exact ⟨_, .push isRegister⟩
  | pop =>
    obtain ⟨a, rfl⟩ := List.length_eq_one_iff.1 takes
    obtain _ | ⟨isRegister, _⟩ := areRegisters
    exact ⟨_, .pop isRegister⟩
  | halt =>
    obtain rfl := List.length_eq_zero_iff.1 takes
    exact ⟨_, .halt⟩

/-! ## Operands that do not fit -/

theorem ofOperands_of_count (wrong : ¬ m.Takes operands.length) :
    ofOperands line m operands =
      .error (.operandCount line m.text m.operandCounts operands.length) := by
  unfold ofOperands
  split
  · exact absurd rfl wrong
  · exact absurd (.inl rfl) wrong
  · exact absurd (.inr rfl) wrong
  · exact absurd rfl wrong
  · exact absurd rfl wrong
  · exact absurd rfl wrong
  · rfl

/-- Registers are read from left to right, so the first bad one is the error. -/
theorem ofOperands_of_firstBad (other : m ≠ .load) (takes : m.Takes operands.length)
    (firstBad : FirstBad operands bad) :
    ofOperands line m operands = .error (.invalidRegister line (String.ofList bad)) := by
  cases m with
  | load => exact absurd rfl other
  | arith op =>
    rcases takes with two | three
    · obtain ⟨a, b, rfl⟩ := List.length_eq_two.1 two
      obtain bad | ⟨good, bad | ⟨_, none⟩⟩ := firstBad
      · rw [ofOperands, readRegister_of_not bad]
        rfl
      · rw [ofOperands, readRegister_of_isRegister good, readRegister_of_not bad]
        rfl
      · cases none
    · obtain ⟨a, b, c, rfl⟩ := List.length_eq_three.1 three
      obtain bad | ⟨good, bad | ⟨good', bad | ⟨_, none⟩⟩⟩ := firstBad
      · rw [ofOperands, readRegister_of_not bad]
        rfl
      · rw [ofOperands, readRegister_of_isRegister good, readRegister_of_not bad]
        rfl
      · rw [ofOperands, readRegister_of_isRegister good, readRegister_of_isRegister good',
          readRegister_of_not bad]
        rfl
      · cases none
  | push =>
    obtain ⟨a, rfl⟩ := List.length_eq_one_iff.1 takes
    obtain bad | ⟨_, none⟩ := firstBad
    · rw [ofOperands, readRegister_of_not bad]
      rfl
    · cases none
  | pop =>
    obtain ⟨a, rfl⟩ := List.length_eq_one_iff.1 takes
    obtain bad | ⟨_, none⟩ := firstBad
    · rw [ofOperands, readRegister_of_not bad]
      rfl
    · cases none
  | halt =>
    obtain rfl := List.length_eq_zero_iff.1 takes
    cases firstBad

/-- A mnemonic with operands that do not fit decodes to the error that they are. -/
theorem Refuses.ofOperands_eq (refuses : Refuses line m operands e) :
    ofOperands line m operands = .error e := by
  cases refuses with
  | count wrong => exact ofOperands_of_count wrong
  | immediate bad =>
    rw [ofOperands, readImmediate_of_not bad]
    rfl
  | loadRegister bad isImmediate =>
    rw [ofOperands, readImmediate_of_isImmediate isImmediate, readRegister_of_not bad]
    rfl
  | register other takes firstBad => exact ofOperands_of_firstBad other takes firstBad

/-! ## Every line -/

theorem registers_or_firstBad (operands : List (List Char)) :
    (∃ registers, List.Forall₂ IsRegister operands registers) ∨ ∃ bad, FirstBad operands bad := by
  induction operands with
  | nil => exact .inl ⟨[], .nil⟩
  | cons operand operands ih =>
    by_cases good : ∃ r, IsRegister operand r
    · obtain ⟨r, isRegister⟩ := good
      rcases ih with ⟨registers, areRegisters⟩ | ⟨bad, firstBad⟩
      · exact .inl ⟨r :: registers, .cons isRegister areRegisters⟩
      · exact .inr ⟨bad, .later isRegister firstBad⟩
    · exact .inr ⟨operand, .here (not_exists.1 good)⟩

theorem load_denotes_or_refuses (line : Nat) (a b : List Char) :
    (∃ i, Denotes .load [a, b] i) ∨ ∃ e, Refuses line .load [a, b] e := by
  by_cases immediate : ∃ imm, IsImmediate b imm
  · obtain ⟨imm, isImmediate⟩ := immediate
    by_cases register : ∃ r, IsRegister a r
    · obtain ⟨r, isRegister⟩ := register
      exact .inl ⟨_, .load isRegister isImmediate⟩
    · exact .inr ⟨_, .loadRegister (not_exists.1 register) isImmediate⟩
  · exact .inr ⟨_, .immediate (not_exists.1 immediate)⟩

/-- Operands fit or they do not. -/
theorem denotes_or_refuses (line : Nat) (m : Mnemonic) (operands : List (List Char)) :
    (∃ i, Denotes m operands i) ∨ ∃ e, Refuses line m operands e := by
  by_cases takes : m.Takes operands.length
  · by_cases other : m = .load
    · subst other
      obtain ⟨a, b, rfl⟩ := List.length_eq_two.1 takes
      exact load_denotes_or_refuses line a b
    · rcases registers_or_firstBad operands with ⟨registers, areRegisters⟩ | ⟨bad, firstBad⟩
      · exact .inl (exists_denotes other takes areRegisters)
      · exact .inr ⟨_, .register other takes firstBad⟩
  · exact .inr ⟨_, .count takes⟩

theorem ofOperands_eq_ok_iff : ofOperands line m operands = .ok i ↔ Denotes m operands i := by
  refine ⟨fun decoded => ?_, Denotes.ofOperands_eq⟩
  rcases denotes_or_refuses line m operands with ⟨i', denotes⟩ | ⟨e, refuses⟩
  · obtain rfl := Except.ok.inj (decoded.symm.trans denotes.ofOperands_eq)
    exact denotes
  · cases decoded.symm.trans refuses.ofOperands_eq

theorem ofOperands_eq_error_iff :
    ofOperands line m operands = .error e ↔ Refuses line m operands e := by
  refine ⟨fun decoded => ?_, Refuses.ofOperands_eq⟩
  rcases denotes_or_refuses line m operands with ⟨i, denotes⟩ | ⟨e', refuses⟩
  · cases decoded.symm.trans denotes.ofOperands_eq
  · obtain rfl := Except.error.inj (decoded.symm.trans refuses.ofOperands_eq)
    exact refuses

theorem Commands.decode_eq (commands : Commands text m operands) :
    decode line text = ofOperands line m operands := by
  obtain ⟨first, cut, spelt⟩ := commands
  simp only [decode, cut.words_eq, Mnemonic.ofChars?_eq_some_iff.2 spelt]

theorem Decodes.decode_eq (decodes : Decodes line text result) : decode line text = result := by
  cases decodes with
  | nothing cut => rw [decode, cut.words_eq]
  | unknown cut strange trimmed =>
    simp only [decode, cut.words_eq, Mnemonic.ofChars?_eq_none_iff.2 strange, trimmed.trim_eq]
  | denoted commands denotes => rw [commands.decode_eq, denotes.ofOperands_eq]
  | refused commands refuses => rw [commands.decode_eq, refuses.ofOperands_eq]

/-- The grammar gives every line a result. -/
theorem exists_decodes (line : Nat) (text : List Char) : ∃ result, Decodes line text result := by
  obtain ⟨found, cut⟩ := exists_cut isSeparator text
  cases found with
  | nil => exact ⟨_, .nothing cut⟩
  | cons first operands =>
    by_cases known : ∃ m : Mnemonic, m.SpeltBy first
    · obtain ⟨m, spelt⟩ := known
      have commands : Commands text m operands := ⟨first, cut, spelt⟩
      rcases denotes_or_refuses line m operands with ⟨i, denotes⟩ | ⟨e, refuses⟩
      · exact ⟨_, .denoted commands denotes⟩
      · exact ⟨_, .refused commands refuses⟩
    · exact ⟨_, .unknown cut (not_exists.1 known) (trimmed_trim text)⟩

theorem decodes_decode (line : Nat) (text : List Char) : Decodes line text (decode line text) := by
  obtain ⟨result, decodes⟩ := exists_decodes line text
  rwa [decodes.decode_eq]

theorem decode_eq_unknown_iff :
    (∃ kept, decode line text = .ok (.unknown kept)) ↔ ∀ m operands, ¬ Commands text m operands := by
  constructor
  · rintro ⟨kept, decoded⟩ m operands commands
    rw [commands.decode_eq] at decoded
    -- No operands denote an unknown instruction.
    cases ofOperands_eq_ok_iff.1 decoded
  · intro strange
    obtain ⟨result, decodes⟩ := exists_decodes line text
    have decoded := decodes.decode_eq
    cases decodes with
    | nothing _ => exact ⟨_, decoded⟩
    | unknown _ _ _ => exact ⟨_, decoded⟩
    | denoted commands _ => exact absurd commands (strange _ _)
    | refused commands _ => exact absurd commands (strange _ _)

/-- A line decodes to the result that the grammar gives it and to no other. It is kept as an
unknown instruction just when it does not begin with a mnemonic; after a mnemonic it is the
instruction that its operands denote, or the error for which they are refused. -/
theorem decode_eq_iff (line : Nat) (text : List Char) :
    (∀ result, decode line text = result ↔ Decodes line text result) ∧
      ((∃ kept, decode line text = .ok (.unknown kept)) ↔
        ∀ m operands, ¬ Commands text m operands) ∧
      ∀ m operands, Commands text m operands →
        (∀ i, decode line text = .ok i ↔ Denotes m operands i) ∧
          ∀ e, decode line text = .error e ↔ Refuses line m operands e := by
  refine ⟨fun result => ⟨?_, Decodes.decode_eq⟩, decode_eq_unknown_iff, ?_⟩
  · rintro rfl
    exact decodes_decode line text
  · intro m operands commands
    rw [commands.decode_eq]
    exact ⟨fun i => ofOperands_eq_ok_iff, fun e => ofOperands_eq_error_iff⟩

/-- Of two faults in the operands of LOAD the immediate is reported. -/
example : decode 4 "load R8, 0x10".toList = .error (.invalidImmediate 4 "0x10") := by decide

end Instruction

end TimeShare
