import TimeShare.Proofs.Instruction.Notation
import TimeShare.Proofs.Program.Loading

/-!
# The written form of a program

A loaded program is written with one instruction on a line, and what is written
loads to the same program: every instruction stands on its line as the loader
would leave it (`Inscribed`), so no line is cut, trimmed or taken for a comment.
The one exception is the instruction that is kept of a line of commas and blanks.
Its text is empty, and an empty line holds no instruction.

* `inscribed_of_decode`: what a line decodes to is inscribed.
* `decodeLines_chars`: written instructions load again, the empty ones apart.
* `count_empty`: where the empty ones come from.
-/

namespace TimeShare

open Text

namespace Instruction

variable {line : Nat} {text word : List Char} {i : Instruction}

/-- An instruction that fills its line: it is written on one line, which has no blanks at its ends,
is no comment, and decodes to the instruction. -/
structure Inscribed (i : Instruction) : Prop where
  single : '\n' ∉ i.chars
  isTrim : IsTrim i.chars
  isCode : i ≠ .unknown "" → Program.isCode i.chars = true
  decoded : ∀ line, decode line i.chars = .ok i

/-! ## Instructions of the set -/

theorem single_of_isWord (isWord : IsWord isSeparator word) : '\n' ∉ word :=
  fun newline => absurd (isWord.inside '\n' newline) (by decide)

theorem isBlank_of_isWord (isWord : IsWord isSeparator word) : ∀ c ∈ word, isBlank c = false := by
  intro c mem
  have inside := isWord.inside c mem
  rw [isSeparator, Bool.or_eq_false_iff] at inside
  exact inside.1

/-- An instruction of the set is written from its mnemonic to some last word. -/
theorem exists_chars (real : ∀ kept, i ≠ .unknown kept) :
    (∃ (m : Mnemonic) (rest : List Char), i.chars = m.text.toList ++ rest) ∧
      ∃ front last, i.chars = front ++ last ∧ '\n' ∉ front ∧ IsWord isSeparator last := by
  have register : ∀ r : Register, '\n' ∉ r.chars := fun r => single_of_isWord (isWord_register r)
  cases i with
  | load rd imm =>
    refine ⟨⟨.load, _, chars_load rd imm⟩, _, _, rfl, ?_, isWord_numeral (numeral_ofInt imm.toInt)⟩
    simp [register rd]
  | arith op rd lhs rhs =>
    have mnemonic : '\n' ∉ op.mnemonic.toList := single_of_isWord (isWord_mnemonic (.arith op))
    by_cases same : lhs = rd
    · subst same
      refine ⟨⟨.arith op, _, chars_arith_self op lhs rhs⟩, _, _, if_pos rfl, ?_,
        isWord_register rhs⟩
      simp [mnemonic, register lhs]
    · refine ⟨⟨.arith op, _, chars_arith_of_ne same op rhs⟩, _, _, if_neg same, ?_,
        isWord_register rhs⟩
      simp [mnemonic, register rd, register lhs]
  | push rs => exact ⟨⟨.push, _, rfl⟩, _, _, rfl, by decide, isWord_register rs⟩
  | pop rd => exact ⟨⟨.pop, _, rfl⟩, _, _, rfl, by decide, isWord_register rd⟩
  | halt => exact ⟨⟨.halt, [], rfl⟩, [], _, rfl, List.not_mem_nil, isWord_mnemonic .halt⟩
  | unknown kept => exact absurd rfl (real kept)

/-- A mnemonic begins with a letter. -/
theorem isCode_mnemonic (m : Mnemonic) (rest : List Char) :
    Program.isCode (m.text.toList ++ rest) = true := by
  cases m with
  | arith op => cases op <;> rfl
  | _ => rfl

theorem inscribed_of_real (real : ∀ kept, i ≠ .unknown kept) : Inscribed i := by
  obtain ⟨⟨m, rest, begins⟩, front, last, ends, single, isWord⟩ := exists_chars real
  refine ⟨?_, ⟨?_, ?_⟩, ?_, decode_chars_of_real real⟩
  · rw [ends, List.mem_append, not_or]
    exact ⟨single, single_of_isWord isWord⟩
  · rw [begins, List.head?_append_of_ne_nil _ (isWord_mnemonic m).ne_nil]
    exact fun c first => isBlank_of_isWord (isWord_mnemonic m) c (List.mem_of_mem_head? first)
  · rw [ends, List.getLast?_append_of_ne_nil _ isWord.ne_nil]
    exact fun c final => isBlank_of_isWord isWord c (List.mem_of_mem_getLast? final)
  · intro _
    rw [begins]
    exact isCode_mnemonic m rest

/-! ## Lines that are kept -/

/-- Of a line without blanks at its ends all is kept, or nothing if it has no words. -/
theorem kept_of_decode (isTrim : IsTrim text) {kept : String}
    (decoded : decode line text = .ok (.unknown kept)) : kept = "" ∨ kept.toList = text := by
  have decodes : Decodes line text (.ok (.unknown kept)) := decoded ▸ decodes_decode line text
  cases decodes with
  | nothing _ => exact .inl rfl
  | unknown _ _ trimmed =>
    rw [String.toList_ofList, ← trimmed.trim_eq]
    exact .inr isTrim.trimmed.trim_eq
  | denoted _ denotes => cases denotes

/-- What a line decodes to is inscribed. -/
theorem inscribed_of_decode (single : '\n' ∉ text) (isTrim : IsTrim text)
    (isCode : Program.isCode text = true) (decoded : decode line text = .ok i) : Inscribed i := by
  by_cases known : ∃ kept, i = .unknown kept
  · obtain ⟨kept, rfl⟩ := known
    rcases kept_of_decode isTrim decoded with rfl | whole
    · exact ⟨List.not_mem_nil, ⟨nofun, nofun⟩, fun filled => absurd rfl filled,
        decode_chars decoded⟩
    · have written : (unknown kept).chars = text := whole
      refine ⟨?_, ?_, ?_, decode_chars decoded⟩
      · rwa [written]
      · rwa [written]
      · rw [written]
        exact fun _ => isCode
  · exact inscribed_of_real (not_exists.1 known)

/-- The empty text is kept of the lines that have no words. -/
theorem decode_eq_empty_iff :
    decode line text = .ok (.unknown "") ↔ words isSeparator text = [] := by
  constructor
  · intro decoded
    have trimmed := words_of_trimmed (trimmed_trim text)
    cases found : words isSeparator text with
    | nil => rfl
    | cons first others =>
      simp only [decode, found] at decoded
      split at decoded
      · cases ofOperands_eq_ok_iff.1 decoded
      · have kept : String.ofList (trim text) = "" :=
          Instruction.unknown.inj (Except.ok.inj decoded)
        have nothing : trim text = [] := by
          have characters := congrArg String.toList kept
          rwa [String.toList_ofList] at characters
        rwa [found, nothing, words_nil] at trimmed
  · intro none
    rw [decode, none]

end Instruction

namespace Program

open Instruction (isSeparator Inscribed)

variable {line : List Char} {lines : List (List Char)} {number : Nat} {p : Program}
  {instructions : List Instruction}

/-! ## Lines of commas -/

/-- A line of nothing but commas and blanks, with a comma in it. -/
def Bare (line : List Char) : Prop :=
  (∀ c ∈ line, c = ',' ∨ isBlank c = true) ∧ ',' ∈ line

instance : DecidablePred Bare :=
  fun _ => inferInstanceAs (Decidable (_ ∧ _))

/-- A line has no words if there are only commas and blanks on it. -/
theorem words_eq_nil_iff :
    words isSeparator line = [] ↔ ∀ c ∈ line, c = ',' ∨ isBlank c = true := by
  have separates : ∀ c, isSeparator c = true ↔ c = ',' ∨ isBlank c = true := by
    intro c
    rw [isSeparator, Bool.or_eq_true, decide_eq_true_eq, or_comm]
  simp only [← separates]
  rw [words_eq_iff]
  constructor
  · intro cut
    cases cut with
    | nothing gap => exact gap
  · exact .nothing

theorem bare_iff : Bare line ↔ isCode (trim line) = true ∧ words isSeparator (trim line) = [] := by
  rw [← Instruction.words_of_trimmed (trimmed_trim line), words_eq_nil_iff, and_comm, Bare]
  refine and_congr_right fun separators => ?_
  rw [isCode_trim_iff]
  constructor
  · intro comma skipped
    cases skipped with
    | blank blank => exact absurd (blank ',' comma) (by decide)
    | @comment _ _ mark _ marks =>
      have mem := separators mark (List.mem_append_right _ List.mem_cons_self)
      rcases marks with rfl | rfl
      · exact absurd mem (by decide)
      · exact absurd mem (by decide)
  · intro kept
    by_contra no_comma
    refine kept (.blank fun c mem => (separators c mem).resolve_left ?_)
    rintro rfl
    exact no_comma mem

/-- Each line of commas holds an unknown instruction with the empty text, and no other line does. -/
theorem Holds.count_empty (holds : Holds number lines instructions) :
    instructions.count (.unknown "") = lines.countP (Bare ·) := by
  induction holds with
  | nil => rfl
  | @skip _ line _ _ skip _ ih =>
    have filled : ¬ Bare line := by
      rw [bare_iff, skip]
      exact fun both => nomatch both.1
    rw [List.countP_cons_of_neg (by simpa using filled), ih]
  | @code _ line _ instruction _ code decoded _ ih =>
    have here : instruction = .unknown "" ↔ Bare line := by
      rw [bare_iff, ← Instruction.decode_eq_empty_iff, decoded, Except.ok.injEq]
      exact (and_iff_right code).symm
    rw [List.count_cons, List.countP_cons, ih]
    simp only [beq_iff_eq, decide_eq_true_eq, here]

/-! ## Written programs -/

/-- Lines without newlines hold inscribed instructions. -/
theorem Holds.inscribed (holds : Holds number lines instructions)
    (single : ∀ line ∈ lines, '\n' ∉ line) : ∀ i ∈ instructions, Inscribed i := by
  induction holds with
  | nil => exact nofun
  | skip _ _ ih => exact ih fun line mem => single line (List.mem_cons_of_mem _ mem)
  | @code _ line _ _ _ code decoded _ ih =>
    rw [List.forall_mem_cons]
    refine ⟨?_, ih fun line mem => single line (List.mem_cons_of_mem _ mem)⟩
    have trimmed : '\n' ∉ trim line := fun mem =>
      single line List.mem_cons_self (mem_of_mem_trim mem)
    exact Instruction.inscribed_of_decode trimmed (trimmed_trim line).1 code decoded

/-- Inscribed instructions load again from their lines, but for the empty one, whose line is
skipped. -/
theorem decodeLines_chars (inscribed : ∀ i ∈ instructions, Inscribed i) (number : Nat) :
    decodeLines number (instructions.map Instruction.chars) =
      .ok (instructions.filter (· ≠ .unknown "")) := by
  induction instructions generalizing number with
  | nil => rfl
  | cons i instructions ih =>
    rw [List.forall_mem_cons] at inscribed
    obtain ⟨here, later⟩ := inscribed
    rw [List.map_cons]
    by_cases empty : i = .unknown ""
    · subst empty
      rw [decodeLines_skip rfl, ih later]
      rfl
    · have whole : trim i.chars = i.chars := here.isTrim.trimmed.trim_eq
      have code : isCode (trim i.chars) = true := by
        rw [whole]
        exact here.isCode empty
      rw [decodeLines_code code, whole, here.decoded, ih later,
        List.filter_cons_of_pos (by simpa using empty)]
      rfl

/-- A program without the unknown instructions whose text is empty. -/
def filled (p : Program) : Program :=
  ⟨p.instructions.filter (· ≠ .unknown "")⟩

/-- A program of inscribed instructions loads again from its text, but for the empty ones. -/
theorem ofChars_of_inscribed (inscribed : ∀ i ∈ p.instructions, Inscribed i) :
    ofChars p.chars = .ok p.filled := by
  rw [ofChars_eq, chars, filled]
  cases none : p.instructions with
  | nil => rfl
  | cons first rest =>
    rw [none] at inscribed
    have single : ∀ line ∈ (first :: rest).map Instruction.chars, '\n' ∉ line := by
      rw [List.forall_mem_map]
      exact fun i mem => (inscribed i mem).single
    rw [List.splitOn_intercalate '\n' single (List.cons_ne_nil _ _), decodeLines_chars inscribed]
    rfl

theorem filled_filled (p : Program) : p.filled.filled = p.filled := by
  simp only [filled, List.filter_filter, Bool.and_self]

theorem decodeLines_of_ofChars {source : List Char} (loaded : ofChars source = .ok p) :
    decodeLines 1 (Text.lines source) = .ok p.instructions ∧
      decodeLines 1 (source.splitOn '\n') = .ok p.instructions := by
  have same := decodeLines_linesOfPieces 1 (source.splitOn '\n')
  rw [ofChars_eq] at loaded
  cases decoded : decodeLines 1 (source.splitOn '\n') with
  | error e =>
    rw [decoded] at loaded
    cases loaded
  | ok instructions =>
    rw [decoded] at loaded
    obtain rfl := Except.ok.inj loaded
    exact ⟨same.trans decoded, rfl⟩

/-- The text that the program of a text is written as. -/
def rewritten (source : List Char) : Except LoadError (List Char) :=
  (ofChars source).map chars

/-- What a loaded program is written as loads to the program without the unknown instructions of
empty text, of which there is one for each line of commas. So it loads to the same program if there
are no such lines, and its text is then loaded and written as itself; in any case the text that is
written after a second time is. -/
theorem ofChars_chars {source : List Char} {p : Program} (loaded : ofChars source = .ok p) :
    ofChars p.chars = .ok p.filled ∧
      p.instructions.count (.unknown "") = (Text.lines source).countP (Bare ·) ∧
      ((∀ line ∈ Text.lines source, ¬ Bare line) →
        ofChars p.chars = .ok p ∧ rewritten p.chars = .ok p.chars) ∧
      ∃ text, rewritten p.chars = .ok text ∧ ofChars text = .ok p.filled ∧
        rewritten text = .ok text := by
  obtain ⟨byLines, byPieces⟩ := decodeLines_of_ofChars loaded
  have count := (holds_of_decodeLines byLines).count_empty
  have inscribed := (holds_of_decodeLines byPieces).inscribed fun _ => newline_not_mem_piece
  have again := ofChars_of_inscribed inscribed
  refine ⟨again, count, ?_, p.filled.chars, ?_, ?_⟩
  · intro filled
    rw [List.countP_eq_zero.2 (by simpa using filled), List.count_eq_zero] at count
    have all : p.filled = p := by
      refine congrArg mk (List.filter_eq_self.2 fun i mem => decide_eq_true ?_)
      rintro rfl
      exact count mem
    rw [all] at again
    exact ⟨again, by rw [rewritten, again]; rfl⟩
  · rw [rewritten, again]
    rfl
  · have inscribed' : ∀ i ∈ p.filled.instructions, Inscribed i :=
      fun i mem => inscribed i (List.mem_of_mem_filter mem)
    have third := ofChars_of_inscribed inscribed'
    rw [filled_filled] at third
    exact ⟨third, by rw [rewritten, third]; rfl⟩

/-- A line of commas comes back as an empty line, which is gone the next time. -/
theorem ofChars_chars_commas :
    ofChars "; stop\nhalt\r\n, ,\njmp\t#3,".toList =
        .ok ⟨[.halt, .unknown "", .unknown "jmp\t#3,"]⟩ ∧
      ofChars (chars ⟨[.halt, .unknown "", .unknown "jmp\t#3,"]⟩) =
        .ok ⟨[.halt, .unknown "jmp\t#3,"]⟩ ∧
      ∃ text, rewritten (chars ⟨[.halt, .unknown "", .unknown "jmp\t#3,"]⟩) = .ok text ∧
        ofChars text = .ok ⟨[.halt, .unknown "jmp\t#3,"]⟩ ∧ rewritten text = .ok text := by
  have loaded : ofChars "; stop\nhalt\r\n, ,\njmp\t#3,".toList =
      .ok ⟨[.halt, .unknown "", .unknown "jmp\t#3,"]⟩ := by decide
  exact ⟨loaded, (ofChars_chars loaded).1, (ofChars_chars loaded).2.2.2⟩

end Program

end TimeShare
