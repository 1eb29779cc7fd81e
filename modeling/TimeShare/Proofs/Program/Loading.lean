import Mathlib.Data.List.Forall2
import TimeShare.Program
import TimeShare.Proofs.Instruction.Grammar
import TimeShare.Proofs.Text.Lines

/-!
# Loading a program

A program is loaded line by line, and what a line holds does not depend on the
others: `ofChars_append` puts the program of two texts with a newline between them
together from the programs of the two. The number of a line is only for its
errors, so the second text is loaded under higher numbers and fails with a higher
number (`decodeLines_add`).

`Skipped` says which lines hold no instruction, and `Fails` which lines cannot be
loaded. `loading_composes` says what this means for inserted lines, for the
endings of lines, and for the line that an error names.
-/

namespace TimeShare

/-- The number of the line that an error is about; a file has none. -/
def LoadError.line? : LoadError → Option Nat
  | operandCount line _ _ _ => some line
  | invalidRegister line _ => some line
  | invalidImmediate line _ => some line
  | unreadable _ _ => none

namespace Instruction

variable {line : Nat} {text : List Char} {operands : List (List Char)} {m : Mnemonic}
  {e : LoadError} {result : Except LoadError Instruction}

/-! ## The number of a line -/

/-- Under another number operands are refused with that number in the error. -/
theorem Refuses.shift (refuses : Refuses line m operands e) (offset : Nat) :
    Refuses (line + offset) m operands (e.shift offset) := by
  cases refuses with
  | count wrong => exact .count wrong
  | immediate bad => exact .immediate bad
  | loadRegister bad isImmediate => exact .loadRegister bad isImmediate
  | register other takes firstBad => exact .register other takes firstBad

theorem Refuses.line? (refuses : Refuses line m operands e) : e.line? = some line := by
  cases refuses <;> rfl

/-- The number of a line is only for its errors. -/
theorem Decodes.shift (decodes : Decodes line text result) (offset : Nat) :
    Decodes (line + offset) text (result.mapError (LoadError.shift offset)) := by
  cases decodes with
  | nothing cut => exact .nothing cut
  | unknown cut strange trimmed => exact .unknown cut strange trimmed
  | denoted commands denotes => exact .denoted commands denotes
  | refused commands refuses => exact .refused commands (refuses.shift offset)

theorem decode_add (line offset : Nat) (text : List Char) :
    decode (line + offset) text = (decode line text).mapError (LoadError.shift offset) :=
  ((decodes_decode line text).shift offset).decode_eq

/-- Decoding fails with the number of the line. -/
theorem line?_of_decode (failed : decode line text = .error e) : e.line? = some line := by
  have decodes : Decodes line text (.error e) := failed ▸ decodes_decode line text
  cases decodes with
  | refused _ refuses => exact refuses.line?

end Instruction

namespace Program

open Text

variable {line : List Char} {lines lines' : List (List Char)} {number : Nat}
  {e : LoadError} {instructions : List Instruction}

/-! ## Lines without an instruction -/

/-- A line that holds no instruction: nothing but blanks, or a comment, which begins with `;` or
`#` behind blanks. -/
inductive Skipped : List Char → Prop
  | blank {line : List Char} : (∀ c ∈ line, isBlank c = true) → Skipped line
  | comment {lead rest : List Char} {mark : Char} : (∀ c ∈ lead, isBlank c = true) →
    mark = ';' ∨ mark = '#' → Skipped (lead ++ mark :: rest)

theorem skipped_of_isCode (skip : isCode (trim line) = false) : Skipped line := by
  obtain ⟨_, lead, trail, blank, blank', split⟩ := trimmed_trim line
  cases core : trim line with
  | nil =>
    rw [core, List.nil_append] at split
    rw [split]
    exact .blank (List.forall_mem_append.2 ⟨blank, blank'⟩)
  | cons mark rest =>
    rw [core] at skip split
    have marks : mark = ';' ∨ mark = '#' := by
      simpa [isCode, ← Classical.or_iff_not_imp_left] using skip
    rw [split, List.cons_append]
    exact .comment blank marks

/-- What a mark begins is not trimmed off. -/
theorem trim_comment {lead rest : List Char} {mark : Char} (blank : ∀ c ∈ lead, isBlank c = true)
    (visible : isBlank mark = false) :
    trim (lead ++ mark :: rest) = mark :: trimEnd rest := by
  have first : ∀ c ∈ (mark :: rest).head?, isBlank c = false := by
    intro c head
    obtain rfl := Option.some.inj head
    exact visible
  obtain ⟨trail, blank', split⟩ := exists_trimEnd rest
  rw [trim, trimStart_append blank, trimStart_of_first first]
  conv_lhs => rw [split, ← List.cons_append, trimEnd_append blank']
  refine trimEnd_of_last fun c last => ?_
  cases kept : trimEnd rest with
  | nil =>
    rw [kept] at last
    obtain rfl := Option.some.inj last
    exact visible
  | cons d core =>
    have same : (mark :: trimEnd rest).getLast? = (trimEnd rest).getLast? := by
      rw [kept, List.getLast?_cons_cons]
    rw [same] at last
    exact last_trimEnd rest c last

theorem isCode_trim_eq_false_iff : isCode (trim line) = false ↔ Skipped line := by
  refine ⟨skipped_of_isCode, fun skipped => ?_⟩
  cases skipped with
  | blank blank =>
    have nothing := trim_append blank []
    rw [List.nil_append] at nothing
    rw [nothing]
    rfl
  | comment blank marks =>
    rcases marks with rfl | rfl
    · rw [trim_comment blank rfl]
      rfl
    · rw [trim_comment blank rfl]
      rfl

theorem isCode_trim_iff : isCode (trim line) = true ↔ ¬ Skipped line := by
  rw [← isCode_trim_eq_false_iff, Bool.not_eq_false]

/-! ## Lines in order -/

theorem decodeLines_skip (skip : isCode (trim line) = false) :
    decodeLines number (line :: lines) = decodeLines (number + 1) lines :=
  if_neg (Bool.eq_false_iff.1 skip)

theorem decodeLines_code (code : isCode (trim line) = true) :
    decodeLines number (line :: lines) = (do
      let instruction ← Instruction.decode number (trim line)
      let instructions ← decodeLines (number + 1) lines
      return instruction :: instructions) :=
  if_pos code

/-- What lines hold, if every line that is not skipped decodes; the first line has the given
number. -/
inductive Holds : Nat → List (List Char) → List Instruction → Prop
  | nil {number : Nat} : Holds number [] []
  | skip {number : Nat} {line : List Char} {lines : List (List Char)}
    {instructions : List Instruction} : isCode (trim line) = false →
    Holds (number + 1) lines instructions → Holds number (line :: lines) instructions
  | code {number : Nat} {line : List Char} {lines : List (List Char)} {instruction : Instruction}
    {instructions : List Instruction} : isCode (trim line) = true →
    Instruction.decode number (trim line) = .ok instruction →
    Holds (number + 1) lines instructions →
    Holds number (line :: lines) (instruction :: instructions)

theorem holds_of_decodeLines (decoded : decodeLines number lines = .ok instructions) :
    Holds number lines instructions := by
  induction lines generalizing number instructions with
  | nil =>
    obtain rfl := Except.ok.inj decoded
    exact .nil
  | cons line lines ih =>
    cases code : isCode (trim line) with
    | false =>
      rw [decodeLines_skip code] at decoded
      exact .skip code (ih decoded)
    | true =>
      rw [decodeLines_code code] at decoded
      cases here : Instruction.decode number (trim line) with
      | error e =>
        rw [here] at decoded
        cases decoded
      | ok instruction =>
        cases later : decodeLines (number + 1) lines with
        | error e =>
          rw [here, later] at decoded
          cases decoded
        | ok others =>
          rw [here, later] at decoded
          obtain rfl := Except.ok.inj decoded
          exact .code code here (ih later)

/-- Lines are loaded one after another. -/
theorem decodeLines_append (number : Nat) (front back : List (List Char)) :
    decodeLines number (front ++ back) = (do
      let first ← decodeLines number front
      let second ← decodeLines (number + front.length) back
      return first ++ second) := by
  induction front generalizing number with
  | nil =>
    rw [List.nil_append, List.length_nil, Nat.add_zero]
    cases decodeLines number back <;> rfl
  | cons line front ih =>
    have next : number + (line :: front).length = number + 1 + front.length := by
      rw [List.length_cons]
      omega
    rw [List.cons_append, next]
    cases code : isCode (trim line) with
    | false => rw [decodeLines_skip code, decodeLines_skip code, ih]
    | true =>
      rw [decodeLines_code code, decodeLines_code code, ih]
      cases Instruction.decode number (trim line) with
      | error e => rfl
      | ok instruction =>
        cases decodeLines (number + 1) front with
        | error e => rfl
        | ok first => cases decodeLines (number + 1 + front.length) back <;> rfl

/-- Under higher numbers lines hold the same instructions and fail with higher numbers. -/
theorem decodeLines_add (number offset : Nat) (lines : List (List Char)) :
    decodeLines (number + offset) lines =
      (decodeLines number lines).mapError (LoadError.shift offset) := by
  induction lines generalizing number with
  | nil => rfl
  | cons line lines ih =>
    have next : number + offset + 1 = number + 1 + offset := Nat.add_right_comm ..
    cases code : isCode (trim line) with
    | false => rw [decodeLines_skip code, decodeLines_skip code, next, ih]
    | true =>
      rw [decodeLines_code code, decodeLines_code code, next, ih, Instruction.decode_add]
      cases Instruction.decode number (trim line) with
      | error e => rfl
      | ok instruction => cases decodeLines (number + 1) lines <;> rfl

/-- Blanks at the ends of lines do not matter. -/
theorem decodeLines_congr
    (same : List.Forall₂ (fun line line' => trim line = trim line') lines lines')
    (number : Nat) : decodeLines number lines = decodeLines number lines' := by
  induction same generalizing number with
  | nil => rfl
  | @cons line line' lines lines' same _ ih =>
    cases code : isCode (trim line') with
    | false => rw [decodeLines_skip (same ▸ code), decodeLines_skip code, ih]
    | true => rw [decodeLines_code (same ▸ code), decodeLines_code code, same, ih]

theorem decodeLines_linesOfPieces (number : Nat) (pieces : List (List Char)) :
    decodeLines number (linesOfPieces pieces) = decodeLines number pieces := by
  induction pieces using linesOfPieces.induct generalizing number with
  | case1 => rfl
  | case2 => rfl
  | case3 last some_left => rw [linesOfPieces, if_neg some_left]
  | case4 piece next rest ih =>
    rw [linesOfPieces]
    cases code : isCode (trim piece) with
    | false =>
      have code' := code
      rw [← trim_dropReturn] at code'
      rw [decodeLines_skip code', decodeLines_skip code, ih]
    | true =>
      have code' := code
      rw [← trim_dropReturn] at code'
      rw [decodeLines_code code', decodeLines_code code, trim_dropReturn, ih]

/-! ## Lines that fail -/

theorem map_eq_error_iff {α β ε : Type} {f : α → β} {result : Except ε α} {e : ε} :
    result.map f = .error e ↔ result = .error e := by
  cases result with
  | error e' => simp only [Except.map, Except.error.injEq]
  | ok a => exact iff_of_false nofun nofun

/-- A line that is not skipped, and whose decoding under a number, without the blanks at its ends,
fails with an error. -/
def Fails (number : Nat) (line : List Char) (e : LoadError) : Prop :=
  ¬ Skipped line ∧ Instruction.decode number (trim line) = .error e

/-- A line that does not fail, whatever its number. -/
def Loadable (line : List Char) : Prop :=
  ∀ number e, ¬ Fails number line e

theorem Fails.decodeLines_eq (fails : Fails number line e) (lines : List (List Char)) :
    decodeLines number (line :: lines) = .error e := by
  obtain ⟨kept, failed⟩ := fails
  rw [decodeLines_code (isCode_trim_iff.2 kept), failed]
  rfl

/-- A line fails under every number or under none. -/
theorem loadable_of_not_fails (loads : ∀ e, ¬ Fails number line e) : Loadable line := by
  intro number' e ⟨kept, failed⟩
  have raised := Instruction.decode_add number' number (trim line)
  rw [Nat.add_comm, Instruction.decode_add number number', failed] at raised
  cases decoded : Instruction.decode number (trim line) with
  | error e' => exact loads e' ⟨kept, decoded⟩
  | ok instruction =>
    rw [decoded] at raised
    cases raised

/-- A line that does not fail adds what it holds to what the other lines hold. -/
theorem Loadable.decodeLines_eq (loads : Loadable line) (number : Nat) :
    ∃ held, ∀ lines,
      decodeLines number (line :: lines) = (decodeLines (number + 1) lines).map (held ++ ·) := by
  cases code : isCode (trim line) with
  | false =>
    refine ⟨[], fun lines => ?_⟩
    rw [decodeLines_skip code]
    cases decodeLines (number + 1) lines <;> rfl
  | true =>
    cases decoded : Instruction.decode number (trim line) with
    | error e => exact absurd ⟨isCode_trim_iff.1 code, decoded⟩ (loads number e)
    | ok instruction =>
      refine ⟨[instruction], fun lines => ?_⟩
      rw [decodeLines_code code, decoded]
      cases decodeLines (number + 1) lines <;> rfl

theorem exists_decodeLines (load : ∀ line ∈ lines, Loadable line) (number : Nat) :
    ∃ instructions, decodeLines number lines = .ok instructions := by
  induction lines generalizing number with
  | nil => exact ⟨[], rfl⟩
  | cons line lines ih =>
    rw [List.forall_mem_cons] at load
    obtain ⟨held, adds⟩ := load.1.decodeLines_eq number
    obtain ⟨later, decoded⟩ := ih load.2 (number + 1)
    exact ⟨held ++ later, by rw [adds, decoded]; rfl⟩

/-- Loading fails where the first line fails, and as it fails there. -/
theorem decodeLines_eq_error_iff :
    decodeLines number lines = .error e ↔ ∃ front line back, lines = front ++ line :: back ∧
      (∀ earlier ∈ front, Loadable earlier) ∧ Fails (number + front.length) line e := by
  constructor
  · intro failed
    induction lines generalizing number with
    | nil => cases failed
    | cons line lines ih =>
      by_cases loads : ∀ e', ¬ Fails number line e'
      · obtain ⟨held, adds⟩ := (loadable_of_not_fails loads).decodeLines_eq number
        have later : decodeLines (number + 1) lines = .error e := by
          rwa [adds, map_eq_error_iff] at failed
        obtain ⟨front, bad, back, rfl, load, fails⟩ := ih later
        refine ⟨line :: front, bad, back, rfl, ?_, ?_⟩
        · exact List.forall_mem_cons.2 ⟨loadable_of_not_fails loads, load⟩
        · rw [List.length_cons, Nat.add_comm front.length, ← Nat.add_assoc]
          exact fails
      · obtain ⟨e', fails⟩ := not_forall_not.1 loads
        obtain rfl := Except.error.inj ((fails.decodeLines_eq lines).symm.trans failed)
        exact ⟨[], line, lines, rfl, nofun, fails⟩
  · rintro ⟨front, line, back, rfl, load, fails⟩
    obtain ⟨instructions, decoded⟩ := exists_decodeLines load number
    rw [decodeLines_append, decoded, fails.decodeLines_eq back]
    rfl

/-! ## Texts -/

/-- A program is loaded from the pieces of its text as from its lines. -/
theorem ofChars_eq (source : List Char) :
    ofChars source = (decodeLines 1 (source.splitOn '\n')).map Program.mk := by
  rw [ofChars, ofLines, Text.lines, decodeLines_linesOfPieces]

/-- The program of two texts with a newline between them. -/
theorem ofChars_append (a b : List Char) :
    ofChars (a ++ '\n' :: b) =
      match ofChars a, ofChars b with
      | .error e, _ => .error e
      | .ok _, .error e => .error (e.shift (1 + a.count '\n'))
      | .ok p, .ok q => .ok ⟨p.instructions ++ q.instructions⟩ := by
  rw [ofChars_eq, ofChars_eq, ofChars_eq, List.splitOn_append_cons_self, decodeLines_append,
    length_pieces, decodeLines_add, Nat.add_comm 1]
  cases decodeLines 1 (a.splitOn '\n') with
  | error e => rfl
  | ok first => cases decodeLines 1 (b.splitOn '\n') <;> rfl

/-- A line without an instruction makes an empty program. -/
theorem Skipped.ofChars_eq (skipped : Skipped line) (single : '\n' ∉ line) :
    ofChars line = .ok ⟨[]⟩ := by
  rw [Program.ofChars_eq, List.splitOn_eq_singleton single,
    decodeLines_skip (isCode_trim_eq_false_iff.2 skipped)]
  rfl

theorem ofChars_recoded {text recoded : List Char} (h : Recoded text recoded) :
    ofChars recoded = ofChars text := by
  have same : List.Forall₂ (fun line line' => trim line = trim line') (text.splitOn '\n')
      (recoded.splitOn '\n') := by
    refine h.pieces.imp fun piece piece' related => ?_
    rcases related with rfl | rfl
    · rfl
    · exact (trim_append blank_return piece).symm
  rw [ofChars_eq, ofChars_eq, decodeLines_congr same]

theorem ofChars_eq_error_iff {source : List Char} :
    ofChars source = .error e ↔ decodeLines 1 (Text.lines source) = .error e := by
  rw [ofChars, ofLines, map_eq_error_iff]

/-- A program is put together from the programs of the parts of its text, which fail under the
numbers that their lines have in the whole. So it does not change with a line put in that holds no
instruction, or with another way to end lines; and the error is that of the first line that fails,
with the number of that line among all lines, counted from one. -/
theorem loading_composes :
    (∀ a b : List Char, ofChars (a ++ '\n' :: b) =
      match ofChars a, ofChars b with
      | .error e, _ => .error e
      | .ok _, .error e => .error (e.shift (1 + a.count '\n'))
      | .ok p, .ok q => .ok ⟨p.instructions ++ q.instructions⟩) ∧
    (∀ (a line b : List Char) (p : Program), Skipped line → '\n' ∉ line →
      (ofChars (a ++ '\n' :: (line ++ '\n' :: b)) = .ok p ↔ ofChars (a ++ '\n' :: b) = .ok p)) ∧
    (∀ text recoded : List Char, Recoded text recoded → ofChars recoded = ofChars text) ∧
    ∀ (source : List Char) (e : LoadError), ofChars source = .error e ↔
      ∃ front line back, Text.lines source = front ++ line :: back ∧
        (∀ earlier ∈ front, Loadable earlier) ∧ Fails (front.length + 1) line e ∧
        e.line? = some (front.length + 1) := by
  refine ⟨ofChars_append, ?_, fun text recoded => ofChars_recoded, ?_⟩
  · intro a line b p skipped single
    rw [ofChars_append, ofChars_append, ofChars_append, skipped.ofChars_eq single]
    cases ofChars a with
    | error e => exact Iff.rfl
    | ok first =>
      cases ofChars b with
      | error e => exact iff_of_false nofun nofun
      | ok second => exact Iff.rfl
  · intro source e
    rw [ofChars_eq_error_iff, decodeLines_eq_error_iff]
    constructor
    · rintro ⟨front, line, back, whole, load, fails⟩
      rw [Nat.add_comm] at fails
      exact ⟨front, line, back, whole, load, fails, Instruction.line?_of_decode fails.2⟩
    · rintro ⟨front, line, back, whole, load, fails, _⟩
      rw [Nat.add_comm] at fails
      exact ⟨front, line, back, whole, load, fails⟩

/-- Skipped lines count in the number of the line that fails. -/
example : ofChars "; sum\r\nLOAD R0, 1\n\nPOP".toList =
    .error (.operandCount 4 "POP" "1" 0) := by decide

end Program

end TimeShare
