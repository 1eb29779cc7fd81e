import TimeShare.Proofs.Processor.Replay
import TimeShare.Proofs.Program.Notation
import TimeShare.Trace.Event

/-!
# Events are worded on one line

The words of an event are fixed texts and numbers, and what it quotes of a program:
an instruction in its written form, or the line that is kept of an unknown one. A
line of a source has no newline, so no event that a run of a loaded program records
is worded with one (`single_of_mem_run`), and neither is any event of the scheduler
itself (`single_text`).
-/

namespace TimeShare

/-- A text without newlines. -/
def Single (text : String) : Prop :=
  '\n' ∉ text.toList

instance : DecidablePred Single :=
  fun text => inferInstanceAs (Decidable ('\n' ∉ text.toList))

/-! ## Texts put together -/

section Single

theorem single_append_iff {first second : String} :
    Single (first ++ second) ↔ Single first ∧ Single second := by
  rw [Single, String.toList_append, List.mem_append, not_or]
  rfl

theorem single_ofList_iff {text : List Char} : Single (String.ofList text) ↔ '\n' ∉ text := by
  rw [Single, String.toList_ofList]

theorem single_toString_iff {text : String} : Single (toString text) ↔ Single text := Iff.rfl

theorem newline_not_mem_ofInt (value : Int) : '\n' ∉ Text.ofInt value := by
  intro mem
  rcases (Text.numeral_ofInt value).isDigit_or_sign _ mem with digit | sign | sign
  · exact absurd digit (by decide)
  · exact absurd sign (by decide)
  · exact absurd sign (by decide)

theorem single_natural (n : Nat) : Single (toString n) := by
  rw [Single, Nat.toString_eq_repr, Nat.toList_repr]
  exact newline_not_mem_ofInt n

theorem single_integer (value : Int) : Single (toString value) := by
  cases value with
  | ofNat n => exact single_natural n
  | negSucc n => exact single_append_iff.2 ⟨by decide, single_natural (n + 1)⟩

theorem single_register (r : Register) : Single r.text :=
  single_ofList_iff.2 (Instruction.single_of_isWord (Instruction.isWord_register r))

theorem single_padLeft {text : List Char} (single : '\n' ∉ text) (width : Nat) :
    Single (String.ofList (Text.padLeft width text)) := by
  rw [single_ofList_iff, Text.padLeft, List.mem_append, List.mem_replicate, not_or]
  exact ⟨fun blank => absurd blank.2 (by decide), single⟩

theorem single_padRight {text : List Char} (single : '\n' ∉ text) (width : Nat) :
    Single (String.ofList (Text.padRight width text)) := by
  rw [single_ofList_iff, Text.padRight, List.mem_append, List.mem_replicate, not_or]
  exact ⟨single, fun blank => absurd blank.2 (by decide)⟩

end Single

/-! ## Events -/

theorem Instruction.single_effect {instruction : Instruction} (single : '\n' ∉ instruction.chars) :
    Single instruction.effect := by
  cases instruction with
  | arith op rd lhs rhs =>
    have symbol : Single op.symbol := by cases op <;> decide
    simp only [effect, single_append_iff, single_toString_iff, single_register, symbol, true_and,
      and_true]
    decide
  | unknown text =>
    have kept : Single text := single
    simp only [effect, single_append_iff, single_toString_iff, kept]
    decide
  | halt => decide
  | _ =>
    simp only [effect, single_append_iff, single_toString_iff, single_register, single_integer,
      true_and, and_true]
    decide

/-- What an event quotes of a program is on one line. -/
def Processor.Event.QuotesLines : Processor.Event → Prop
  | executed _ instruction _ => '\n' ∉ instruction.chars
  | unknownOpcode _ text => Single text
  | _ => True

theorem Processor.Event.single_text {event : Processor.Event} (quotes : event.QuotesLines) :
    Single event.text := by
  rw [text.eq_def]
  cases event with
  | executed pc instruction result =>
    have digits : '\n' ∉ Text.ofNat pc := newline_not_mem_ofInt pc
    have place := single_padLeft digits positionWidth
    have single : '\n' ∉ instruction.chars := quotes
    cases result with
    | none =>
      dsimp only
      simp only [single_append_iff]
      exact ⟨⟨place, by decide⟩, single_ofList_iff.2 single⟩
    | some value =>
      have written := single_padRight single instructionWidth
      have effect := Instruction.single_effect single
      dsimp only
      simp only [single_append_iff]
      exact ⟨⟨⟨⟨⟨⟨place, by decide⟩, written⟩, by decide⟩, effect⟩, by decide⟩, single_integer _⟩
  | unknownOpcode pc kept =>
    dsimp only
    simp only [single_append_iff]
    exact ⟨⟨⟨by decide, single_natural pc⟩, by decide⟩, quotes⟩
  | _ =>
    dsimp only
    simp only [single_append_iff, single_toString_iff, single_natural, single_integer,
      single_register, and_true]
    decide

/-- The events of the scheduler itself are worded on one line, and so are those of a processor that
quote no more than lines. -/
theorem Event.single_text {event : Event}
    (quotes : ∀ task recorded, event = .ran task recorded → recorded.QuotesLines) :
    Single event.text := by
  rw [text.eq_def]
  cases event with
  | ran task recorded =>
    dsimp only
    simp only [single_append_iff]
    exact ⟨⟨⟨by decide, single_natural _⟩, by decide⟩, recorded.single_text (quotes _ _ rfl)⟩
  | _ =>
    dsimp only
    simp only [single_append_iff, single_toString_iff, single_natural, single_integer, and_true]
    decide

/-! ## Runs of loaded programs -/

namespace Processor

/-- What an instruction on one line records quotes no more than the line. -/
theorem quotesLines_execute {instruction : Instruction} (single : '\n' ∉ instruction.chars)
    (processor : Processor) :
    ∀ event ∈ (processor.execute instruction).events, event.QuotesLines := by
  obtain ⟨after, aside, result, tells, _, events⟩ := execute_tells processor instruction
  rw [events, List.forall_mem_append, List.forall_mem_singleton]
  refine ⟨?_, single⟩
  intro event mem
  obtain rfl := Option.mem_toList.1 mem
  cases tells with
  | unknown text => exact single
  | _ => trivial

theorem quotesLines_runFrom {rest : List Instruction} (single : ∀ i ∈ rest, '\n' ∉ i.chars)
    (poll : Nat → Bool) (executed : Nat) (processor : Processor) :
    ∀ event ∈ (runFrom poll rest executed processor).events, event.QuotesLines := by
  induction rest generalizing executed processor with
  | nil => exact List.forall_mem_singleton.2 trivial
  | cons instruction rest ih =>
    rw [List.forall_mem_cons] at single
    have here := quotesLines_execute single.1 processor
    have joined : ∀ run : Run, (∀ event ∈ run.events, event.QuotesLines) →
        ∀ event ∈ (run.after (processor.execute instruction)).events, event.QuotesLines :=
      fun _ later => List.forall_mem_append.2 ⟨here, later⟩
    rw [runFrom]
    split
    · exact joined _ (List.forall_mem_nil _)
    · split
      · exact joined _ (List.forall_mem_nil _)
      · exact joined _ (ih single.2 _ _)

/-- No event that a run of a loaded program records is worded with a newline. -/
theorem single_of_mem_run {source : String} {program : Program}
    (loaded : Program.ofString source = .ok program) (processor : Processor) (poll : Nat → Bool)
    (task : TaskId) {event : Event} (mem : event ∈ (processor.run program poll).events) :
    Single (TimeShare.Event.ran task event).text := by
  have decoded := (Program.decodeLines_of_ofChars loaded).2
  have inscribed := (Program.holds_of_decodeLines decoded).inscribed fun _ =>
    Text.newline_not_mem_piece
  have single : ∀ i ∈ program.instructions.drop processor.pc, '\n' ∉ i.chars :=
    fun i left => (inscribed i (List.mem_of_mem_drop left)).single
  have quotes := quotesLines_runFrom single poll 0 processor event mem
  refine TimeShare.Event.single_text ?_
  rintro _ _ ⟨⟩
  exact quotes

end Processor

end TimeShare
