import TimeShare.Proofs.Record.Event
import TimeShare.Proofs.Text.Lines
import TimeShare.Proofs.Trace.Event
import TimeShare.Trace.Sink

/-!
# A trace of records loses nothing

A sink of records writes one line for each event. No line holds a newline, so the
text is cut into the lines again, each line is read as the members of its event,
and the event is made of them again. `records_lossless` says so, and that
therefore different events leave different texts.
-/

namespace TimeShare

open Json

namespace Event

/-- The line of an event in a trace of records, without its newline. -/
def line (event : Event) : List Char :=
  compactChars event.tokens

theorem no_break_in_line (event : Event) : '\n' ∉ event.line ∧ '\r' ∉ event.line := by
  have plain : ∀ c ∈ event.line, firstPlain ≤ c.toNat := firstPlain_le_of_mem_compactChars
  exact ⟨fun mem => absurd (plain _ mem) (by decide), fun mem => absurd (plain _ mem) (by decide)⟩

theorem jsonLines_eq (events : List Event) :
    jsonLines events = (events.map line).flatMap (· ++ ['\n']) := by
  rw [List.flatMap_map]
  rfl

theorem no_break_in_lines (events : List Event) :
    ∀ written ∈ events.map line, '\n' ∉ written ∧ '\r' ∉ written :=
  List.forall_mem_map.2 fun event _ => event.no_break_in_line

/-- A trace of records has a line for each event, and nothing behind its last newline. -/
theorem splitOn_jsonLines (events : List Event) :
    (jsonLines events).splitOn '\n' = events.map line ++ [[]] := by
  rw [jsonLines_eq]
  exact Text.splitOn_ended fun written mem => (no_break_in_lines events written mem).1

theorem lines_jsonLines (events : List Event) :
    Text.lines (jsonLines events) = events.map line := by
  rw [jsonLines_eq]
  exact Text.lines_ended (no_break_in_lines events)

/-- The line of an event is read as the object of its name and its members. -/
theorem readText_line (event : Event) : Reader.readText Reader.flat (String.ofList event.line) =
    .ok (("event", .string event.name) :: event.fields) := by
  have scalar : ∀ member ∈ ("event", Token.string event.name) :: event.fields,
      member.2.isScalar = true :=
    List.forall_mem_cons.2 ⟨rfl, List.all_eq_true.1 event.isScalar_of_mem_fields⟩
  have written : String.ofList event.line = compact event.tokens := rfl
  rw [written, tokens_eq]
  exact (reads_flat scalar).readText (separate_flatObject _)

/-- The event of a line. -/
def ofLine? (line : List Char) : Option Event :=
  (Reader.readText Reader.flat (String.ofList line)).toOption.bind ofMembers?

theorem ofLine?_line {event : Event} (decoded : event.Decoded) :
    ofLine? event.line = some event := by
  rw [ofLine?, readText_line]
  exact ofMembers?_members decoded

/-- The events of a trace of records. -/
def ofJsonLines? (text : List Char) : Option (List Event) :=
  (Text.lines text).mapM ofLine?

theorem ofJsonLines?_jsonLines {events : List Event} (decoded : ∀ event ∈ events, event.Decoded) :
    ofJsonLines? (jsonLines events) = some events := by
  rw [ofJsonLines?, lines_jsonLines]
  induction events with
  | nil => rfl
  | cons event events ih =>
    rw [List.forall_mem_cons] at decoded
    rw [List.map_cons, List.mapM_cons, ofLine?_line decoded.1, ih decoded.2]
    rfl

/-- The text of a trace tells the trace. -/
theorem jsonLines_injective {events events' : List Event}
    (decoded : ∀ event ∈ events, event.Decoded) (decoded' : ∀ event ∈ events', event.Decoded)
    (same : jsonLines events = jsonLines events') : events = events' := by
  have read := ofJsonLines?_jsonLines decoded
  rw [same, ofJsonLines?_jsonLines decoded'] at read
  exact (Option.some.inj read).symm

end Event

/-- What a sink writes of some events is cut at newlines into a line for each event and nothing
behind the last one. No line holds a newline, and each is read as an object of the event's name and
members. The instruction in the line of an executed one decodes to it if some line does, so the
events are read back from what is written, and different events are written differently. The words
of an event have no newline either if a run of a loaded program recorded it, and those of the
scheduler's own events never have one. -/
theorem records_lossless :
    (∀ events, (Sink.records.written events).splitOn '\n' = events.map Event.line ++ [[]] ∧
        Text.lines (Sink.records.written events) = events.map Event.line) ∧
      (∀ event : Event, '\n' ∉ event.line ∧
        Reader.readText Reader.flat (String.ofList event.line) =
          .ok (("event", .string event.name) :: event.fields)) ∧
      (∀ task pc (instruction : Instruction) result, instruction.Decoded →
        ("instruction", .string instruction.text) ∈
            (Event.ran task (.executed pc instruction result)).fields ∧
          ∀ line, Instruction.decode line instruction.text.toList = .ok instruction) ∧
      (∀ events, (∀ event ∈ events, event.Decoded) →
        Event.ofJsonLines? (Sink.records.written events) = some events) ∧
      (∀ events events', (∀ event ∈ events, event.Decoded) → (∀ event ∈ events', event.Decoded) →
        Sink.records.written events = Sink.records.written events' → events = events') ∧
      (∀ source program, Program.ofString source = .ok program →
        ∀ (processor : Processor) poll task, ∀ event ∈ (processor.run program poll).events,
          Single (Event.ran task event).text) ∧
      ∀ event : Event, (∀ task recorded, event ≠ .ran task recorded) → Single event.text := by
  refine ⟨?_, ?_, ?_, ?_, ?_, ?_, ?_⟩
  · exact fun events => ⟨Event.splitOn_jsonLines events, Event.lines_jsonLines events⟩
  · exact fun event => ⟨event.no_break_in_line.1, event.readText_line⟩
  · intro task pc instruction result decoded
    refine ⟨List.mem_cons_of_mem _ (List.mem_cons_of_mem _ List.mem_cons_self), fun line => ?_⟩
    rw [Instruction.text, String.toList_ofList]
    exact decoded.decode_chars line
  · exact fun events decoded => Event.ofJsonLines?_jsonLines decoded
  · exact fun events events' decoded decoded' => Event.jsonLines_injective decoded decoded'
  · exact fun source program loaded processor poll task event mem =>
      Processor.single_of_mem_run loaded processor poll task mem
  · exact fun event own => event.single_text fun task recorded same =>
      absurd same (own task recorded)

end TimeShare
