import JobConsole.Proofs.RawLines
import JobConsole.Proofs.Wire

namespace JobConsole

open Json

namespace Command

/-- The message that the frame of a command holds. -/
def message (c : Command) : Json := .object [(key, .string c.name)]

theorem message_readable (c : Command) : Readable maxNesting c.message := by
  apply Readable.object
  · simp [DistinctKeys]
  · intro member found
    obtain rfl := List.mem_singleton.mp found
    exact .string c.name

theorem message_hasFloat (c : Command) : c.message.hasFloat = false := by
  simp [message, hasFloat, anyMemberFloat]

theorem encode_eq_render (c : Command) : c.encode = c.message.render := by
  simp [encode, message, render, write, writeMembers]

theorem parse_encode (c : Command) : parse c.encode = .ok c.message := by
  rw [encode_eq_render]
  exact parse_render c.message_readable c.message_hasFloat

/-! ## The decoder -/

theorem readName_writeString (s : String) (rest : List Char) :
    readName (writeString s ++ rest) = .ok (s, rest) := by
  have text : writeString s ++ rest = '"' :: (s.toList.flatMap writeChar ++ ['"'] ++ rest) := by
    simp [writeString]
  rw [text]
  simp only [readName, skipSpace_cons (c := '"') rfl, readString_writeString]

/-- Behind the key of a command stands its name. -/
theorem readValue_name (rounds : Nat) (s : String) (rest : List Char) :
    readValue rounds key none (':' :: (writeString s ++ rest)) = .ok (some s, rest) := by
  have colon : passColon (':' :: (writeString s ++ rest)) = .ok (writeString s ++ rest) := by
    simp [passColon, skipSpace_cons (c := ':') rfl]
  simp [readValue, colon, readName_writeString]

/-- The one member of a command is read in one round. -/
theorem readMembers_name (limit rounds : Nat) (atEnd : Flaw) (s : String) :
    readMembers limit (rounds + 1) atEnd none
        (writeString key ++ ':' :: (writeString s ++ ['}'])) = .ok (⟨s⟩, []) := by
  have first : readKey atEnd (writeString key ++ ':' :: (writeString s ++ ['}'])) =
      .ok (key, ':' :: (writeString s ++ ['}'])) :=
    readString_writeString key _
  simp only [readMembers, first, readValue_name, skipSpace_cons (c := '}') rfl, ofName]

/-- A command is read back from its frame. -/
theorem decode_encode (c : Command) : decode c.encode = .ok c := by
  have whole : read (c.encode.toList.length + 1) c.encode.toList = .ok (c, []) := by
    generalize c.encode.toList.length = rounds
    rw [encode, String.toList_ofList]
    exact readMembers_name (rounds + 1) rounds .endInObject c.name
  simp only [decode, whole]
  rfl

/-- Distinct commands have distinct frames. -/
theorem encode_injective : Function.Injective encode := by
  intro c d same
  have read : decode c.encode = decode d.encode := congrArg decode same
  simpa [decode_encode] using read

end Command

/-- A text that a client sends is queued as its frame behind all that is queued; a text that is not
sent leaves the queue. -/
theorem Client.submit_queues (c : Client) (text : String) :
    ((c.submit text).2 = .ok true ∧ ∃ sink, c.sink? = some sink ∧
        (c.submit text).1.sink? =
          some { sink with queue := sink.queue ++ [.text (Command.encode ⟨text⟩)] }) ∨
      ((c.submit text).2 ≠ .ok true ∧ (c.submit text).1.sink? = c.sink?) := by
  obtain ⟨sent, sink, found, connected, queued⟩ | kept :=
    send_sink { c with log := c.log.setInput text } text
  · rw [Traffic.sendText_connected connected] at queued
    exact .inl ⟨sent, sink, found, queued⟩
  · exact .inr kept

/-- Every text has a frame. It is the raw line of the message with the one member `command`, whose
value is the text, and is read as this message and as the command of the text; no other text has the
same frame, and no control character stands in it. It is what is queued when a user submits the text
and the text is sent. -/
theorem command_frame_round_trip (text : String) :
    let frame := Command.encode ⟨text⟩
    let message := Json.object [("command", .string text)]
    frame = renderMessage .raw message ∧
    parseMessage frame = .ok message ∧
    Command.decode frame = .ok ⟨text⟩ ∧
    (∀ other, Command.encode ⟨other⟩ = frame ↔ other = text) ∧
    (∀ c ∈ frame.toList, 0x20 ≤ c.toNat) ∧
    ∀ c : Client,
      ((c.submit text).2 = .ok true ∧ ∃ sink, c.sink? = some sink ∧
        (c.submit text).1.sink? = some { sink with queue := sink.queue ++ [.text frame] }) ∨
      ((c.submit text).2 ≠ .ok true ∧ (c.submit text).1.sink? = c.sink?) := by
  intro frame message
  have raw : frame = message.render := Command.encode_eq_render ⟨text⟩
  refine ⟨raw, parseMessage_eq_ok.mpr (Command.parse_encode ⟨text⟩), Command.decode_encode ⟨text⟩,
    ?_, ?_, fun c => c.submit_queues text⟩
  · intro other
    constructor
    · intro same
      exact congrArg Command.name (Command.encode_injective same)
    · rintro rfl
      rfl
  · rw [raw, render, String.toList_ofList]
    exact message.write_neat.printable

example : Command.encode ⟨"say \"hi\"\\\n\x01😀"⟩ =
    "\x7b\"command\":\"say \\\"hi\\\"\\\\\\n\\u0001😀\"\x7d" := by
  decide +kernel

end JobConsole
