import JobConsole.Proofs.Json.RoundTrip
import JobConsole.Session

namespace JobConsole

theorem parseMessage_eq_ok {payload : String} {message : Json} :
    parseMessage payload = .ok message ↔ Json.parse payload = .ok message := by
  unfold parseMessage
  split
  · next same => simp [same]
  · next same => simp [same]

/-- The break that ends a line is the one that is removed, whatever the line ends with. -/
theorem withoutBreak_lineBreak (line : String) : withoutBreak (line ++ lineBreak) = line := by
  simp [withoutBreak]

/-- A message that has no float is read back from its raw line, members in their order, and so it is
from the text of the entry that an open session makes of its payload; the line has no control
character, and no space outside string literals. -/
theorem raw_line_keeps_message {payload : String} {message : Json}
    (h : parseMessage payload = .ok message) (noFloat : message.hasFloat = false) :
    parseMessage (renderMessage .raw message) = .ok message ∧
      (∀ c ∈ (renderMessage .raw message).toList, 0x20 ≤ c.toNat) ∧
      ' ' ∉ Json.outsideLiterals (renderMessage .raw message).toList ∧
      ∀ (σ : Type) [CommandSink σ] (session : Session σ) (log : Log),
        session.state = .opened → session.mode = .raw →
          ∃ entry, (session.handleMessage log payload).2.1.entries = log.entries ++ [entry] ∧
            parseMessage entry.text = .ok message ∧ renderMessage .raw message = entry.text := by
  have readable := Json.parse_readable (parseMessage_eq_ok.mp h)
  have back : parseMessage (renderMessage .raw message) = .ok message :=
    parseMessage_eq_ok.mpr (Json.parse_render readable noFloat)
  have text : (renderMessage .raw message).toList = message.write := String.toList_ofList
  have neat := message.write_neat
  refine ⟨back, ?_, ?_, ?_⟩
  · rw [text]
    exact neat.printable
  · rw [text, ← List.append_nil message.write]
    apply neat.compact
    simp [Json.outsideLiterals, Json.outsideFrom]
  · intro σ _ session log live raw
    have line : (⟨renderMessage .raw message ++ lineBreak, log.clock⟩ : Entry).text =
        renderMessage .raw message := withoutBreak_lineBreak _
    refine ⟨⟨renderMessage .raw message ++ lineBreak, log.clock⟩, ?_, ?_, line.symm⟩
    · simp [Session.handleMessage, live, h, raw, Log.appendLine, Log.append]
    · rw [line]; exact back

/-- A payload with escapes, a surrogate pair, a key that comes twice, and the outermost integers. -/
def knottyPayload : String :=
  "\x7b \"k\\u0001\\\"\": 1, \"b\": \x7b\x7d,\n \"k\\u0001\\\"\": " ++
    "[18446744073709551615, -9223372036854775808, \"\\ud83d\\ude00 \\/<br/>\"]\x7d"

def knottyLine : String :=
  "\x7b\"k\\u0001\\\"\":[18446744073709551615,-9223372036854775808,\"😀 /<br/>\"]," ++
    "\"b\":\x7b\x7d\x7d"

theorem raw_line_keeps_message_of_knotty :
    ∃ message, parseMessage knottyPayload = .ok message ∧ message.hasFloat = false ∧
      renderMessage .raw message = knottyLine ∧ parseMessage knottyLine = .ok message := by
  have read : (parseMessage knottyPayload).toOption.map
      (fun message => (renderMessage .raw message, message.hasFloat)) =
        some (knottyLine, false) := by
    decide +kernel
  cases h : parseMessage knottyPayload with
  | error e => simp [h, Except.toOption] at read
  | ok message =>
    simp only [h, Except.toOption, Option.map_some, Option.some.injEq, Prod.mk.injEq] at read
    obtain ⟨line, noFloat⟩ := read
    exact ⟨message, rfl, noFloat, line, line ▸ (raw_line_keeps_message h noFloat).1⟩

end JobConsole
