import JobConsole.Client
import JobConsole.Proofs.Json.Written

namespace JobConsole

theorem escape_eventSummary_head (event : String) (message : Json) :
    ∃ rest, (Markup.escape (eventSummary event message)).toList = 'e' :: rest := by
  have starts : ∃ rest, (eventSummary event message).toList = 'e' :: rest := by
    unfold eventSummary
    split <;> simp [String.toList_append]
  obtain ⟨rest, h⟩ := starts
  exact ⟨rest.flatMap Markup.escapeChar, by simp [Markup.escape, h, Markup.escapeChar]⟩

/-- The line of a message begins as a value does, or it is a sentence. -/
theorem renderMessage_head (mode : RenderMode) (message : Json) :
    ∃ c rest, (renderMessage mode message).toList = c :: rest ∧
      (Json.startsValue c = true ∨ c = 'e') := by
  have plain : ∃ c rest, message.render.toList = c :: rest ∧
      (Json.startsValue c = true ∨ c = 'e') := by
    obtain ⟨c, rest, h, starts⟩ := message.write_head
    exact ⟨c, rest, by simp [Json.render, h], .inl starts⟩
  cases mode with
  | raw => exact plain
  | summary =>
    simp only [renderMessage]
    cases hs : summary? message with
    | none => exact plain
    | some line =>
      obtain ⟨event, -, rfl⟩ := Option.map_eq_some_iff.mp hs
      obtain ⟨rest, h⟩ := escape_eventSummary_head event message
      exact ⟨'e', rest, h, .inr rfl⟩

/-- The lines that the console writes of its own accord. -/
def statusLines : List String :=
  [Session.connectedLine, Session.closedLine, Client.reconnectingLine]

theorem statusLines_head {line : String} (h : line ∈ statusLines) :
    ∃ c rest, line.toList = c :: rest ∧ (c = 'c' ∨ c = 'r') := by
  simp only [statusLines, List.mem_cons, List.not_mem_nil, or_false] at h
  obtain rfl | rfl | rfl := h
  · exact ⟨'c', _, rfl, .inl rfl⟩
  · exact ⟨'c', _, rfl, .inl rfl⟩
  · exact ⟨'r', _, rfl, .inr rfl⟩

/-- No message is shown as a line that the console writes of its own accord. -/
theorem renderMessage_ne_status {line : String} (h : line ∈ statusLines) (mode : RenderMode)
    (message : Json) : renderMessage mode message ≠ line := by
  intro same
  obtain ⟨c, rest, hc, starts⟩ := renderMessage_head mode message
  obtain ⟨d, rest', hd, status⟩ := statusLines_head h
  rw [same, hd] at hc
  obtain ⟨rfl, -⟩ := List.cons.inj hc
  obtain rfl | rfl := status <;> simp [Json.startsValue] at starts

end JobConsole
