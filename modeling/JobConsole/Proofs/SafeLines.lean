import JobConsole.Proofs.RenderModes
import JobConsole.Proofs.Text.Entities

namespace JobConsole

/-- The break of a line is the only one in its entry, if the line has no angle bracket. -/
theorem lineBreak_once {line : String} (plain : '<' ∉ line.toList) {before after : List Char} :
    (line ++ lineBreak).toList = before ++ lineBreak.toList ++ after ↔
      before = line.toList ∧ after = [] := by
  constructor
  · intro h
    have broken :
        line.toList ++ '<' :: "br/>".toList = before ++ '<' :: ("br/>".toList ++ after) := by
      simpa [lineBreak] using h
    obtain ⟨same, -, behind⟩ :=
      (List.append_cons_inj_of_notMem plain (by decide)).mp broken
    exact ⟨same.symm, List.self_eq_append_right.mp behind⟩
  · rintro ⟨rfl, rfl⟩
    simp

/-- **Summary lines cannot inject markup.** The line of an event of the watched queue has none of
the characters that mean something in markup, whatever its message says, but for ampersands, and
each of those begins an entity. With its entities replaced by their characters, from left to right,
it is the sentence of the event, so that no other sentence is shown like it. In the log it is an
entry with one break, at its end. -/
theorem sentence_is_safe {message : Json} {event : String} (h : message.IsWatchEvent event) :
    let line := renderMessage .summary message
    (∀ c ∈ line.toList, c ∉ ['<', '>', '"', '\'']) ∧
      (∀ before after, line.toList = before ++ '&' :: after →
        ∃ entity ∈ ["&amp;", "&lt;", "&gt;", "&quot;", "&#x27;"],
          entity.toList <+: '&' :: after) ∧
      Markup.unescape line = eventSummary event message ∧
      (∀ sentence, Markup.escape sentence = line → sentence = eventSummary event message) ∧
      ∀ (σ : Type) [CommandSink σ] (session : Session σ) (log : Log) (payload : String),
        session.state = .opened → session.mode = .summary → parseMessage payload = .ok message →
          ∃ entry, (session.handleMessage log payload).2.1.entries = log.entries ++ [entry] ∧
            ∀ before after, entry.html.toList = before ++ "<br/>".toList ++ after ↔
              before = line.toList ∧ after = [] := by
  intro line
  have shown : line = Markup.escape (eventSummary event message) := renderMessage_event h
  have plain : ∀ c ∈ line.toList, c ∉ ['<', '>', '"', '\''] := by
    rw [shown]
    exact Markup.plain_escape _
  refine ⟨plain, ?_, ?_, ?_, ?_⟩
  · intro before after split
    rw [shown] at split
    exact Markup.ampersand_escape split
  · rw [shown, Markup.unescape_escape]
  · intro sentence same
    exact Markup.escape_injective (same.trans shown)
  · intro σ _ session log payload live summary parsed
    have unbracketed : '<' ∉ line.toList := fun member => plain '<' member List.mem_cons_self
    refine ⟨⟨line ++ lineBreak, log.clock⟩, ?_, fun before after => lineBreak_once unbracketed⟩
    rw [Session.handleMessage_parsed live log parsed, summary]
    rfl

/-- An event whose name looks like markup and whose job shows what looks like an entity, and a list
of quoted strings. -/
def hostilePayload : String :=
  "\x7b\"command\":\"watch\",\"event\":\"<br/>'\"," ++
    "\"job\":\x7b\"id\":\"&lt;\",\"appid\":[\"a\"]\x7d\x7d"

def hostileLine : String :=
  "event: &lt;br/&gt;&#x27; Job &amp;lt; (app=[&quot;a&quot;]) has &lt;br/&gt;&#x27; at " ++
    "unknown event(error)"

def hostileSentence : String :=
  "event: <br/>' Job &lt; (app=[\"a\"]) has <br/>' at unknown event(error)"

theorem sentence_is_safe_of_hostile :
    ∃ message, parseMessage hostilePayload = .ok message ∧ message.IsWatchEvent "<br/>'" ∧
      renderMessage .summary message = hostileLine ∧
      Markup.unescape hostileLine = hostileSentence := by
  have read : (parseMessage hostilePayload).toOption.map (fun message =>
      (watchedEvent? message, renderMessage .summary message, eventSummary "<br/>'" message)) =
        some (some "<br/>'", hostileLine, hostileSentence) := by
    decide +kernel
  cases h : parseMessage hostilePayload with
  | error e => simp [h, Except.toOption] at read
  | ok message =>
    simp only [h, Except.toOption, Option.map_some, Option.some.injEq, Prod.mk.injEq] at read
    obtain ⟨event, line, sentence⟩ := read
    have watched : message.IsWatchEvent "<br/>'" := watchedEvent_iff.mp event
    obtain ⟨-, -, told, -⟩ := sentence_is_safe watched
    rw [line, sentence] at told
    exact ⟨message, rfl, watched, line, told⟩

end JobConsole
