import JobConsole.Proofs.Milestones
import JobConsole.Proofs.RawLines
import JobConsole.Proofs.RenderedLines
import JobConsole.Terminal

/-!
# Line breaks in rendered lines

Compact texts have no control characters. A sentence shows some strings of its message as they are,
and its control characters are theirs, line feeds and carriage returns among them.
-/

namespace JobConsole

/-- The fields that the sentence of an event shows of its job, behind those of every event. -/
def detailKeys (event : String) : List String :=
  if event = "started" then ["started", "cmd"]
  else if event = "scheduled" then ["scheduled", "cmd"]
  else if event = "finished" then ["finished", "result", "url"]
  else []

def stringField? (job : Json) (key : String) : Option String := (job.get? key).bind Json.string?

/-- The strings that the sentence of an event shows as they are. -/
def sentenceStrings (event : String) (message : Json) : List String :=
  event ::
    match (message.get? "job").filter Json.isObject with
    | none => []
    | some job => ("id" :: "appid" :: detailKeys event).filterMap (stringField? job)

/-- The strings that the line of a message shows as they are, but for markup. -/
def shownStrings (mode : RenderMode) (message : Json) : List String :=
  match mode with
  | .raw => []
  | .summary => (watchedEvent? message).elim [] fun event => sentenceStrings event message

def arePrintable (cs : List Char) : Bool := cs.all fun c => 0x20 ≤ c.toNat

theorem le_of_arePrintable {cs : List Char} (h : arePrintable cs = true) :
    ∀ c ∈ cs, 0x20 ≤ c.toNat := by
  intro c member
  simpa using List.all_eq_true.mp h c member

/-- A text has those control characters that stand in some strings. -/
def ControlsOf (text : String) (strings : List String) : Prop :=
  ∀ c : Char, c.toNat < 0x20 → (c ∈ text.toList ↔ ∃ s ∈ strings, c ∈ s.toList)

namespace ControlsOf

section
variable {text text' : String} {strings strings' : List String}

theorem printable (h : ∀ c ∈ text.toList, 0x20 ≤ c.toNat) : ControlsOf text [] := by
  intro c control
  constructor
  · intro member
    have high := h c member
    omega
  · rintro ⟨s, member, -⟩
    cases member

theorem same (text : String) : ControlsOf text [text] := by
  intro c _
  simp

theorem append (h : ControlsOf text strings) (h' : ControlsOf text' strings') :
    ControlsOf (text ++ text') (strings ++ strings') := by
  intro c control
  rw [String.toList_append, List.mem_append, h c control, h' c control]
  simp only [List.mem_append, or_and_right, exists_or]

theorem congr (h : ControlsOf text strings) (same : ∀ s, s ∈ strings ↔ s ∈ strings') :
    ControlsOf text strings' := by
  intro c control
  rw [h c control]
  simp only [same]

end

end ControlsOf

/-! ## Sentences -/

theorem controlsOf_render (message : Json) : ControlsOf message.render [] := by
  apply ControlsOf.printable
  intro c member
  rw [Json.render, String.toList_ofList] at member
  exact message.write_neat.printable c member

theorem controlsOf_jobField (job : Json) (key : String) :
    ControlsOf (jobField job key) (stringField? job key).toList := by
  unfold jobField stringField?
  cases job.get? key with
  | none => exact .printable (le_of_arePrintable (by decide))
  | some v =>
    cases v with
    | string s => exact .same s
    | null | bool | integer | float | array | object => exact controlsOf_render _

section
variable {text : String} {strings : List String}

/-- A text goes on with words of the console. -/
theorem ControlsOf.words (h : ControlsOf text strings) (label : String)
    (plain : arePrintable label.toList = true) : ControlsOf (text ++ label) strings := by
  have longer := h.append (.printable (le_of_arePrintable plain))
  rwa [List.append_nil] at longer

/-- A text goes on with a field of a job. -/
theorem ControlsOf.field (h : ControlsOf text strings) (job : Json) (key : String) :
    ControlsOf (text ++ jobField job key) (strings ++ (stringField? job key).toList) :=
  h.append (controlsOf_jobField job key)

end

theorem stringFields_cons (job : Json) (key : String) (keys : List String) :
    (key :: keys).filterMap (stringField? job) =
      (stringField? job key).toList ++ keys.filterMap (stringField? job) := by
  cases h : stringField? job key <;> simp [h]

theorem controlsOf_jobDetails (event : String) (job : Json) :
    ControlsOf (jobDetails event job) ((detailKeys event).filterMap (stringField? job)) := by
  have command (key : String) :
      ControlsOf (jobField job key ++ " cmd=" ++ jobField job "cmd")
        ([key, "cmd"].filterMap (stringField? job)) := by
    have time := controlsOf_jobField job key
    have told := (time.words " cmd=" (by decide)).field job "cmd"
    simpa only [stringFields_cons, List.filterMap_nil, List.append_nil] using told
  unfold jobDetails detailKeys
  split
  · exact command "started"
  split
  · exact command "scheduled"
  split
  · have time := controlsOf_jobField job "finished"
    have result := (time.words " result=" (by decide)).field job "result"
    have told := (result.words " url=" (by decide)).field job "url"
    simpa only [stringFields_cons, List.filterMap_nil, List.append_nil, List.append_assoc]
      using told
  · exact .printable (le_of_arePrintable (by decide))

theorem controlsOf_eventSummary (event : String) (message : Json) :
    ControlsOf (eventSummary event message) (sentenceStrings event message) := by
  have begins : ControlsOf ("event: " ++ event) [event] :=
    (ControlsOf.printable (le_of_arePrintable (by decide))).append (.same event)
  unfold eventSummary sentenceStrings
  cases (message.get? "job").filter Json.isObject with
  | none => exact begins
  | some job =>
    have named := (begins.words " Job " (by decide)).field job "id"
    have placed := (named.words " (app=" (by decide)).field job "appid"
    have happened := (placed.words ") has " (by decide)).append (.same event)
    have told := (happened.words " at " (by decide)).append (controlsOf_jobDetails event job)
    apply told.congr
    intro s
    -- The event is said twice.
    simp only [stringFields_cons, List.mem_append, List.mem_cons, List.not_mem_nil, or_false]
    grind

/-! ## Lines -/

theorem mem_escapeChar {c : Char} (control : c.toNat < 0x20) (d : Char) :
    c ∈ Markup.escapeChar d ↔ c = d := by
  have entity (d : Char) (cs : List Char) (plain : arePrintable (d :: cs) = true) :
      c ∈ cs ↔ c = d := by
    have high := le_of_arePrintable plain
    constructor
    · intro member
      have := high c (List.mem_cons_of_mem d member)
      omega
    · rintro rfl
      have := high c List.mem_cons_self
      omega
  unfold Markup.escapeChar
  split
  · exact entity '&' _ (by decide)
  · exact entity '<' _ (by decide)
  · exact entity '>' _ (by decide)
  · exact entity '"' _ (by decide)
  · exact entity '\'' _ (by decide)
  · exact List.mem_singleton

/-- What is made safe for markup keeps its control characters. -/
theorem ControlsOf.escape {text : String} {strings : List String} (h : ControlsOf text strings) :
    ControlsOf (Markup.escape text) strings := by
  intro c control
  have kept : c ∈ (Markup.escape text).toList ↔ c ∈ text.toList := by
    simp only [Markup.escape, String.toList_ofList, List.mem_flatMap, mem_escapeChar control]
    simp
  rw [kept, h c control]

theorem controlsOf_renderMessage (mode : RenderMode) (message : Json) :
    ControlsOf (renderMessage mode message) (shownStrings mode message) := by
  cases mode with
  | raw => exact controlsOf_render message
  | summary =>
    simp only [renderMessage, shownStrings, summary?]
    cases watchedEvent? message with
    | none => exact controlsOf_render message
    | some event => exact (controlsOf_eventSummary event message).escape

/-! ## Entries -/

namespace Client

/-- A line of the console itself, or that of a message. -/
def IsLine (mode : RenderMode) (line : String) : Prop :=
  line ∈ statusLines ∨
    ∃ payload message, parseMessage payload = .ok message ∧ line = renderMessage mode message

/-- Only sentences have control characters, those of the strings that they show. -/
theorem IsLine.control {mode : RenderMode} {line : String} (h : IsLine mode line) {ch : Char}
    (control : ch.toNat < 0x20) (inLine : ch ∈ line.toList) :
    mode = .summary ∧ ∃ payload message, parseMessage payload = .ok message ∧
      line = renderMessage .summary message ∧
      ∃ s ∈ shownStrings .summary message, ch ∈ s.toList := by
  obtain status | ⟨payload, message, parsed, rfl⟩ := h
  · have printable : ∀ line ∈ statusLines, arePrintable line.toList = true := by decide
    have high := le_of_arePrintable (printable line status) ch inLine
    omega
  · obtain ⟨s, shown, inString⟩ := (controlsOf_renderMessage mode message ch control).mp inLine
    cases mode with
    | raw => cases shown
    | summary => exact ⟨rfl, payload, message, parsed, rfl, s, shown, inString⟩

theorem isLine_of_mem_linesOf {settings : Settings} {unread : Option (List Incoming)}
    {op : ClientOp} {line : String} (h : line ∈ linesOf settings unread op) :
    IsLine settings.mode line := by
  have outcome (attempt : Attempt) : outcomeLine settings attempt ∈ statusLines := by
    unfold outcomeLine
    split <;> decide
  cases op with
  | start attempt =>
    rw [linesOf, List.mem_singleton] at h
    exact .inl (h ▸ outcome attempt)
  | reconnect attempt =>
    obtain rfl | tried := List.mem_cons.mp h
    · exact .inl (by decide)
    · exact .inl (List.mem_singleton.mp tried ▸ outcome attempt)
  | send | submit | shutdown | arrive => cases h
  | processNext =>
    simp only [linesOf] at h
    split at h
    · next payload _ _ =>
      unfold messageLine? at h
      split at h
      · next message parsed =>
        exact .inr ⟨payload, message, parsed, List.mem_singleton.mp h⟩
      · cases h
    · rw [List.mem_singleton.mp h]
      exact .inl (by decide)
    · cases h

/-- Every entry of the log is a line of the console itself, or that of a message. -/
def Shows (settings : Settings) (c : Client) : Prop :=
  c.settings = settings ∧ c.InStep ∧ ∀ fragment ∈ c.log.fragments, ∃ line,
    fragment = line ++ lineBreak ∧ IsLine settings.mode line

theorem shows_asked {settings : Settings} (c : Client) (op : ClientOp) (h : Shows settings c) :
    Shows settings (c.perform op).1 := by
  obtain ⟨same, inStep, lines⟩ := h
  refine ⟨(c.perform_settings op).trans same, inStep.perform op, ?_⟩
  obtain ⟨unread, reads⟩ := inStep
  rw [perform_fragments reads, same]
  intro fragment member
  obtain earlier | added := List.mem_append.mp member
  · exact lines fragment earlier
  · obtain ⟨line, among, rfl⟩ := List.mem_map.mp added
    exact ⟨line, rfl, isLine_of_mem_linesOf among⟩

theorem shows_written {settings : Settings} (c : Client) (sink : ChannelSink)
    (h : Shows settings c) : Shows settings (c.setSink sink) :=
  ⟨h.1, h.2.1.setSink sink, h.2.2⟩

end Client

/-- A log takes one line of the output for each entry, and more for those with breaks. -/
theorem breaks_of_entries (entries : List Entry) :
    let breaks := (String.join (entries.map fun entry => entry.text ++ "\n")).toList.count '\n'
    entries.length ≤ breaks ∧
      (breaks = entries.length ↔ ∀ entry ∈ entries, '\n' ∉ entry.text.toList) := by
  induction entries with
  | nil => decide
  | cons entry entries ih =>
    intro breaks
    obtain ⟨least, whole⟩ := ih
    have first : (entry.text ++ "\n").toList.count '\n' = entry.text.toList.count '\n' + 1 := by
      simp
    have all : breaks = entry.text.toList.count '\n' + 1 +
        (String.join (entries.map fun entry => entry.text ++ "\n")).toList.count '\n' := by
      rw [← first]
      simp only [breaks, String.toList_join, List.map_cons, List.flatMap_cons, List.count_append]
    rw [List.forall_mem_cons, ← whole, ← List.count_eq_zero, List.length_cons]
    omega

/-- Where control characters come from, line feeds and carriage returns among them. The line of a
message has those of the strings that it shows as they are: none as a compact text, and as a sentence
those of the event and of the job's fields that are strings. So an entry of a log has a control
character only if messages are shown as sentences, and the entry is the sentence of a message with
such a string. The output has a line for each entry exactly as long as no entry has a line feed. -/
theorem line_breaks_are_shown {settings : Settings} {ids : IdSource} {c : Client}
    (h : Client.ofSettings settings ids = .ok c) (moves : List Move) :
    let log := ((Console.ofClient c).run moves).client.log
    (∀ (mode : RenderMode) (payload : String) (message : Json),
        parseMessage payload = .ok message → ∀ ch : Char, ch.toNat < 0x20 →
          (ch ∈ (renderMessage mode message).toList ↔
            ∃ s ∈ shownStrings mode message, ch ∈ s.toList)) ∧
      (∀ entry ∈ log.entries, ∀ ch : Char, ch.toNat < 0x20 → ch ∈ entry.text.toList →
        settings.mode = .summary ∧ ∃ payload message, parseMessage payload = .ok message ∧
          entry.text = renderMessage .summary message ∧
          ∃ s ∈ shownStrings .summary message, ch ∈ s.toList) ∧
      ((Terminal.linesFrom 0 log).toList.count '\n' = log.length ↔
        ∀ entry ∈ log.entries, '\n' ∉ entry.text.toList) := by
  intro log
  have begins : Client.Shows settings (Console.ofClient c).client := by
    obtain ⟨same, -, empty⟩ := Client.ofSettings_spec h
    refine ⟨same, Client.reachable_inStep (.made h), ?_⟩
    change ∀ fragment ∈ c.log.fragments, _
    simp [empty]
  obtain ⟨-, -, lines⟩ : Client.Shows settings ((Console.ofClient c).run moves).client :=
    Console.run_invariant Client.shows_asked Client.shows_written begins moves
  refine ⟨?_, ?_, (breaks_of_entries log.entries).2⟩
  · intro mode payload message _ ch control
    exact controlsOf_renderMessage mode message ch control
  · intro entry member ch control inText
    obtain ⟨line, html, isLine⟩ := lines entry.html (List.mem_map_of_mem member)
    have text : entry.text = line := by rw [Entry.text, html, withoutBreak_lineBreak]
    rw [text] at inText ⊢
    exact isLine.control control inText

def narratingClient : Client :=
  { plainClient with settings := { Settings.defaults with mode := .summary } }

/-- An event whose name has a line feed in it. -/
def forgedPayload : String := "\x7b\"command\":\"watch\",\"event\":\"x\\nconnected\"\x7d"

def forgedMoves : List Move :=
  [.ask (.start .accepted), .ask (.arrive [.text forgedPayload]), .ask .processNext]

theorem line_breaks_are_shown_of_forged :
    let log := ((Console.ofClient narratingClient).run forgedMoves).client.log
    (Terminal.linesFrom 0 log).toList.count '\n' ≠ log.length ∧
      ∃ message, parseMessage forgedPayload = .ok message ∧
        '\n' ∈ (renderMessage .summary message).toList ∧
        '\n' ∉ (renderMessage .raw message).toList := by
  intro log
  have made : Client.ofSettings { Settings.defaults with mode := .summary } ⟨0, 0⟩ =
      .ok narratingClient := rfl
  obtain ⟨rendered, -, output⟩ := line_breaks_are_shown made forgedMoves
  have broken : ¬∀ entry ∈ log.entries, '\n' ∉ entry.text.toList := by decide +kernel
  have shown : (parseMessage forgedPayload).toOption.map (shownStrings .summary) =
      some ["x\nconnected"] := by
    decide +kernel
  refine ⟨fun same => broken (output.mp same), ?_⟩
  cases parsed : parseMessage forgedPayload with
  | error e => simp [parsed, Except.toOption] at shown
  | ok message =>
    simp only [parsed, Except.toOption, Option.map_some, Option.some.injEq] at shown
    refine ⟨message, rfl, ?_, ?_⟩
    · rw [rendered .summary _ message parsed '\n' (by decide), shown]
      exact ⟨"x\nconnected", List.mem_singleton_self _, by decide⟩
    · rw [rendered .raw _ message parsed '\n' (by decide)]
      rintro ⟨s, member, -⟩
      cases member

/-- One message takes two lines of the output, the second of which looks like a line that the console
writes of its own accord. -/
theorem event_forges_a_line :
    (parseMessage forgedPayload).toOption.map (renderMessage .summary) =
        some "event: x\nconnected" ∧
      ((Console.ofClient narratingClient).run forgedMoves).client.log.length = 2 ∧
      Terminal.linesFrom 0 ((Console.ofClient narratingClient).run forgedMoves).client.log =
        "connected\nevent: x\nconnected\n" := by
  decide +kernel

end JobConsole
