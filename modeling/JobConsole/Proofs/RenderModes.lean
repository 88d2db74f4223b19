import JobConsole.Proofs.Counterparts
import JobConsole.Proofs.LineBreaks
import JobConsole.Proofs.Milestones

namespace JobConsole

/-- The message is an object that reports this event of the watched queue. -/
def Json.IsWatchEvent (message : Json) (event : String) : Prop :=
  ∃ members, message = .object members ∧
    members.lookup "command" = some (.string "watch") ∧
    members.lookup "event" = some (.string event)

theorem Json.string?_eq_some {v : Json} {s : String} : v.string? = some s ↔ v = .string s := by
  cases v <;> simp [string?]

theorem watchedEvent_iff {message : Json} {event : String} :
    watchedEvent? message = some event ↔ message.IsWatchEvent event := by
  have field (key s : String) : (message.get? key).bind Json.string? = some s ↔
      ∃ members, message = .object members ∧ members.lookup key = some (.string s) := by
    cases message with
    | object members => simp [Json.get?, Option.bind_eq_some_iff, Json.string?_eq_some]
    | null | bool | integer | float | string | array => simp [Json.get?]
  unfold watchedEvent?
  constructor
  · intro found
    split at found
    · next watched =>
      obtain ⟨members, rfl, command⟩ := (field _ _).mp watched
      obtain ⟨_, same, named⟩ := (field _ _).mp found
      obtain rfl := Json.object.inj same
      exact ⟨members, rfl, command, named⟩
    · cases found
  · rintro ⟨members, object, command, named⟩
    have watched := (field Command.key Command.watch.name).mpr ⟨members, object, command⟩
    rw [if_pos watched]
    exact (field _ _).mpr ⟨members, object, named⟩

/-- An event of the watched queue is shown as a sentence that is safe for markup. -/
theorem renderMessage_event {message : Json} {event : String} (h : message.IsWatchEvent event) :
    renderMessage .summary message = Markup.escape (eventSummary event message) := by
  simp only [renderMessage, summary?, watchedEvent_iff.mpr h, Option.map_some]

/-- Any other message is shown as its compact text in both modes. -/
theorem renderMessage_other {message : Json} (h : ∀ event, ¬message.IsWatchEvent event) :
    renderMessage .summary message = message.render := by
  have none : watchedEvent? message = none := by
    apply Option.eq_none_iff_forall_ne_some.mpr
    intro event found
    exact h event (watchedEvent_iff.mp found)
  simp only [renderMessage, summary?, none, Option.map_none]

/-! ## The view -/

/-- The view of a log stands behind its last entry. -/
def Log.AtBottom (log : Log) : Prop := log.scrollTop = log.length

theorem Log.AtBottom.addLines {log : Log} (h : log.AtBottom) (lines : List String) :
    (log.addLines lines).AtBottom := by
  induction lines generalizing log with
  | nil => exact h
  | cons line lines ih =>
    apply ih
    rw [AtBottom, scrollTop_appendLine, length_appendLine, length_fragments]

namespace Client

/-- Nothing was typed on a client that was just made, and its view stands at the bottom. -/
theorem ofSettings_view {settings : Settings} {ids : IdSource} {c : Client}
    (h : ofSettings settings ids = .ok c) : c.log.input = "" ∧ c.log.AtBottom := by
  unfold ofSettings Log.ofCapacity at h
  cases hf : Feed.ofCapacity (α := Entry) Log.entrySize (max settings.logCapacity 1) with
  | error fault => simp [hf, Except.map] at h
  | ok feed =>
    simp only [hf, Except.map, Except.ok.injEq] at h
    rw [← h]
    exact ⟨rfl, rfl⟩

end Client

namespace Console

/-- The view of a client that was just made always stands at the bottom of its log. -/
theorem run_atBottom {settings : Settings} {ids : IdSource} {c : Client}
    (h : Client.ofSettings settings ids = .ok c) (moves : List Move) :
    ((ofClient c).run moves).client.log.AtBottom := by
  have asked (c : Client) (op : ClientOp) (bottom : c.log.AtBottom) :
      (c.perform op).1.log.AtBottom := by
    obtain ⟨lines, log⟩ := c.perform_log op
    have typed : ({ c.log with input := op.typed c.log.input } : Log).AtBottom := bottom
    rw [log]
    exact typed.addLines lines
  have begun : (ofClient c).client.log.AtBottom := (Client.ofSettings_view h).2
  exact run_invariant asked (fun _ _ bottom => bottom) begun moves

/-- What a client that was just made gained is its whole log, in the mode of its settings. -/
theorem told_fragments {settings : Settings} {ids : IdSource} {c : Client}
    (h : Client.ofSettings settings ids = .ok c) {moves : List Move} {told : List Occasion}
    (gained : let w := (ofClient c).run moves
      c.log.Gained w.client.log (told.map (Occasion.fragment w.client.settings.mode))) :
    ((ofClient c).run moves).client.log.fragments =
      told.map (Occasion.fragment settings.mode) := by
  obtain ⟨same, -, empty⟩ := Client.ofSettings_spec h
  have all := gained.fragments
  rw [empty, List.nil_append, run_settings, ofClient_client, same] at all
  exact all

/-- Clients that were just made with settings that differ only in the mode are counterparts. -/
theorem made_counterparts {settings : Settings} {mode mode' : RenderMode} {ids ids' : IdSource}
    {c c' : Client} (h : Client.ofSettings { settings with mode } ids = .ok c)
    (h' : Client.ofSettings { settings with mode := mode' } ids' = .ok c') :
    Counterparts (.ofClient c) (.ofClient c') (.ofClient c) (.ofClient c') := by
  obtain ⟨same, idle, -⟩ := Client.ofSettings_spec h
  obtain ⟨same', idle', -⟩ := Client.ofSettings_spec h'
  constructor
  case clients =>
    constructor
    case settings => 
      change c'.settings = { c.settings with mode := c'.settings.mode }
      rw [same, same']
    case input =>
      exact (Client.ofSettings_view h).1.trans (Client.ofSettings_view h').1.symm
    case active =>
      change Active.Alike c.active c'.active
      rw [idle, idle']
      exact .none
  case inStep => exact Client.reachable_inStep (.made h)
  case inStep' => exact Client.reachable_inStep (.made h')
  case told => exact ⟨[], .refl _, .refl _⟩
  case loops => rfl
  case current => rfl
  case former => exact ⟨[], rfl, rfl⟩
  case replies => rfl
  case offers => rfl

end Console

/-- The line of an occasion in the two modes. They differ for an event of the watched queue only. -/
theorem Occasion.line_modes (occasion : Occasion) :
    (∀ message event, occasion = .received message → message.IsWatchEvent event →
      occasion.line .raw = message.render ∧
        occasion.line .summary = Markup.escape (eventSummary event message)) ∧
    ((∀ message event, occasion = .received message → ¬message.IsWatchEvent event) →
      occasion.line .raw = occasion.line .summary) := by
  constructor
  · rintro message event rfl watched
    exact ⟨rfl, renderMessage_event watched⟩
  · intro other
    cases occasion with
    | reconnecting | connected | closed => rfl
    | received message =>
      exact (renderMessage_other fun event => other message event rfl).symm

/-- **The render mode is presentation only.** Let the same happen to two clients that were just made
with settings that differ only in the render mode: operations with the same outcomes of the attempts
they make, arrivals, controls, turns of the loop and steps of the writers. Then their connections
carry the same frames, all operations answer the same, their loops stand at the same point, and their
sessions have the same state and the same counts; they show the same line being typed, and views of
as many entries at the same position. Both logs were written about the same. An event of the watched
queue is shown as its compact text by the one, and as a sentence that is safe for markup by the
other; all other entries are the same. -/
theorem render_mode_is_presentation {settings : Settings} {ids ids' : IdSource} {c c' : Client}
    (h : Client.ofSettings { settings with mode := .raw } ids = .ok c)
    (h' : Client.ofSettings { settings with mode := .summary } ids' = .ok c')
    (moves : List Move) :
    let v := (Console.ofClient c).run moves
    let v' := (Console.ofClient c').run moves
    v.current = v'.current ∧ v.former = v'.former ∧ v.client.sink? = v'.client.sink? ∧
    v.replies = v'.replies ∧ v.offers = v'.offers ∧ v.loop.rest = v'.loop.rest ∧
    v.client.state? = v'.client.state? ∧ v.client.stats? = v'.client.stats? ∧
    v.client.log.input = v'.client.log.input ∧
    v.client.log.scrollTop = v'.client.log.scrollTop ∧
    v.client.log.length = v'.client.log.length ∧
    ∃ told : List Occasion,
      v.client.log.fragments = told.map (Occasion.fragment .raw) ∧
      v'.client.log.fragments = told.map (Occasion.fragment .summary) ∧
      ∀ occasion ∈ told,
        (∀ message event, occasion = .received message → message.IsWatchEvent event →
          occasion.line .raw = message.render ∧
            occasion.line .summary = Markup.escape (eventSummary event message)) ∧
        ((∀ message event, occasion = .received message → ¬message.IsWatchEvent event) →
          occasion.line .raw = occasion.line .summary) := by
  intro v v'
  have same := (Console.made_counterparts h h').run moves
  obtain ⟨state, stats, sink, -⟩ := same.clients.session
  obtain ⟨made, former, former'⟩ := same.former
  obtain ⟨told, gained, gained'⟩ := same.told
  have fragments : v.client.log.fragments = told.map (Occasion.fragment .raw) :=
    Console.told_fragments h gained
  have fragments' : v'.client.log.fragments = told.map (Occasion.fragment .summary) :=
    Console.told_fragments h' gained'
  have length : v.client.log.length = v'.client.log.length := by
    rw [← Log.length_fragments, ← Log.length_fragments, fragments, fragments', List.length_map,
      List.length_map]
  have bottom : v.client.log.AtBottom := Console.run_atBottom h moves
  have bottom' : v'.client.log.AtBottom := Console.run_atBottom h' moves
  refine ⟨same.current, former.trans former'.symm, sink, same.replies, same.offers, same.loops,
    state, stats, same.clients.input, bottom.trans (length.trans bottom'.symm), length, told,
    fragments, fragments', ?_⟩
  intro occasion _
  exact occasion.line_modes

/-- An event of the watched queue, and a message that lacks the name of an event. -/
theorem render_mode_is_presentation_of_events :
    let moves : List Move :=
      [.enter .accepted,
        .ask (.arrive [.text "\x7b\"command\":\"watch\",\"event\":\"<x>\"\x7d",
          .text "\x7b\"command\":\"watch\",\"event\":1\x7d"]),
        .turn .inbound .silent, .turn .inbound .silent]
    let v := (Console.ofClient plainClient).run moves
    let v' := (Console.ofClient narratingClient).run moves
    v.client.log.fragments = ["connected<br/>",
        "\x7b\"command\":\"watch\",\"event\":\"<x>\"\x7d<br/>",
        "\x7b\"command\":\"watch\",\"event\":1\x7d<br/>"] ∧
      v'.client.log.fragments = ["connected<br/>", "event: &lt;x&gt;<br/>",
        "\x7b\"command\":\"watch\",\"event\":1\x7d<br/>"] ∧
      v.client.stats? = v'.client.stats? ∧ v.client.sink? = v'.client.sink? := by
  intro moves v v'
  have made : Client.ofSettings { Settings.defaults with mode := .summary } ⟨0, 0⟩ =
      .ok narratingClient := rfl
  obtain ⟨-, -, sink, -, -, -, -, stats, -⟩ :=
    render_mode_is_presentation ofSettings_plainClient made moves
  exact ⟨by decide +kernel, by decide +kernel, stats, sink⟩

end JobConsole
