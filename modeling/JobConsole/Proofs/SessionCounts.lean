import JobConsole.Proofs.Happenings
import JobConsole.Proofs.RawLines

namespace JobConsole

def SinkCall.isTaken : SinkCall → Bool
  | .frame _ taken => taken
  | .close => false

/-- Whether the entry is none of the two that a session adds of its own accord. -/
def Entry.isMessage (entry : Entry) : Bool :=
  entry.text ≠ Session.connectedLine && entry.text ≠ Session.closedLine

theorem Entry.isMessage_status {line : String}
    (status : line = Session.connectedLine ∨ line = Session.closedLine) (clock : Timestamp) :
    (⟨line ++ lineBreak, clock⟩ : Entry).isMessage = false := by
  have text : (⟨line ++ lineBreak, clock⟩ : Entry).text = line := withoutBreak_lineBreak line
  rw [isMessage, text]
  obtain rfl | rfl := status
  · rfl
  · rfl

theorem Entry.isMessage_rendered (mode : RenderMode) (message : Json) (clock : Timestamp) :
    (⟨renderMessage mode message ++ lineBreak, clock⟩ : Entry).isMessage = true := by
  have text : (⟨renderMessage mode message ++ lineBreak, clock⟩ : Entry).text =
      renderMessage mode message :=
    withoutBreak_lineBreak _
  have other (line : String) (status : line ∈ statusLines) :=
    renderMessage_ne_status status mode message
  rw [isMessage, text]
  simp [other Session.connectedLine (by decide), other Session.closedLine (by decide)]

namespace SessionStats

/-- No count is less. -/
structure Le (before after : SessionStats) : Prop where
  messages : before.messagesReceived ≤ after.messagesReceived
  failures : before.parseFailures ≤ after.parseFailures
  commands : before.commandsSent ≤ after.commandsSent

theorem Le.refl (stats : SessionStats) : stats.Le stats :=
  ⟨Nat.le_refl _, Nat.le_refl _, Nat.le_refl _⟩

theorem Le.trans {first second third : SessionStats} (h : first.Le second)
    (h' : second.Le third) : first.Le third where
  messages := Nat.le_trans h.messages h'.messages
  failures := Nat.le_trans h.failures h'.failures
  commands := Nat.le_trans h.commands h'.commands

/-- How often a session counted anything. -/
def total (stats : SessionStats) : Nat :=
  stats.messagesReceived + stats.parseFailures + stats.commandsSent

end SessionStats

namespace Session

section
variable {σ : Type} [CommandSink σ]

theorem emit_commandsSent (s : Session σ) (text : String) :
    (s.emit text).stats.commandsSent =
      s.stats.commandsSent +
        if (CommandSink.sendText s.sink (Command.encode ⟨text⟩)).2.isOk then 1 else 0 := by
  unfold emit
  split
  · next refused => rw [refused]; rfl
  · next taken => rw [taken]; rfl

theorem emit_grows (s : Session σ) (text : String) :
    s.stats.Le (s.emit text).stats ∧ (s.emit text).stats.total ≤ s.stats.total + 1 := by
  have sent := s.emit_commandsSent text
  constructor
  · constructor
    · exact Nat.le_of_eq (s.emit_messagesReceived text).symm
    · exact Nat.le_of_eq (s.emit_parseFailures text).symm
    · omega
  · simp only [SessionStats.total, emit_messagesReceived, emit_parseFailures, sent]
    split <;> omega

/-- A text is answered as sent when the session is open and the sink takes its frame. -/
theorem send_eq_ok {s : Session σ} {text : String} :
    (s.send text).2 = .ok true ↔ text ≠ "" ∧ s.state = .opened ∧
      (CommandSink.sendText s.sink (Command.encode ⟨text⟩)).2.isOk = true := by
  unfold send
  split
  · next empty => simp [empty]
  · next nonempty =>
    split
    · next idle => simp [idle]
    · next live =>
      split
      · next refused => simp [refused, Except.isOk, Except.toBool]
      · next taken => simp [nonempty, Decidable.not_not.mp live, taken, Except.isOk, Except.toBool]

end

end Session

namespace Desk

section
variable {σ : Type} [CommandSink σ]

/-- An open session counts every payload that it is told of. -/
theorem perform_heard (d : Desk σ) (e : SessionEvent) :
    (d.perform e).1.session.stats.messagesReceived + (d.perform e).1.session.stats.parseFailures =
      d.session.stats.messagesReceived + d.session.stats.parseFailures +
        if (d.happening e).isHeard then 1 else 0 := by
  have heard : (d.happening e).isHeard = true ↔
      d.session.state = .opened ∧ e.isMessage = true :=
    Happening.isHeard_iff
  have step := d.perform_step e
  simp only [heard]
  generalize (d.perform e).1 = d' at step ⊢
  cases step with
  | ignore _ idle =>
    rw [if_neg, Nat.add_zero]
    rintro ⟨live, message⟩
    exact idle.unheard message live
  | receives payload message live | rejects payload fault live =>
    rw [if_pos ⟨live, rfl⟩]
    dsimp only
    omega
  | opens | sends | loses | retires => simp [SessionEvent.isMessage]

end

section
variable {σ : Type}

/-- The second desk is the first one with some entries more, and the messages that it counted since
are those of the entries that are no status lines. -/
def Shows (d d' : Desk σ) : Prop :=
  ∃ told : List Entry, d'.log.entries = d.log.entries ++ told ∧
    d'.session.stats.messagesReceived =
      d.session.stats.messagesReceived + told.countP Entry.isMessage

theorem Shows.trans {d₁ d₂ d₃ : Desk σ} (h : Shows d₁ d₂) (h' : Shows d₂ d₃) : Shows d₁ d₃ := by
  obtain ⟨told, entries, counted⟩ := h
  obtain ⟨told', entries', counted'⟩ := h'
  refine ⟨told ++ told', ?_, ?_⟩
  · rw [entries', entries, List.append_assoc]
  · rw [counted', counted, List.countP_append]
    omega

end

section
variable {σ : Type} [CommandSink σ]

theorem perform_shows (d : Desk σ) (e : SessionEvent) : Shows d (d.perform e).1 := by
  have step := d.perform_step e
  generalize (d.perform e).1 = d' at step ⊢
  cases step with
  | ignore | rejects | sends | retires => exact ⟨[], by simp⟩
  | opens =>
    refine ⟨[⟨Session.connectedLine ++ lineBreak, d.log.clock⟩], rfl, ?_⟩
    simp [Entry.isMessage_status (.inl rfl)]
  | loses =>
    refine ⟨[⟨Session.closedLine ++ lineBreak, d.log.clock⟩], rfl, ?_⟩
    simp [Entry.isMessage_status (.inr rfl)]
  | receives payload message =>
    refine ⟨[⟨renderMessage d.session.mode message ++ lineBreak, d.log.clock⟩], rfl, ?_⟩
    simp [Entry.isMessage_rendered]

theorem run_shows (d : Desk σ) (events : List SessionEvent) : Shows d (d.run events) :=
  run_induction (fun d' e shown => shown.trans (perform_shows d' e)) ⟨[], by simp⟩ events

/-- No count goes back, and all of them together go up by one at most. -/
theorem perform_grows (d : Desk σ) (e : SessionEvent) :
    d.session.stats.Le (d.perform e).1.session.stats ∧
      (d.perform e).1.session.stats.total ≤ d.session.stats.total + 1 := by
  have step := d.perform_step e
  generalize (d.perform e).1 = d' at step ⊢
  cases step with
  | ignore | loses | retires => exact ⟨.refl _, Nat.le_succ _⟩
  | opens => exact Session.emit_grows { d.session with state := .opened } _
  | sends text => exact Session.emit_grows d.session text
  | receives | rejects =>
    constructor
    · constructor <;> simp
    · simp only [SessionStats.total]
      omega

theorem run_grows (d : Desk σ) (events : List SessionEvent) :
    d.session.stats.Le (d.run events).session.stats ∧
      (d.run events).session.stats.total ≤ d.session.stats.total + events.length := by
  induction events generalizing d with
  | nil => exact ⟨.refl _, Nat.le_refl _⟩
  | cons e events ih =>
    obtain ⟨le, total⟩ := perform_grows d e
    obtain ⟨le', total'⟩ := ih (d.perform e).1
    constructor
    · exact le.trans le'
    · simp only [run_cons, List.length_cons]
      omega

end

/-! ## Frames that were taken -/

section
variable {σ : Type} [CommandSink σ]

@[simp] theorem sendText_result (w : Watched σ) (text : String) :
    (CommandSink.sendText w text).2 = (CommandSink.sendText w.sink text).2 := rfl

def takenCount (d : Desk (Watched σ)) : Nat := d.session.sink.calls.countP SinkCall.isTaken

theorem emit_calls (s : Session (Watched σ)) (text : String) :
    (s.emit text).sink.calls.countP SinkCall.isTaken =
      s.sink.calls.countP SinkCall.isTaken +
        if (CommandSink.sendText s.sink.sink (Command.encode ⟨text⟩)).2.isOk then 1 else 0 := by
  rw [Session.emit_sink, sendText_calls, List.countP_append, List.countP_singleton]
  rfl

theorem emit_taken (s : Session (Watched σ)) (text : String) :
    (s.emit text).stats.commandsSent + s.sink.calls.countP SinkCall.isTaken =
      s.stats.commandsSent + (s.emit text).sink.calls.countP SinkCall.isTaken := by
  rw [Session.emit_commandsSent, emit_calls, sendText_result]
  omega

/-- A command is counted when its frame is taken. -/
theorem perform_commandsSent (d : Desk (Watched σ)) (e : SessionEvent) :
    (d.perform e).1.session.stats.commandsSent + takenCount d =
      d.session.stats.commandsSent + takenCount (d.perform e).1 := by
  have step := d.perform_step e
  generalize (d.perform e).1 = d' at step ⊢
  cases step with
  | ignore | receives | rejects | loses => rfl
  | opens => exact emit_taken { d.session with state := .opened } _
  | sends text => exact emit_taken d.session text
  | retires => simp [takenCount, SinkCall.isTaken]

theorem run_commandsSent (d : Desk (Watched σ)) (events : List SessionEvent) :
    (d.run events).session.stats.commandsSent + takenCount d =
      d.session.stats.commandsSent + takenCount (d.run events) := by
  have kept (d' : Desk (Watched σ)) (e : SessionEvent)
      (same : d'.session.stats.commandsSent + takenCount d =
        d.session.stats.commandsSent + takenCount d') :
      (d'.perform e).1.session.stats.commandsSent + takenCount d =
        d.session.stats.commandsSent + takenCount (d'.perform e).1 := by
    have step := perform_commandsSent d' e
    omega
  exact run_induction kept rfl events

theorem isSent_send (d : Desk σ) (text : String) :
    (d.happening (.send text)).isSent = true ↔ (d.session.send text).2 = .ok true := by
  have reply : (d.happening (.send text)).reply = .sent (d.session.send text).2 := rfl
  rw [Happening.isSent, reply]
  cases (d.session.send text).2 with
  | error error => simp
  | ok sent => simp

/-- A frame that is taken is that of a text, or that of an open event. -/
theorem perform_taken (d : Desk (Watched σ)) (e : SessionEvent) :
    takenCount (d.perform e).1 =
      takenCount d + (callsOf (· = .opened) d [e]).countP SinkCall.isTaken +
        if (d.happening e).isSent then 1 else 0 := by
  have step := d.perform_step e
  simp only [callsOf, List.append_nil]
  generalize (d.perform e).1 = d' at step ⊢
  cases step with
  | ignore _ idle =>
    have unsent : (d.happening e).isSent = false := by
      cases e with
      | opened | message | lost | retire => rfl
      | send text =>
        apply Bool.eq_false_iff.mpr
        rw [ne_eq, isSent_send, Session.send_eq_ok]
        rintro ⟨nonempty, live, -⟩
        rw [live] at idle
        exact nonempty idle
    simp [unsent]
  | opens =>
    have unsent : (d.happening .opened).isSent = false := rfl
    simp [takenCount, unsent]
  | receives | rejects | loses => simp [takenCount, Happening.isSent, happening, perform]
  | sends text live nonempty =>
    have sent : (d.happening (.send text)).isSent =
        (CommandSink.sendText d.session.sink.sink (Command.encode ⟨text⟩)).2.isOk := by
      apply Bool.eq_iff_iff.mpr
      rw [isSent_send, Session.send_eq_ok, sendText_result]
      simp [live, nonempty]
    rw [sent, takenCount, emit_calls]
    simp [takenCount]
  | retires => simp [takenCount, SinkCall.isTaken, Happening.isSent, happening, perform]

/-- The frames that a sink took are those of the texts that were sent, and those that open events
asked it to take. -/
theorem run_taken (d : Desk (Watched σ)) (events : List SessionEvent) :
    takenCount (d.run events) =
      takenCount d + (callsOf (· = .opened) d events).countP SinkCall.isTaken +
        (d.happenings events).countP Happening.isSent := by
  induction events generalizing d with
  | nil => rfl
  | cons e events ih =>
    have step := perform_taken d e
    simp only [callsOf, List.append_nil] at step
    rw [run_cons, ih, callsOf, happenings, List.countP_append, List.countP_cons]
    omega

/-- The sink of a session takes `watch` from an open event once, or not at all. -/
theorem opened_taken {d : Desk (Watched σ)} (connecting : d.session.state = .connecting)
    (events : List SessionEvent) :
    (callsOf (· = .opened) d events).countP SinkCall.isTaken =
      if .frame Command.watch.encode true ∈ callsOf (· = .opened) d events then 1 else 0 := by
  obtain ⟨taken, calls⟩ := callsOf_opened connecting events
  rw [calls]
  split
  · cases taken with
    | true => simp [SinkCall.isTaken]
    | false => simp [SinkCall.isTaken]
  · rfl

end

end Desk

end JobConsole
