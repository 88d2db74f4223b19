import JobConsole.Proofs.LogFragments
import JobConsole.Session

namespace JobConsole

theorem ConnectionState.isTerminal_eq_true {s : ConnectionState} :
    s.isTerminal = true ↔ s = .closed := by
  cases s <;> simp [ConnectionState.isTerminal]

namespace Session

section
variable {σ : Type} {s : Session σ}

theorem handleMessage_unopened (h : s.state ≠ .opened) (log : Log) (payload : String) :
    s.handleMessage log payload = (s, log, .ok ()) := by
  simp [handleMessage, h]

theorem handleMessage_parsed (h : s.state = .opened) (log : Log) {payload : String}
    {message : Json} (hp : parseMessage payload = .ok message) :
    s.handleMessage log payload =
      ({ s with stats := { s.stats with messagesReceived := s.stats.messagesReceived + 1 } },
        log.appendLine (renderMessage s.mode message), .ok ()) := by
  simp [handleMessage, h, hp]

theorem handleMessage_rejected (h : s.state = .opened) (log : Log) {payload : String}
    {e : ConsoleError} (hp : parseMessage payload = .error e) :
    s.handleMessage log payload =
      ({ s with stats := { s.stats with parseFailures := s.stats.parseFailures + 1 } }, log,
        .error e) := by
  simp [handleMessage, h, hp]

theorem handleClose_live (h : s.state ≠ .closed) (log : Log) :
    s.handleClose log = ({ s with state := .closed }, log.appendLine closedLine) := by
  simp [handleClose, ConnectionState.isTerminal_eq_true, h]

theorem handleClose_closed (h : s.state = .closed) (log : Log) :
    s.handleClose log = (s, log) := by
  simp [handleClose, ConnectionState.isTerminal_eq_true, h]

end

section
variable {σ : Type} [CommandSink σ] {s : Session σ}

/-- The session after the frame of a command was handed to its sink. A frame that was taken is
counted. -/
def emit (s : Session σ) (text : String) : Session σ :=
  match CommandSink.sendText s.sink (Command.encode ⟨text⟩) with
  | (sink, .error _) => { s with sink }
  | (sink, .ok ()) =>
    { s with sink, stats := { s.stats with commandsSent := s.stats.commandsSent + 1 } }

@[simp] theorem emit_state (s : Session σ) (text : String) : (s.emit text).state = s.state := by
  unfold emit; split <;> rfl

@[simp] theorem emit_mode (s : Session σ) (text : String) : (s.emit text).mode = s.mode := by
  unfold emit; split <;> rfl

@[simp] theorem emit_sink (s : Session σ) (text : String) :
    (s.emit text).sink = (CommandSink.sendText s.sink (Command.encode ⟨text⟩)).1 := by
  unfold emit; split <;> simp_all

@[simp] theorem emit_messagesReceived (s : Session σ) (text : String) :
    (s.emit text).stats.messagesReceived = s.stats.messagesReceived := by
  unfold emit; split <;> rfl

@[simp] theorem emit_parseFailures (s : Session σ) (text : String) :
    (s.emit text).stats.parseFailures = s.stats.parseFailures := by
  unfold emit; split <;> rfl

theorem send_empty (s : Session σ) : s.send "" = (s, .ok false) := by simp [send]

theorem send_unopened (h : s.state ≠ .opened) (text : String) : (s.send text).1 = s := by
  simp only [send, h, ne_eq, not_false_eq_true, if_true]
  split <;> rfl

theorem send_opened (h : s.state = .opened) {text : String} (ht : text ≠ "") :
    (s.send text).1 = s.emit text := by
  simp only [send, emit, ht, h, ne_eq, not_true_eq_false, if_false]
  split <;> simp_all

@[simp] theorem send_state (s : Session σ) (text : String) :
    (s.send text).1.state = s.state := by
  by_cases h : s.state = .opened
  · by_cases ht : text = ""
    · rw [ht, send_empty]
    · rw [send_opened h ht, emit_state]
  · rw [send_unopened h]

@[simp] theorem send_mode (s : Session σ) (text : String) : (s.send text).1.mode = s.mode := by
  by_cases h : s.state = .opened
  · by_cases ht : text = ""
    · rw [ht, send_empty]
    · rw [send_opened h ht, emit_mode]
  · rw [send_unopened h]

theorem handleOpen_late (h : s.state ≠ .connecting) (log : Log) :
    s.handleOpen log = (s, log, .ok ()) := by
  have refused : ∃ e, s.state.transition .opened = .error e := by
    cases hs : s.state with
    | connecting => exact absurd hs h
    | opened => exact ⟨_, rfl⟩
    | closed => exact ⟨_, rfl⟩
  obtain ⟨e, he⟩ := refused
  simp only [handleOpen, he]

/-- The first open event opens the session, is logged, and hands the `watch` command to the sink;
whether the sink takes it does not matter for the log. -/
theorem handleOpen_connecting (h : s.state = .connecting) (log : Log) :
    (s.handleOpen log).1 = ({ s with state := .opened } : Session σ).emit Command.watch.name ∧
      (s.handleOpen log).2.1 = log.appendLine connectedLine := by
  have next : s.state.transition .opened = .ok .opened := by rw [h]; rfl
  have named : Command.watch.name ≠ "" := by decide
  have sent := send_opened (s := { s with state := .opened }) rfl named
  simp only [handleOpen, next]
  split <;> simp_all

theorem retire_live (h : s.state ≠ .closed) :
    s.retire = { s with sink := CommandSink.close s.sink, state := .closed } := by
  simp [retire, ConnectionState.isTerminal_eq_true, h]

theorem retire_closed (h : s.state = .closed) : s.retire = s := by
  simp [retire, ConnectionState.isTerminal_eq_true, h]

end

end Session

inductive SessionEvent
  | opened
  | message (payload : String)
  | lost
  | send (text : String)
  | retire
  deriving DecidableEq, Repr

inductive SessionReply
  | none
  | handled (result : Except ConsoleError Unit)
  | sent (result : Except ConsoleError Bool)

/-- A session and the log it writes to. -/
structure Desk (σ : Type) where
  session : Session σ
  log : Log

namespace Desk

section
variable {σ : Type} [CommandSink σ]

def perform (d : Desk σ) : SessionEvent → Desk σ × SessionReply
  | .opened =>
    let (session, log, result) := d.session.handleOpen d.log
    (⟨session, log⟩, .handled result)
  | .message payload =>
    let (session, log, result) := d.session.handleMessage d.log payload
    (⟨session, log⟩, .handled result)
  | .lost =>
    let (session, log) := d.session.handleClose d.log
    (⟨session, log⟩, .none)
  | .send text =>
    let (session, result) := d.session.send text
    (⟨session, d.log⟩, .sent result)
  | .retire => (⟨d.session.retire, d.log⟩, .none)

def run (d : Desk σ) (events : List SessionEvent) : Desk σ :=
  events.foldl (fun d e => (d.perform e).1) d

@[simp] theorem run_nil (d : Desk σ) : d.run [] = d := rfl

@[simp] theorem run_cons (d : Desk σ) (e : SessionEvent) (events : List SessionEvent) :
    d.run (e :: events) = (d.perform e).1.run events := rfl

theorem run_append (d : Desk σ) (before after : List SessionEvent) :
    d.run (before ++ after) = (d.run before).run after := by
  simp [run]

/-- What an event finds a session in a state for which there is nothing to do. -/
def Ignores : ConnectionState → SessionEvent → Prop
  | .closed, _ => True
  | .opened, .opened => True
  | .opened, .send text => text = ""
  | .connecting, .message _ => True
  | .connecting, .send _ => True
  | _, _ => False

inductive Step : Desk σ → SessionEvent → Desk σ → Prop
  | ignore (d : Desk σ) (e : SessionEvent) (idle : Ignores d.session.state e) : Step d e d
  | opens (d : Desk σ) (fresh : d.session.state = .connecting) :
      Step d .opened
        ⟨({ d.session with state := .opened } : Session σ).emit Command.watch.name,
          d.log.appendLine Session.connectedLine⟩
  | receives (d : Desk σ) (payload : String) (message : Json) (live : d.session.state = .opened)
      (parsed : parseMessage payload = .ok message) :
      Step d (.message payload)
        ⟨{ d.session with stats :=
            { d.session.stats with messagesReceived := d.session.stats.messagesReceived + 1 } },
          d.log.appendLine (renderMessage d.session.mode message)⟩
  | rejects (d : Desk σ) (payload : String) (e : ConsoleError) (live : d.session.state = .opened)
      (parsed : parseMessage payload = .error e) :
      Step d (.message payload)
        ⟨{ d.session with stats :=
            { d.session.stats with parseFailures := d.session.stats.parseFailures + 1 } },
          d.log⟩
  | sends (d : Desk σ) (text : String) (live : d.session.state = .opened) (some : text ≠ "") :
      Step d (.send text) ⟨d.session.emit text, d.log⟩
  | loses (d : Desk σ) (live : d.session.state ≠ .closed) :
      Step d .lost
        ⟨{ d.session with state := .closed }, d.log.appendLine Session.closedLine⟩
  | retires (d : Desk σ) (live : d.session.state ≠ .closed) :
      Step d .retire
        ⟨{ d.session with sink := CommandSink.close d.session.sink, state := .closed }, d.log⟩

theorem step_opened (d : Desk σ) : Step d .opened (d.perform .opened).1 := by
  cases h : d.session.state with
  | connecting =>
    obtain ⟨session, log⟩ := Session.handleOpen_connecting h d.log
    simpa only [perform, session, log] using Step.opens d h
  | opened | closed =>
    have late := Session.handleOpen_late (s := d.session) (by simp [h]) d.log
    simpa only [perform, late] using Step.ignore d .opened (by simp [h, Ignores])

theorem step_message (d : Desk σ) (payload : String) :
    Step d (.message payload) (d.perform (.message payload)).1 := by
  cases h : d.session.state with
  | opened =>
    cases hp : parseMessage payload with
    | ok message =>
      simpa only [perform, Session.handleMessage_parsed h d.log hp] using
        Step.receives d payload message h hp
    | error e =>
      simpa only [perform, Session.handleMessage_rejected h d.log hp] using
        Step.rejects d payload e h hp
  | connecting | closed =>
    have late := Session.handleMessage_unopened (s := d.session) (by simp [h]) d.log payload
    simpa only [perform, late] using Step.ignore d (.message payload) (by simp [h, Ignores])

theorem step_lost (d : Desk σ) : Step d .lost (d.perform .lost).1 := by
  by_cases h : d.session.state = .closed
  · simpa only [perform, Session.handleClose_closed h] using
      Step.ignore d .lost (by simp [h, Ignores])
  · simpa only [perform, Session.handleClose_live h] using Step.loses d h

theorem step_send (d : Desk σ) (text : String) :
    Step d (.send text) (d.perform (.send text)).1 := by
  by_cases h : d.session.state = .opened
  · by_cases ht : text = ""
    · subst ht
      simpa only [perform, Session.send_empty] using
        Step.ignore d (.send "") (by simp [h, Ignores])
    · simpa only [perform, Session.send_opened h ht] using Step.sends d text h ht
  · have idle : Ignores d.session.state (.send text) := by
      cases hs : d.session.state with
      | opened => exact absurd hs h
      | connecting | closed => trivial
    simpa only [perform, Session.send_unopened h] using Step.ignore d (.send text) idle

theorem step_retire (d : Desk σ) : Step d .retire (d.perform .retire).1 := by
  by_cases h : d.session.state = .closed
  · simpa only [perform, Session.retire_closed h] using
      Step.ignore d .retire (by simp [h, Ignores])
  · simpa only [perform, Session.retire_live h] using Step.retires d h

/-- Every event does one of the things that `Step` lists. -/
theorem perform_step (d : Desk σ) (e : SessionEvent) : Step d e (d.perform e).1 := by
  cases e with
  | opened => exact step_opened d
  | message payload => exact step_message d payload
  | lost => exact step_lost d
  | send text => exact step_send d text
  | retire => exact step_retire d

/-- What an event finds decides what it does. -/
theorem Step.unique {d first second : Desk σ} {e : SessionEvent} (h : Step d e first)
    (h' : Step d e second) : first = second := by
  cases h with
  | ignore _ idle =>
    cases h' with
    | ignore => rfl
    | opens fresh => simp [fresh, Ignores] at idle
    | receives _ _ live | rejects _ _ live => simp [live, Ignores] at idle
    | sends _ live nonempty => exact absurd (by simpa [live, Ignores] using idle) nonempty
    | loses live | retires live => cases hs : d.session.state <;> simp_all [Ignores]
  | opens fresh =>
    cases h' with
    | ignore _ idle => simp [fresh, Ignores] at idle
    | opens => rfl
  | receives payload message live parsed =>
    cases h' with
    | ignore _ idle => simp [live, Ignores] at idle
    | receives _ message' _ parsed' =>
      obtain rfl := Except.ok.inj (parsed.symm.trans parsed')
      rfl
    | rejects _ _ _ parsed' => cases parsed.symm.trans parsed'
  | rejects payload e live parsed =>
    cases h' with
    | ignore _ idle => simp [live, Ignores] at idle
    | receives _ _ _ parsed' => cases parsed.symm.trans parsed'
    | rejects => rfl
  | sends text live nonempty =>
    cases h' with
    | ignore _ idle => exact absurd (by simpa [live, Ignores] using idle) nonempty
    | sends => rfl
  | loses live =>
    cases h' with
    | ignore _ idle => cases hs : d.session.state <;> simp_all [Ignores]
    | loses => rfl
  | retires live =>
    cases h' with
    | ignore _ idle => cases hs : d.session.state <;> simp_all [Ignores]
    | retires => rfl

theorem Step.perform {d d' : Desk σ} {e : SessionEvent} (h : Step d e d') :
    (d.perform e).1 = d' :=
  (perform_step d e).unique h

/-- A closed session stays as it is, and so does its log, whatever happens. -/
theorem run_closed {d : Desk σ} (h : d.session.state = .closed) (events : List SessionEvent) :
    d.run events = d := by
  induction events with
  | nil => rfl
  | cons e events ih =>
    have still : (d.perform e).1 = d := by
      generalize hd : (d.perform e).1 = d'
      have step := perform_step d e
      rw [hd] at step
      cases step with
      | ignore => rfl
      | opens fresh => simp [h] at fresh
      | receives _ _ live | rejects _ _ live | sends _ live => simp [h] at live
      | loses live | retires live => exact absurd h live
    rw [run_cons, still, ih]

end

end Desk

end JobConsole
