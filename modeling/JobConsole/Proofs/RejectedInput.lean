import JobConsole.Proofs.Happenings
import JobConsole.Proofs.RawLines

namespace JobConsole

/-- Whether a session in this state rejects an event: a payload that holds no message, the empty
text, and every text while the session is not open. -/
def SessionEvent.isRejected (s : ConnectionState) : SessionEvent → Bool
  | .message payload => (SessionEvent.message payload).isMalformed
  | .send text => text = "" || s ≠ .opened
  | _ => false

def Session.withFailures {σ : Type} (s : Session σ) (count : Nat) : Session σ :=
  { s with stats := { s.stats with parseFailures := count } }

namespace Desk

def withFailures {σ : Type} (d : Desk σ) (count : Nat) : Desk σ :=
  ⟨d.session.withFailures count, d.log⟩

section
variable {σ : Type} [CommandSink σ] {d : Desk σ} {e : SessionEvent}

theorem emit_withFailures (s : Session σ) (log : Log) (text : String) (count : Nat) :
    (⟨s.emit text, log⟩ : Desk σ).withFailures count =
      ⟨(s.withFailures count).emit text, log⟩ := by
  simp only [withFailures, Session.emit, Session.withFailures]
  split <;> simp_all

def accepted (d : Desk σ) (events : List SessionEvent) : List SessionEvent :=
  ((d.happenings events).filter fun h => !h.event.isRejected h.state).map Happening.event

theorem accepted_cons (d : Desk σ) (e : SessionEvent) (events : List SessionEvent) :
    d.accepted (e :: events) =
      (if e.isRejected d.session.state then [] else [e]) ++ (d.perform e).1.accepted events := by
  simp only [accepted, happenings, happening, List.filter_cons]
  cases e.isRejected d.session.state <;> rfl

/-- All that a rejected input can do is to be counted as a parse failure. -/
theorem rejected_perform (rejected : e.isRejected d.session.state = true) (count : Nat) :
    (d.perform e).1.withFailures count = d.withFailures count := by
  have step := d.perform_step e
  generalize (d.perform e).1 = d' at step
  cases step with
  | ignore | rejects => rfl
  | opens | loses | retires => cases rejected
  | receives payload message live parsed =>
    cases (SessionEvent.isMalformed_ok parsed).symm.trans rejected
  | sends text live nonempty =>
    simp [SessionEvent.isRejected, live, nonempty] at rejected

/-- What any other event does does not depend on the count of parse failures. -/
theorem accepted_perform (accepted : e.isRejected d.session.state = false) (count : Nat) :
    ((d.withFailures count).perform e).1 = (d.perform e).1.withFailures count := by
  have step := d.perform_step e
  generalize (d.perform e).1 = d' at step ⊢
  apply Step.perform
  cases step with
  | ignore _ idle => exact .ignore _ e idle
  | opens fresh =>
    rw [emit_withFailures]
    exact .opens (d.withFailures count) fresh
  | receives payload message live parsed =>
    exact .receives (d.withFailures count) payload message live parsed
  | rejects payload fault live parsed =>
    cases (SessionEvent.isMalformed_error parsed).symm.trans accepted
  | sends text live nonempty =>
    rw [emit_withFailures]
    exact .sends (d.withFailures count) text live nonempty
  | loses live => exact .loses (d.withFailures count) live
  | retires live => exact .retires (d.withFailures count) live

/-- Up to the count of parse failures, a run comes to the same without the inputs that it rejects. -/
theorem run_accepted (d : Desk σ) (events : List SessionEvent) (count : Nat) :
    (d.withFailures count).run (d.accepted events) = (d.run events).withFailures count := by
  induction events generalizing d with
  | nil => rfl
  | cons e events ih =>
    rw [accepted_cons, run_append, run_cons, ← ih]
    cases rejected : e.isRejected d.session.state with
    | true =>
      rw [rejected_perform rejected]
      rfl
    | false =>
      rw [← accepted_perform rejected]
      rfl

/-- Only a payload that an open session rejects is counted as a parse failure. -/
theorem perform_parseFailures (d : Desk σ) (e : SessionEvent) :
    (d.perform e).1.session.stats.parseFailures =
      d.session.stats.parseFailures + if (d.happening e).isParseFailure then 1 else 0 := by
  have failed : (d.happening e).isParseFailure = true ↔
      d.session.state = .opened ∧ e.isMalformed = true :=
    Happening.isParseFailure_iff
  have step := d.perform_step e
  simp only [failed]
  generalize (d.perform e).1 = d' at step ⊢
  cases step with
  | ignore _ idle =>
    rw [if_neg, Nat.add_zero]
    rintro ⟨live, malformed⟩
    exact idle.unheard (SessionEvent.isMessage_of_isMalformed malformed) live
  | opens => simp [SessionEvent.isMalformed]
  | receives payload message live parsed => simp [SessionEvent.isMalformed_ok parsed]
  | rejects payload fault live parsed => simp [live, SessionEvent.isMalformed_error parsed]
  | sends | loses | retires => simp [SessionEvent.isMalformed]

/-- Every parse failure is answered with the fault of its payload. -/
theorem isParseFailure_reply (failed : (d.happening e).isParseFailure = true) :
    ∃ payload fault, e = .message payload ∧ Json.parse payload = .error fault ∧
      (d.happening e).reply = .handled (.error (.parse fault)) := by
  obtain ⟨live, malformed⟩ := Happening.isParseFailure_iff.mp failed
  cases e with
  | opened | lost | send | retire => cases malformed
  | message payload =>
    cases parsed : Json.parse payload with
    | ok message =>
      have read : parseMessage payload = .ok message := parseMessage_eq_ok.mpr parsed
      cases (SessionEvent.isMalformed_ok read).symm.trans malformed
    | error fault =>
      have unread : parseMessage payload = .error (.parse fault) := by simp [parseMessage, parsed]
      refine ⟨payload, fault, rfl, parsed, ?_⟩
      simp only [happening, perform, Session.handleMessage_rejected live d.log unread]

/-- A sink that refuses the frame of a command has its error returned, and nothing else changes. -/
theorem perform_refused {text : String} {sink : σ} {error : ConsoleError}
    (live : d.session.state = .opened) (nonempty : text ≠ "")
    (refused : CommandSink.sendText d.session.sink (Command.encode ⟨text⟩) = (sink, .error error)) :
    d.perform (.send text) = (⟨{ d.session with sink }, d.log⟩, .sent (.error error)) := by
  simp [perform, Session.send, live, nonempty, refused]

end

end Desk

open Desk in
/-- Rejected input leaves no trace. A run of a session ends the same without the payloads that hold no
message, the empty texts, and the texts for a session that is not open: its state, its log and what
its sink was asked are the same, and so are all its counts but that of parse failures. This one goes
up by one with every payload without a message that an open session is told of, each of which is
answered with its fault. A text whose frame the sink refuses is answered with the error of the sink,
and changes neither the state, nor a count, nor the log. The account of the sink only looks on. -/
theorem rejected_input_leaves_no_trace {σ : Type} [CommandSink σ] (first : Desk (Watched σ))
    (events : List SessionEvent) :
    let last := first.run events
    let kept := first.run (first.accepted events)
    let failures := (first.happenings events).filter Happening.isParseFailure
    last.unwatched = first.unwatched.run events ∧
    kept.session.state = last.session.state ∧
    kept.log = last.log ∧
    kept.session.sink = last.session.sink ∧
    kept.session.stats.messagesReceived = last.session.stats.messagesReceived ∧
    kept.session.stats.commandsSent = last.session.stats.commandsSent ∧
    last.session.stats.parseFailures = first.session.stats.parseFailures + failures.length ∧
    (∀ h ∈ failures, ∃ payload fault, h.event = .message payload ∧
      Json.parse payload = .error fault ∧ h.reply = .handled (.error (.parse fault))) ∧
    ∀ (before : List SessionEvent) (text : String) (sink : Watched σ) (error : ConsoleError),
      let at_ := first.run before
      at_.session.state = .opened → text ≠ "" →
        CommandSink.sendText at_.session.sink (Command.encode ⟨text⟩) = (sink, .error error) →
          at_.perform (.send text) =
            (⟨{ at_.session with sink }, at_.log⟩, .sent (.error error)) := by
  intro last kept failures
  have same : kept = last.withFailures first.session.stats.parseFailures :=
    run_accepted first events first.session.stats.parseFailures
  have counted := run_counts (·.session.stats.parseFailures) perform_parseFailures first events
  rw [List.countP_eq_length_filter] at counted
  rw [same]
  refine ⟨unwatched_run first events, rfl, rfl, rfl, rfl, rfl, counted, ?_, ?_⟩
  · intro h found
    obtain ⟨happened, failed⟩ := List.mem_filter.mp found
    obtain ⟨before, e, after, -, rfl⟩ := mem_happenings happened
    exact isParseFailure_reply failed
  · intro before text sink error at_ live nonempty refused
    exact perform_refused live nonempty refused

/-- A sink that takes `watch` and no frame behind it. -/
theorem rejected_input_leaves_no_trace_of_full_sink :
    let sink : Watched Recorder := ⟨⟨[], 0, some 1, .notOpen .closed⟩, []⟩
    let first : Desk (Watched Recorder) := .fresh ⟨0⟩ sink .raw .empty
    let events : List SessionEvent :=
      [.send "early", .opened, .message "[]", .message "[", .send "", .send "list", .lost,
        .send "late"]
    let last := first.run events
    first.accepted events = [.opened, .message "[]", .send "list", .lost] ∧
      last.session.stats = ⟨1, 1, 1⟩ ∧
      (first.run [.opened, .message "[]", .send "list", .lost]).log = last.log ∧
      ((first.run [.opened]).perform (.send "list")).1.log = (first.run [.opened]).log := by
  intro sink first events last
  have without : first.accepted events = [.opened, .message "[]", .send "list", .lost] := by
    decide +kernel
  obtain ⟨-, -, log, -, -, -, -, -, refused⟩ := rejected_input_leaves_no_trace first events
  rw [without] at log
  refine ⟨without, by decide +kernel, log, ?_⟩
  have sent := refused [.opened] "list" _ (.notOpen .closed) (by decide +kernel) (by decide) rfl
  exact congrArg (·.1.log) sent

end JobConsole
