import JobConsole.Proofs.Conversation
import JobConsole.Proofs.Milestones
import JobConsole.Proofs.SessionCounts

/-!
# What a log adds up to

Every session leaves as many entries as its counts and its fate say, also when another one took its
place.
-/

namespace JobConsole

/-- What became of a session: whether its connection was made, whether the end of it was handled, and
what the session counted. -/
structure SessionRecord where
  connected : Bool
  lost : Bool
  stats : SessionStats
  deriving DecidableEq, Repr

def SessionRecord.entries (r : SessionRecord) : Nat :=
  r.connected.toNat + r.stats.messagesReceived + (!r.connected || r.lost).toNat

def SessionRecord.entriesOf : List SessionRecord → Nat
  | [] => 0
  | r :: rest => r.entries + entriesOf rest

theorem SessionRecord.entries_recount {r : SessionRecord} {stats : SessionStats} {shown : Nat}
    (more : stats.messagesReceived = r.stats.messagesReceived + shown) :
    ({ r with stats } : SessionRecord).entries = r.entries + shown := by
  simp only [entries, more]
  omega

theorem SessionRecord.entries_lost {r : SessionRecord} (connected : r.connected = true)
    (unlost : r.lost = false) :
    ({ r with lost := true } : SessionRecord).entries = r.entries + 1 := by
  simp [entries, connected, unlost]

/-- The sessions of a client, the current one first, and how often another one was asked for. -/
structure Ledger where
  sessions : List SessionRecord
  reconnects : Nat
  deriving DecidableEq, Repr

namespace Ledger

def empty : Ledger := ⟨[], 0⟩

def total (l : Ledger) : Nat := SessionRecord.entriesOf l.sessions + l.reconnects

def begin (l : Ledger) (connected : Bool) : Ledger :=
  { l with sessions := ⟨connected, false, ⟨0, 0, 0⟩⟩ :: l.sessions }

def mark (l : Ledger) : Milestone → Ledger
  | .reconnecting => { l with reconnects := l.reconnects + 1 }
  | .connected => l.begin true
  | .refused => l.begin false
  | .lost => { l with sessions := l.sessions.modifyHead fun r => { r with lost := true } }
  | .retired => l

/-- Writes down what the current session counted. -/
def recount (l : Ledger) (stats : SessionStats) : Ledger :=
  { l with sessions := l.sessions.modifyHead fun r => { r with stats } }

/-- Writes down what an operation was to the sessions. -/
def note (l : Ledger) (c : Client) (op : ClientOp) : Ledger :=
  let marked := (c.milestones op).foldl mark l
  (c.perform op).1.stats?.elim marked marked.recount

theorem total_cons (r : SessionRecord) (rest : List SessionRecord) (reconnects : Nat) :
    total ⟨r :: rest, reconnects⟩ = r.entries + total ⟨rest, reconnects⟩ := by
  simp [total, SessionRecord.entriesOf, Nat.add_assoc]

/-- What some operations were to the sessions, each asked of the client beside it. -/
def ofJournal (past : List (Client × ClientOp)) : Ledger :=
  past.foldl (fun l asked => l.note asked.1 asked.2) empty

theorem ofJournal_append (past : List (Client × ClientOp)) (c : Client) (op : ClientOp) :
    ofJournal (past ++ [(c, op)]) = (ofJournal past).note c op := by
  simp [ofJournal]

end Ledger

/-! ## Operations that start no session -/

namespace Client

/-- The second client is the first one after some messages were shown, and the end of the connection
was handled or not; no session was started in between. -/
structure Hears (c c' : Client) (shown : Nat) (lost : Bool) : Prop where
  length : c'.log.length = c.log.length + shown + lost.toNat
  messages : c'.stats?.map SessionStats.messagesReceived =
    c.stats?.map fun stats => stats.messagesReceived + shown
  live : c'.state? = some .opened → c.state? = some .opened ∧ lost = false
  idle : c.state? ≠ some .opened → shown = 0 ∧ lost = false

section
variable {c : Client}

theorem hears_of_session {c' : Client} (log : c'.log.length = c.log.length)
    (session : c'.session? = c.session?) : Hears c c' 0 false where
  length := log
  messages := by simp [stats?, session]
  live := by simp [state?, session]
  idle _ := ⟨rfl, rfl⟩

theorem send_hears (c : Client) (text : String) : Hears c (c.send text).1 0 false := by
  have step := c.send_step text
  generalize c.send text = sent at step
  cases step with
  | nothing | unstarted | unopened | refused => exact hears_of_session rfl rfl
  | accepted _ a at_ live room =>
    constructor
    case length => rfl
    case messages => simp [stats?, session?, at_]
    case live => simp [state?, session?, at_]
    case idle => exact fun _ => ⟨rfl, rfl⟩

theorem shutdown_hears (h : c.InStep) : Hears c c.shutdown 0 false := by
  obtain none | ⟨session, unread, at_, live⟩ | ⟨session, at_, closed⟩ := h.cases
  · exact hears_of_session rfl (by simp [session?, shutdown, none])
  · constructor
    case length => rfl
    case messages => simp [stats?, session?, shutdown, at_, Session.retire_live, live]
    case live => simp [state?, session?, shutdown, at_, Session.retire_live, live]
    case idle => exact fun _ => ⟨rfl, rfl⟩
  · exact hears_of_session rfl (by simp [session?, shutdown, at_, Session.retire_closed closed])

theorem processNext_hears (h : c.InStep) : ∃ shown, Hears c c.processNext.1 shown c.atEnd := by
  obtain ⟨unread, reads⟩ := h
  have ended := reads.atEnd
  generalize at_ : c.active = active at reads
  cases reads with
  | unstarted => 
    have idle : c.processNext.1 = c := by simp [processNext, at_]
    rw [idle, ended]
    exact ⟨0, hears_of_session rfl rfl⟩
  | ended session closed =>
    have idle : c.processNext.1 = c := by simp [processNext, at_]
    rw [idle, ended]
    exact ⟨0, hears_of_session rfl rfl⟩
  | opened session items live renders =>
    rw [Option.bind_some] at ended
    cases next : Inbound.firstEvent items with
    | none =>
      rw [ended, next, processNext_waiting at_ next]
      exact ⟨0, hears_of_session rfl rfl⟩
    | some found =>
      obtain ⟨event, rest⟩ := found
      cases event with
      | closed detail =>
        rw [ended, next, processNext_closed at_ live next]
        refine ⟨0, ?_⟩
        constructor
        case length => simp [InboundEvent.isClosed]
        case messages => simp [stats?, session?, at_]
        case live => simp [state?, session?]
        case idle => simp [state?, session?, at_, live]
      | text payload =>
        rw [ended, next, processNext_text at_ next, dispatch_payload rfl]
        cases parsed : parseMessage payload with
        | ok message =>
          refine ⟨1, ?_⟩
          constructor
          case length => simp [Session.handleMessage_parsed live _ parsed, InboundEvent.isClosed]
          case messages => simp [stats?, session?, at_, Session.handleMessage_parsed live _ parsed]
          case live => simp [state?, session?, at_, live, InboundEvent.isClosed]
          case idle => simp [state?, session?, at_, live]
        | error e =>
          refine ⟨0, ?_⟩
          constructor
          case length => simp [Session.handleMessage_rejected live _ parsed, InboundEvent.isClosed]
          case messages => simp [stats?, session?, at_, Session.handleMessage_rejected live _ parsed]
          case live => simp [state?, session?, at_, live, InboundEvent.isClosed]
          case idle => simp [state?, session?, at_, live]

end

end Client

/-! ## The balance -/

/-- The log is as long as the ledger says, whose first session is the current one; while that is open,
its connection was made and did not end. -/
structure Balanced (l : Ledger) (c : Client) : Prop where
  inStep : c.InStep
  stats : l.sessions.head?.map SessionRecord.stats = c.stats?
  live : c.state? = some .opened → ∀ r ∈ l.sessions.head?, r.connected = true ∧ r.lost = false
  total : c.log.length = l.total

namespace Balanced

section
variable {l : Ledger} {c : Client}

/-- A session that is started leaves one entry, which tells how the attempt turned out. -/
theorem started (inStep : c.InStep) (total : c.log.length = l.total) (attempt : Attempt) :
    let marked := l.mark (.ofAttempt c.settings attempt)
    Balanced ((c.start attempt).stats?.elim marked marked.recount) (c.start attempt) := by
  intro marked
  have after : (c.start attempt).InStep := inStep.perform (.start attempt)
  have begun : marked = l.begin (attempt.connects c.settings) := by
    simp only [marked, Milestone.ofAttempt]
    cases attempt.connects c.settings <;> rfl
  rw [begun]
  cases connects : attempt.connects c.settings with
  | true =>
    rw [Client.start_connected connects] at after ⊢
    constructor
    case inStep => exact after
    case stats => rfl
    case live => simp [Ledger.begin, Ledger.recount, Client.stats?, Client.session?]
    case total =>
      rw [Log.length_appendLine, total, Nat.add_comm]
      simp [Ledger.begin, Ledger.recount, Client.stats?, Client.session?, Ledger.total_cons,
        SessionRecord.entries, Client.openedSession, Session.start]
  | false =>
    rw [Client.start_failed connects] at after ⊢
    constructor
    case inStep => exact after
    case stats => rfl
    case live => simp [Client.state?, Client.session?, Client.failedSession]
    case total =>
      rw [Log.length_appendLine, total, Nat.add_comm]
      simp [Ledger.begin, Ledger.recount, Client.stats?, Client.session?, Ledger.total_cons,
        SessionRecord.entries, Client.failedSession, Session.start]

theorem hears {c' : Client} {shown : Nat} {lost : Bool} (h : Balanced l c) (inStep : c'.InStep)
    (heard : c.Hears c' shown lost) :
    let marked := if lost then l.mark .lost else l
    Balanced (c'.stats?.elim marked marked.recount) c' := by
  intro marked
  obtain ⟨sessions, reconnects⟩ := l
  cases sessions with
  | nil =>
    have none : c.stats? = none := h.stats.symm
    have unstarted : c.state? ≠ some .opened := by
      intro live
      obtain ⟨session, found, -⟩ := Option.map_eq_some_iff.mp live
      simp [Client.stats?, found] at none
    obtain ⟨rfl, rfl⟩ := heard.idle unstarted
    have still : c'.stats? = Option.none := by simpa [none] using heard.messages
    rw [still]
    constructor
    case inStep => exact inStep
    case stats => exact still.symm
    case live => simp [marked]
    case total => exact heard.length.trans h.total
  | cons r rest =>
    have before : some r.stats = c.stats? := h.stats
    have messages := heard.messages
    rw [← before] at messages
    obtain ⟨stats, now, more⟩ := Option.map_eq_some_iff.mp messages
    have length := heard.length
    rw [h.total, Ledger.total_cons] at length
    cases lost with
    | false =>
      constructor
      case inStep => exact inStep
      case stats => simp [now, marked, Ledger.recount]
      case live =>
        intro live
        rw [now]
        simpa [marked, Ledger.recount] using h.live (heard.live live).1
      case total =>
        rw [length, now, Bool.toNat_false]
        change _ = Ledger.total ⟨{ r with stats } :: rest, reconnects⟩
        rw [Ledger.total_cons, SessionRecord.entries_recount more]
        omega
    | true =>
      have opened : c.state? = some .opened := by
        apply Decidable.byContradiction
        intro idle
        cases (heard.idle idle).2
      obtain ⟨connected, unlost⟩ := h.live opened r rfl
      constructor
      case inStep => exact inStep
      case stats => simp [now, marked, Ledger.recount, Ledger.mark]
      case live =>
        intro live
        cases (heard.live live).2
      case total =>
        rw [length, now, Bool.toNat_true]
        change _ = Ledger.total ⟨{ r with lost := true, stats } :: rest, reconnects⟩
        have counted : ({ r with lost := true, stats } : SessionRecord).entries =
            ({ r with lost := true } : SessionRecord).entries + shown :=
          SessionRecord.entries_recount (r := { r with lost := true }) more
        rw [Ledger.total_cons, counted, SessionRecord.entries_lost connected unlost]
        omega

/-- Every operation keeps the log and the ledger balanced. -/
theorem asked (h : Balanced l c) (op : ClientOp) : Balanced (l.note c op) (c.perform op).1 := by
  have inStep := h.inStep.perform op
  cases op with
  | start attempt => exact started h.inStep h.total attempt
  | reconnect attempt =>
    have room : c.makeRoom.InStep := h.inStep.perform .shutdown
    have total : c.makeRoom.log.length = (l.mark .reconnecting).total := by
      have cleared : c.log.clearInput.length = l.total := h.total
      rw [Client.makeRoom, Log.length_appendLine, cleared]
      rfl
    exact started room total attempt
  | send text => exact h.hears inStep (c.send_hears text)
  | submit text =>
    have sent := Client.send_hears { c with log := c.log.setInput text } text
    exact h.hears inStep ⟨sent.length, sent.messages, sent.live, sent.idle⟩
  | processNext =>
    obtain ⟨shown, heard⟩ := Client.processNext_hears h.inStep
    have balanced := h.hears inStep heard
    simp only [Ledger.note, Client.milestones]
    cases ended : c.atEnd with
    | true => simpa [ended] using balanced
    | false => simpa [ended] using balanced
  | shutdown =>
    have balanced := h.hears inStep (Client.shutdown_hears h.inStep)
    simp only [Ledger.note, Client.milestones]
    split
    · exact balanced
    · exact balanced
  | arrive items =>
    exact h.hears inStep (Client.hears_of_session rfl (c.deliver_session items))

theorem written (h : Balanced l c) (sink : ChannelSink) : Balanced l (c.setSink sink) where
  inStep := h.inStep.setSink sink
  stats := h.stats.trans (c.setSink_stats sink).symm
  live := by simpa using h.live
  total := h.total

theorem made {settings : Settings} {ids : IdSource} (h : Client.ofSettings settings ids = .ok c) :
    Balanced .empty c := by
  obtain ⟨-, idle, none⟩ := Client.ofSettings_spec h
  constructor
  case inStep => exact Client.reachable_inStep (.made h)
  case stats => simp [Ledger.empty, Client.stats?, Client.session?, idle]
  case live => simp [Ledger.empty]
  case total =>
    rw [← c.log.length_fragments, none]
    rfl

/-- A run keeps the log of a client and the ledger of the run balanced. -/
theorem ofJournal (h : Balanced .empty c) (moves : List Move) :
    Balanced (.ofJournal ((Console.ofClient c).journal moves))
      ((Console.ofClient c).run moves).client := by
  have asked (past : List (Client × ClientOp)) (c : Client) (op : ClientOp)
      (balanced : Balanced (.ofJournal past) c) :
      Balanced (.ofJournal (past ++ [(c, op)])) (c.perform op).1 := by
    rw [Ledger.ofJournal_append]
    exact balanced.asked op
  have begun : Balanced (.ofJournal []) (Console.ofClient c).client := h
  exact Console.run_journal asked (fun _ _ _ _ _ _ balanced => balanced.written _) begun moves

end

end Balanced

/-- The counters tell the truth. A session over any sink has counted as sent the frames that its sink
took, and these are the texts that it answered as sent, and `watch` if the sink took it; it has
counted as received the entries that it added, its two status lines apart, and these and the parse
failures are the payloads that it was told of while it was open. No count ever goes back, and all
counts together are no more than the events. The log of a client that was just made is as long as the
sessions it started and the reconnects say, whatever happens to it: each session leaves an entry when
its connection is made, one for each message it counted, and one when its connection could not be
made or the end of it was handled. -/
theorem counters_add_up {σ : Type} [CommandSink σ] (id : SessionId) (sink : σ) (mode : RenderMode)
    (log : Log) (events : List SessionEvent) {settings : Settings} {ids : IdSource} {c : Client}
    (h : Client.ofSettings settings ids = .ok c) (moves : List Move) :
    let first : Desk (Watched σ) := .fresh id ⟨sink, []⟩ mode log
    let last := first.run events
    let happened := first.happenings events
    let stats := last.session.stats
    let w := (Console.ofClient c).run moves
    let ledger := Ledger.ofJournal ((Console.ofClient c).journal moves)
    last.unwatched = (Desk.fresh id sink mode log).run events ∧
    stats.commandsSent = last.session.sink.calls.countP SinkCall.isTaken ∧
    stats.commandsSent = happened.countP Happening.isSent +
      (if .frame Command.watch.encode true ∈ Desk.callsOf (· = .opened) first events
        then 1 else 0) ∧
    (∃ told, last.log.entries = log.entries ++ told ∧
      stats.messagesReceived = told.countP Entry.isMessage) ∧
    stats.messagesReceived + stats.parseFailures = happened.countP Happening.isHeard ∧
    (∀ before after, events = before ++ after → (first.run before).session.stats.Le stats) ∧
    stats.total ≤ events.length ∧
    w.client.log.length = SessionRecord.entriesOf ledger.sessions + ledger.reconnects ∧
    ledger.sessions.head?.map SessionRecord.stats = w.client.stats? := by
  intro first last happened stats w ledger
  have taken : stats.commandsSent = last.takenCount := by
    have counted := first.run_commandsSent events
    have none : first.takenCount = 0 := rfl
    have unsent : first.session.stats.commandsSent = 0 := rfl
    rwa [none, unsent, Nat.zero_add] at counted
  have balanced : Balanced ledger w.client := Balanced.ofJournal (.made h) moves
  refine ⟨Desk.unwatched_run first events, taken, ?_, ?_, ?_, ?_, ?_, balanced.total,
    balanced.stats⟩
  · have frames := first.run_taken events
    have none : first.takenCount = 0 := rfl
    rw [none, Nat.zero_add, Desk.opened_taken rfl, Nat.add_comm] at frames
    exact taken.trans frames
  · obtain ⟨told, entries, counted⟩ := first.run_shows events
    exact ⟨told, entries, counted.trans (Nat.zero_add _)⟩
  · have heard := Desk.run_counts
      (fun d => d.session.stats.messagesReceived + d.session.stats.parseFailures)
      Desk.perform_heard first events
    exact heard.trans (Nat.zero_add _)
  · rintro before after rfl
    simp only [stats, last, Desk.run_append]
    exact (Desk.run_grows _ after).1
  · have grown := (first.run_grows events).2
    have none : first.session.stats.total = 0 := rfl
    rwa [none, Nat.zero_add] at grown

/-- A sink that takes `watch` and one frame behind it; a client whose server ends the first connection
and does not answer the second attempt. -/
theorem counters_add_up_of_two_sessions :
    let sink : Recorder := ⟨[], 0, some 2, .notOpen .closed⟩
    let events : List SessionEvent :=
      [.opened, .send "list", .message "[]", .send "stop", .message "[", .lost, .message "[]"]
    let moves : List Move :=
      [.ask (.start .accepted), .ask (.arrive [.text "[]", .text "[", .close none]),
        .ask .processNext, .ask .processNext, .ask .processNext, .ask (.reconnect .silent)]
    ((Desk.fresh ⟨0⟩ (Watched.mk sink []) .raw .empty).run events).session.stats = ⟨1, 1, 2⟩ ∧
      ((Desk.fresh ⟨0⟩ (Watched.mk sink []) .raw .empty).run events).session.sink.calls.countP
        SinkCall.isTaken = 2 ∧
      Ledger.ofJournal ((Console.ofClient plainClient).journal moves) =
        ⟨[⟨false, false, ⟨0, 0, 0⟩⟩, ⟨true, true, ⟨1, 1, 1⟩⟩], 1⟩ ∧
      ((Console.ofClient plainClient).run moves).client.log.length = 5 := by
  intro sink events moves
  obtain ⟨-, taken, -, -, -, -, -, length, -⟩ :=
    counters_add_up ⟨0⟩ sink .raw .empty events ofSettings_plainClient moves
  have stats : ((Desk.fresh ⟨0⟩ (Watched.mk sink []) .raw .empty).run events).session.stats =
      ⟨1, 1, 2⟩ := by
    decide +kernel
  have ledger : Ledger.ofJournal ((Console.ofClient plainClient).journal moves) =
      ⟨[⟨false, false, ⟨0, 0, 0⟩⟩, ⟨true, true, ⟨1, 1, 1⟩⟩], 1⟩ := by
    decide +kernel
  rw [stats] at taken
  rw [ledger] at length
  exact ⟨stats, taken.symm, ledger, length.trans (by decide)⟩

end JobConsole
