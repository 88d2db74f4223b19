import JobConsole.Proofs.RenderedLines
import JobConsole.Proofs.SessionSteps

/-!
# The life of a session

A session over any sink, whatever happens to it in whatever order:

* `Watched`: a sink with an account of what it was asked;
* `ConnectionState.after`: the state behind an event, as a function of the state before it;
* `Desk.run_adds`: what a run adds to a count is the sum of what its events add;
* `session_lifecycle`: only allowed transitions happen, each status line is written and the sink is
  closed at most once, and nothing happens any more to a closed session.
-/

namespace JobConsole

/-- What a session asks of its sink, and whether the sink took a frame. -/
inductive SinkCall
  | frame (text : String) (taken : Bool)
  | close
  deriving DecidableEq, Repr

/-- A sink with an account of what it was asked. -/
structure Watched (σ : Type) where
  sink : σ
  calls : List SinkCall

instance {σ : Type} [CommandSink σ] : CommandSink (Watched σ) where
  sendText w text :=
    let (sink, result) := CommandSink.sendText w.sink text
    (⟨sink, w.calls ++ [.frame text result.isOk]⟩, result)
  close w := ⟨CommandSink.close w.sink, w.calls ++ [.close]⟩

def SessionEvent.ends : SessionEvent → Bool
  | .lost | .retire => true
  | _ => false

def beforeEnd (events : List SessionEvent) : List SessionEvent :=
  events.takeWhile fun e => !e.ends

@[simp] theorem beforeEnd_cons (e : SessionEvent) (events : List SessionEvent) :
    beforeEnd (e :: events) = if e.ends then [] else e :: beforeEnd events := by
  rw [beforeEnd, List.takeWhile_cons]
  cases e.ends <;> rfl

def firstEnd (events : List SessionEvent) : Option SessionEvent := events.find? SessionEvent.ends

/-! ## States -/

def ConnectionState.after : ConnectionState → SessionEvent → ConnectionState
  | .connecting, .opened => .opened
  | .connecting, .lost | .connecting, .retire => .closed
  | .opened, .lost | .opened, .retire => .closed
  | s, _ => s

theorem ConnectionState.after_allowed (s : ConnectionState) (e : SessionEvent) :
    s.after e = s ∨ s.transition (s.after e) = .ok (s.after e) := by
  cases s <;> cases e <;> first | exact .inl rfl | exact .inr rfl

theorem foldl_after_closed (events : List SessionEvent) :
    events.foldl ConnectionState.after .closed = .closed := by
  induction events with
  | nil => rfl
  | cons e events ih => exact ih

/-- A session is open at some time when an open event comes before every end. -/
theorem opened_iff (events : List SessionEvent) :
    (∃ before, before <+: events ∧ before.foldl ConnectionState.after .connecting = .opened) ↔
      .opened ∈ beforeEnd events := by
  induction events with
  | nil => simp [beforeEnd]
  | cons e events ih =>
    -- The empty prefix leaves the session connecting, so only those that begin with `e` count.
    have first : (∃ before, before <+: e :: events ∧
        before.foldl ConnectionState.after .connecting = .opened) ↔
        ∃ before, before <+: events ∧
          before.foldl ConnectionState.after (ConnectionState.connecting.after e) = .opened := by
      constructor
      · rintro ⟨before, isPrefix, h⟩
        rcases List.prefix_cons_iff.mp isPrefix with rfl | ⟨rest, rfl, hr⟩
        · cases h
        · exact ⟨rest, hr, h⟩
      · rintro ⟨before, isPrefix, h⟩
        exact ⟨e :: before, (List.prefix_cons_inj e).mpr isPrefix, h⟩
    rw [first]
    cases e with
    | opened => exact ⟨fun _ => by simp [SessionEvent.ends], fun _ => ⟨[], by simp, rfl⟩⟩
    | message | send => simpa [SessionEvent.ends, ConnectionState.after] using ih
    | lost | retire => simp [SessionEvent.ends, ConnectionState.after, foldl_after_closed]

/-! ## Counts -/

/-- The sum of what events add, each in the state it finds. -/
def totalFrom (adds : ConnectionState → SessionEvent → Nat) :
    ConnectionState → List SessionEvent → Nat
  | _, [] => 0
  | s, e :: events => adds s e + totalFrom adds (s.after e) events

/-- One for the event that opens a session. -/
def opening (s : ConnectionState) (e : SessionEvent) : Nat :=
  if s = .connecting ∧ e = .opened then 1 else 0

/-- One for an event of the kind `cause` that ends a session. -/
def ending (cause : SessionEvent) (s : ConnectionState) (e : SessionEvent) : Nat :=
  if s ≠ .closed ∧ e = cause then 1 else 0

theorem totalFrom_opening (s : ConnectionState) (events : List SessionEvent) :
    totalFrom opening s events =
      if s = .connecting ∧ .opened ∈ beforeEnd events then 1 else 0 := by
  induction events generalizing s with
  | nil => simp [totalFrom, beforeEnd]
  | cons e events ih =>
    rw [totalFrom, ih]
    cases s <;> cases e <;>
      simp [opening, ConnectionState.after, SessionEvent.ends]

theorem totalFrom_ending (cause : SessionEvent) (h : cause.ends = true) (s : ConnectionState)
    (events : List SessionEvent) :
    totalFrom (ending cause) s events =
      if s ≠ .closed ∧ firstEnd events = some cause then 1 else 0 := by
  induction events generalizing s with
  | nil => simp [totalFrom, firstEnd]
  | cons e events ih =>
    rw [totalFrom, ih]
    cases cause <;> simp only [SessionEvent.ends, Bool.false_eq_true] at h <;>
      cases s <;> cases e <;>
      simp [ending, ConnectionState.after, firstEnd, SessionEvent.ends]

namespace Desk

section
variable {σ : Type} [CommandSink σ]

theorem perform_state (d : Desk σ) (e : SessionEvent) :
    (d.perform e).1.session.state = d.session.state.after e := by
  generalize hd : (d.perform e).1 = d'
  have step := perform_step d e
  rw [hd] at step
  cases step with
  | ignore _ idle =>
    cases hs : d.session.state <;> cases e <;> simp_all [Ignores, ConnectionState.after]
  | opens fresh => simp [fresh, ConnectionState.after]
  | receives _ _ live | rejects _ _ live | sends _ live => simp [live, ConnectionState.after]
  | loses live | retires live =>
    cases hs : d.session.state <;> simp_all [ConnectionState.after]

theorem run_state (d : Desk σ) (events : List SessionEvent) :
    (d.run events).session.state = events.foldl ConnectionState.after d.session.state := by
  induction events generalizing d with
  | nil => rfl
  | cons e events ih => rw [run_cons, ih, perform_state]; rfl

/-- What a run adds to a count is the sum of what its events add. -/
theorem run_adds {count : Desk σ → Nat} {adds : ConnectionState → SessionEvent → Nat}
    (step : ∀ d e d', Step d e d' → count d' = count d + adds d.session.state e) (d : Desk σ)
    (events : List SessionEvent) :
    count (d.run events) = count d + totalFrom adds d.session.state events := by
  induction events generalizing d with
  | nil => rfl
  | cons e events ih =>
    rw [run_cons, ih, step _ _ _ (perform_step d e), perform_state, totalFrom, Nat.add_assoc]

def lineCount (line : String) (d : Desk σ) : Nat := d.log.fragments.count (line ++ lineBreak)

theorem rendered_ne_status {line : String} (h : line ∈ statusLines) (mode : RenderMode)
    (message : Json) : renderMessage mode message ++ lineBreak ≠ line ++ lineBreak := by
  intro same
  exact renderMessage_ne_status h mode message (String.append_left_inj lineBreak |>.mp same)

theorem step_connectedLine (d : Desk σ) (e : SessionEvent) (d' : Desk σ) (h : Step d e d') :
    lineCount Session.connectedLine d' =
      lineCount Session.connectedLine d + opening d.session.state e := by
  have status : Session.connectedLine ∈ statusLines := by simp [statusLines]
  have other := rendered_ne_status status
  cases h with
  | ignore _ idle =>
    cases hs : d.session.state <;> cases e <;> simp_all [Ignores, opening]
  | opens fresh => simp [lineCount, opening, fresh]
  | receives _ _ live | rejects _ _ live | sends _ live => simp [lineCount, opening, live, other]
  | loses | retires => simp [lineCount, opening, Session.connectedLine, Session.closedLine, lineBreak]

theorem step_closedLine (d : Desk σ) (e : SessionEvent) (d' : Desk σ) (h : Step d e d') :
    lineCount Session.closedLine d' =
      lineCount Session.closedLine d + ending .lost d.session.state e := by
  have status : Session.closedLine ∈ statusLines := by simp [statusLines]
  have other := rendered_ne_status status
  cases h with
  | ignore _ idle =>
    cases hs : d.session.state <;> cases e <;> simp_all [Ignores, ending]
  | opens => simp [lineCount, ending, Session.connectedLine, Session.closedLine, lineBreak]
  | receives | rejects | sends => simp [lineCount, ending, other]
  | loses live => simp [lineCount, ending, live]
  | retires => simp [lineCount, ending]

end

/-! ## Sinks with an account -/

section
variable {σ : Type} [CommandSink σ]

@[simp] theorem sendText_calls (w : Watched σ) (text : String) :
    (CommandSink.sendText w text).1.calls =
      w.calls ++ [.frame text (CommandSink.sendText w.sink text).2.isOk] := rfl

@[simp] theorem close_calls (w : Watched σ) :
    (CommandSink.close w).calls = w.calls ++ [.close] := rfl

/-- The same without the account. -/
def unwatched (d : Desk (Watched σ)) : Desk σ :=
  ⟨⟨d.session.id, d.session.state, d.session.sink.sink, d.session.mode, d.session.stats⟩, d.log⟩

theorem unwatched_emit (s : Session (Watched σ)) (text : String) (log : Log) :
    unwatched ⟨s.emit text, log⟩ = ⟨(unwatched ⟨s, log⟩).session.emit text, log⟩ := by
  cases hr : CommandSink.sendText s.sink.sink (Command.encode ⟨text⟩) with
  | mk sink result => cases result <;> simp [unwatched, Session.emit, CommandSink.sendText, hr]

theorem unwatched_opened (d : Desk (Watched σ)) :
    (d.perform .opened).1.unwatched = (d.unwatched.perform .opened).1 := by
  cases h : d.session.state with
  | connecting =>
    obtain ⟨session, log⟩ := Session.handleOpen_connecting h d.log
    obtain ⟨session', log'⟩ :=
      Session.handleOpen_connecting (s := d.unwatched.session) (by simp [unwatched, h]) d.log
    have emitted :=
      unwatched_emit ({ d.session with state := .opened } : Session (Watched σ))
        Command.watch.name (d.log.appendLine Session.connectedLine)
    simp only [perform, session, log, emitted]
    simp only [unwatched] at session' log' ⊢
    rw [session', log']
  | opened | closed => simp [perform, unwatched, Session.handleOpen_late, h]

theorem unwatched_send (d : Desk (Watched σ)) (text : String) :
    (d.perform (.send text)).1.unwatched = (d.unwatched.perform (.send text)).1 := by
  by_cases h : d.session.state = .opened
  · by_cases ht : text = ""
    · simp [ht, perform, unwatched, Session.send_empty]
    · have sent := Session.send_opened (s := d.unwatched.session) (by simp [unwatched, h]) ht
      simp only [perform, Session.send_opened h ht, unwatched_emit, sent]
      rfl
  · have kept := Session.send_unopened (s := d.unwatched.session) (by simp [unwatched, h]) text
    simp only [perform, Session.send_unopened h, kept]

/-- The account only looks on. -/
theorem unwatched_perform (d : Desk (Watched σ)) (e : SessionEvent) :
    (d.perform e).1.unwatched = (d.unwatched.perform e).1 := by
  cases e with
  | opened => exact unwatched_opened d
  | message payload =>
    cases h : d.session.state with
    | opened =>
      cases hp : parseMessage payload with
      | ok message => simp [perform, unwatched, Session.handleMessage, h, hp]
      | error e => simp [perform, unwatched, Session.handleMessage, h, hp]
    | connecting | closed => simp [perform, unwatched, Session.handleMessage, h]
  | lost =>
    by_cases h : d.session.state.isTerminal = true <;>
      simp [perform, unwatched, Session.handleClose, h]
  | send text => exact unwatched_send d text
  | retire =>
    by_cases h : d.session.state.isTerminal = true <;>
      simp [perform, unwatched, Session.retire, h, CommandSink.close]

theorem unwatched_run (d : Desk (Watched σ)) (events : List SessionEvent) :
    (d.run events).unwatched = d.unwatched.run events := by
  induction events generalizing d with
  | nil => rfl
  | cons e events ih => rw [run_cons, ih, unwatched_perform, run_cons]

def closeCount (d : Desk (Watched σ)) : Nat := d.session.sink.calls.count .close

theorem step_close (d : Desk (Watched σ)) (e : SessionEvent) (d' : Desk (Watched σ))
    (h : Step d e d') : closeCount d' = closeCount d + ending .retire d.session.state e := by
  cases h with
  | ignore _ idle =>
    cases hs : d.session.state <;> cases e <;> simp_all [Ignores, ending]
  | retires live => simp [closeCount, ending, live]
  | opens | receives | rejects | sends | loses => simp [closeCount, ending]

/-- What the sink is asked by the events of some kind. -/
def callsOf (kind : SessionEvent → Bool) (d : Desk (Watched σ)) : List SessionEvent → List SinkCall
  | [] => []
  | e :: events =>
    let d' := (d.perform e).1
    let asked := d'.session.sink.calls.drop d.session.sink.calls.length
    (if kind e then asked else []) ++ callsOf kind d' events

theorem callsOf_opened_late {d : Desk (Watched σ)} (h : d.session.state ≠ .connecting)
    (events : List SessionEvent) : callsOf (· = .opened) d events = [] := by
  induction events generalizing d with
  | nil => rfl
  | cons e events ih =>
    have later : (d.perform e).1.session.state ≠ .connecting := by
      rw [perform_state]
      cases hs : d.session.state <;> cases e <;> simp_all [ConnectionState.after]
    rw [callsOf, ih later, List.append_nil]
    split
    · next opened =>
      obtain rfl : e = .opened := by simpa using opened
      simp [perform, Session.handleOpen_late h]
    · rfl

/-- Open events ask the sink for one thing at most: to take the `watch` command. -/
theorem callsOf_opened {d : Desk (Watched σ)} (h : d.session.state = .connecting)
    (events : List SessionEvent) :
    ∃ taken, callsOf (· = .opened) d events =
      if .opened ∈ beforeEnd events then [.frame Command.watch.encode taken] else [] := by
  induction events generalizing d with
  | nil => exact ⟨true, by simp [callsOf, beforeEnd]⟩
  | cons e events ih =>
    have state := perform_state d e
    rw [h] at state
    cases e with
    | opened =>
      have silent := callsOf_opened_late (d := (d.perform .opened).1)
        (by rw [state]; simp [ConnectionState.after]) events
      refine ⟨(CommandSink.sendText d.session.sink.sink Command.watch.encode).2.isOk, ?_⟩
      rw [callsOf, silent]
      simp [perform, (Session.handleOpen_connecting h d.log).1, SessionEvent.ends]
    | message | send =>
      obtain ⟨taken, rest⟩ := ih state
      exact ⟨taken, by rw [callsOf, rest]; simp [SessionEvent.ends]⟩
    | lost | retire =>
      have silent := callsOf_opened_late (by rw [state]; simp [ConnectionState.after]) events
      exact ⟨true, by rw [callsOf, silent]; simp [SessionEvent.ends]⟩

/-- A session whose connection is being made, and the log it will write to. -/
def fresh (id : SessionId) (sink : σ) (mode : RenderMode) (log : Log) : Desk σ :=
  ⟨Session.start id sink mode, log⟩

end

end Desk

open Desk in
/-- A session over any sink obeys its state machine. Keeping an account of what the sink is asked
changes nothing. Every step keeps the state or is an allowed transition. The session is open at some
time exactly when an open event comes before every end; then, and only then, the log gets one
`connected` and the sink is asked once to take `watch`. The first end decides the rest: a lost
connection is logged once, a retired one closes the sink once and is not logged. Once the session is
closed nothing changes any more. -/
theorem session_lifecycle {σ : Type} [CommandSink σ] (id : SessionId) (sink : σ)
    (mode : RenderMode) (log : Log) (events : List SessionEvent) :
    let first : Desk (Watched σ) := fresh id ⟨sink, []⟩ mode log
    let last := first.run events
    last.unwatched = (fresh id sink mode log).run events ∧
    (∀ before e after, events = before ++ e :: after →
      let s := (first.run before).session.state
      let t := (first.run (before ++ [e])).session.state
      t = s ∨ s.transition t = .ok t) ∧
    ((∃ before, before <+: events ∧ (first.run before).session.state = .opened) ↔
      .opened ∈ beforeEnd events) ∧
    lineCount Session.connectedLine last =
      lineCount Session.connectedLine first + (if .opened ∈ beforeEnd events then 1 else 0) ∧
    (∃ taken, callsOf (· = .opened) first events =
      if .opened ∈ beforeEnd events then [.frame Command.watch.encode taken] else []) ∧
    lineCount Session.closedLine last =
      lineCount Session.closedLine first + (if firstEnd events = some .lost then 1 else 0) ∧
    (∀ before after, events = before ++ after → (first.run before).session.state = .closed →
      last = first.run before) ∧
    closeCount last = if firstEnd events = some .retire then 1 else 0 := by
  intro first last
  have connecting : first.session.state = .connecting := rfl
  refine ⟨unwatched_run first events, ?_, ?_, ?_, callsOf_opened connecting events, ?_, ?_, ?_⟩
  · intro before e after _
    simp only [run_append, run_cons, run_nil, perform_state]
    exact ConnectionState.after_allowed _ e
  · simp only [run_state, connecting]
    exact opened_iff events
  · simpa [connecting] using
      (run_adds step_connectedLine first events).trans
        (congrArg (_ + ·) (totalFrom_opening _ events))
  · simpa [connecting] using
      (run_adds step_closedLine first events).trans
        (congrArg (_ + ·) (totalFrom_ending .lost rfl _ events))
  · rintro before after rfl closed
    exact (run_append first before after).trans (run_closed closed after)
  · have none : closeCount first = 0 := rfl
    simpa [connecting, none] using
      (run_adds step_close first events).trans
        (congrArg (_ + ·) (totalFrom_ending .retire rfl _ events))

end JobConsole
