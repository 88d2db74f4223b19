import JobConsole.Proofs.ConsoleRun

/-!
# The outbound half of a console

A console without what its server told it: the line being typed, the state of the session, the
frames of the connections and the answers to what was sent. It goes on by what the user asks for and
by the ends of connections, and by what the sinks take:

* `Outline`, `Stimulus`, `Outline.next`: the outbound half, and how it goes on;
* `Console.outline`, `Console.stimulus?`: that of a console, and what a move is to it;
* `Client.SendStep`, `Client.send_step`: all that the sending of a text can do;
* `ask_outline`: an operation takes the outline of a console on. That of a payload leaves it.
-/

namespace JobConsole

/-- A session, as far as it sends. -/
structure Outlet where
  state : ConnectionState
  commandsSent : Nat
  /-- Whether its connection is read. -/
  reading : Bool
  /-- Whether it holds the sending end of its connection. -/
  held : Bool
  deriving DecidableEq, Repr

namespace Outlet

/-- The connection ended. -/
def ended (outlet : Outlet) : Outlet := { outlet with state := .closed, reading := false }

/-- The session was ended. It lets go of its connection, unless that ended before. -/
def retired (outlet : Outlet) : Outlet :=
  { outlet.ended with held := outlet.held && outlet.state.isTerminal }

/-- A session whose connection was just made, or could not be. -/
def ofAttempt (connects : Bool) : Outlet :=
  if connects then ⟨.opened, 1, true, true⟩ else ⟨.closed, 0, false, false⟩

end Outlet

/-- A console, as far as it sends. -/
structure Outline where
  settings : Settings
  /-- The line being typed. -/
  input : String
  outlet : Option Outlet
  /-- The frames that were accepted on the current connection. -/
  current : Option (List Outgoing)
  /-- The frames that were accepted on those before. -/
  former : List (List Outgoing)
  /-- How the sending of texts was answered, oldest first. -/
  answers : List (Except ConsoleError Bool)
  /-- Whether the frames that were offered to a sink were taken, oldest first. -/
  offers : List Bool
  listening : Bool
  stopped : Bool

/-- What the outbound half of a console goes on by. -/
inductive Stimulus
  /-- An operation, or a control that comes to one. -/
  | asked (op : ClientOp)
  | entered (attempt : Attempt)
  /-- The loop read the end of the connection. -/
  | ended
  /-- The loop found that no controls can come any more. -/
  | hungUp
  /-- The loop handled a shutdown. -/
  | dismissed
  deriving DecidableEq, Repr

namespace Outline

def answer (o : Outline) (result : Except ConsoleError Bool) : Outline :=
  { o with answers := o.answers ++ [result] }

/-- The connection of the session ends. -/
def close (o : Outline) : Outline := { o with outlet := o.outlet.map Outlet.ended }

/-- The session is ended, if there is one. -/
def retire (o : Outline) : Outline := { o with outlet := o.outlet.map Outlet.retired }

/-- Another session takes the place of the one before. -/
def start (o : Outline) (attempt : Attempt) : Outline :=
  { o with
    outlet := some (.ofAttempt (attempt.connects o.settings))
    current := if attempt.connects o.settings then some Traffic.start.sent else none
    former := o.former ++ (o.outlet.bind fun _ => o.current).toList }

/-- A text is sent. The sinks take the frames whose number `accepts` holds of. -/
def send (accepts : Nat → Bool) (o : Outline) (text : String) : Outline :=
  if text = "" then o.answer (.ok false)
  else
    match o.outlet with
    | none => o.answer (.error (.notOpen .closed))
    | some outlet =>
      if outlet.state ≠ .opened then o.answer (.error (.notOpen outlet.state))
      else if accepts o.offers.length then
        { o.answer (.ok true) with
          outlet := some { outlet with commandsSent := outlet.commandsSent + 1 }
          current := o.current.map (· ++ [.text (Command.encode ⟨text⟩)])
          offers := o.offers ++ [true] }
      else { o.answer (.error (.notOpen .closed)) with offers := o.offers ++ [false] }

theorem send_unopened {accepts : Nat → Bool} {o : Outline} {outlet : Outlet} {text : String}
    (nonempty : text ≠ "") (at_ : o.outlet = some outlet) (idle : outlet.state ≠ .opened) :
    o.send accepts text = o.answer (.error (.notOpen outlet.state)) := by
  simp [send, nonempty, at_, idle]

theorem send_refused {accepts : Nat → Bool} {o : Outline} {outlet : Outlet} {text : String}
    (nonempty : text ≠ "") (at_ : o.outlet = some outlet) (live : outlet.state = .opened)
    (refuses : accepts o.offers.length = false) :
    o.send accepts text =
      { o.answer (.error (.notOpen .closed)) with offers := o.offers ++ [false] } := by
  simp [send, nonempty, at_, live, refuses]

theorem send_accepted {accepts : Nat → Bool} {o : Outline} {outlet : Outlet} {text : String}
    (nonempty : text ≠ "") (at_ : o.outlet = some outlet) (live : outlet.state = .opened)
    (takes : accepts o.offers.length = true) :
    o.send accepts text =
      { o.answer (.ok true) with
        outlet := some { outlet with commandsSent := outlet.commandsSent + 1 }
        current := o.current.map (· ++ [.text (Command.encode ⟨text⟩)])
        offers := o.offers ++ [true] } := by
  simp [send, nonempty, at_, live, takes]

def ask (accepts : Nat → Bool) (o : Outline) : ClientOp → Outline
  | .start attempt => o.start attempt
  | .reconnect attempt => { o.retire with input := "" }.start attempt
  | .send text => o.send accepts text
  | .submit text => { o with input := text }.send accepts text
  | .processNext => o.close
  | .shutdown => o.retire
  | .arrive _ => o

def settle (o : Outline) : Outline :=
  if !o.listening && !o.outlet.any Outlet.reading then { o.retire with stopped := true } else o

theorem settle_waits {o : Outline}
    (h : o.listening = true ∨ o.outlet.any Outlet.reading = true) : o.settle = o := by
  obtain h | h := h <;> simp [settle, h]

theorem settle_stops {o : Outline} (deaf : o.listening = false)
    (idle : o.outlet.any Outlet.reading = false) : o.settle = { o.retire with stopped := true } := by
  simp [settle, deaf, idle]

def next (accepts : Nat → Bool) (o : Outline) : Stimulus → Outline
  | .asked op => o.ask accepts op
  | .entered attempt =>
    { (if o.outlet.isNone then o.start attempt else o) with listening := true, stopped := false }
  | .ended => o.close.settle
  | .hungUp => { o with listening := false }.settle
  | .dismissed => { o.retire with stopped := true }

/-- The connections that were made, the current one first: whether the session holds the sending end,
and the frames that were accepted. -/
def lines (o : Outline) : List (Bool × List Outgoing) :=
  (o.outlet.bind fun outlet => o.current.map (outlet.held, ·)).toList ++ o.former.map (false, ·)

end Outline

/-! ## The outline of a console -/

def Active.outlet (a : Active) : Outlet :=
  ⟨a.session.state, a.session.stats.commandsSent, a.inbound.isSome, a.session.sink.held⟩

def Client.outlet? (c : Client) : Option Outlet := c.active.map Active.outlet

/-- Whether the next event of the current connection is its end. -/
def Client.atEnd (c : Client) : Bool :=
  match c.inbound?.bind Inbound.next with
  | some (.closed _, _) => true
  | _ => false

def Reply.answer? : Reply → Option (Except ConsoleError Bool)
  | .sent result => some result
  | .done | .progressed _ => none

namespace Console

def answers (w : Console) : List (Except ConsoleError Bool) := w.replies.filterMap Reply.answer?

def outline (w : Console) : Outline where
  settings := w.client.settings
  input := w.client.log.input
  outlet := w.client.outlet?
  current := w.current.map Traffic.sent
  former := w.former.map fun line => line.2.sent
  answers := w.answers
  offers := w.offers
  listening := w.loop.listening
  stopped := w.loop.stopped

/-- What a move is to the outbound half. The handling of a payload is nothing to it, nor are the
arrival of items, the sending of a control that is not handled yet, and the steps of a writer. -/
def stimulus? (w : Console) : Move → Option Stimulus
  | .ask .processNext => if w.client.atEnd then some (.asked .processNext) else none
  | .ask (.arrive _) => none
  | .ask op => some (.asked op)
  | .enter attempt => some (.entered attempt)
  | .turn side attempt =>
    if w.loop.stopped || !w.loop.isReady side then none
    else
      match side with
      | .inbound => if w.client.atEnd then some .ended else none
      | .control =>
        match w.loop.controls with
        | [] => some .hungUp
        | .submit text :: _ => some (.asked (.submit text))
        | .reconnect :: _ => some (.asked (.reconnect attempt))
        | .shutdown :: _ => some .dismissed
  | .send _ | .hangUp | .write _ => none

def stimuli (w : Console) : List Move → List Stimulus
  | [] => []
  | m :: moves => (w.stimulus? m).toList ++ stimuli (w.move m) moves

end Console

/-! ## The session as far as it sends -/

namespace Session

section
variable {σ : Type}

/-- A payload changes nothing for what a session sends. -/
theorem handleMessage_sends (s : Session σ) (log : Log) (payload : String) :
    (s.handleMessage log payload).1.state = s.state ∧
      (s.handleMessage log payload).1.stats.commandsSent = s.stats.commandsSent ∧
      (s.handleMessage log payload).1.sink = s.sink := by
  by_cases live : s.state = .opened
  · cases hp : parseMessage payload with
    | ok message => rw [handleMessage_parsed live log hp]; exact ⟨rfl, rfl, rfl⟩
    | error e => rw [handleMessage_rejected live log hp]; exact ⟨rfl, rfl, rfl⟩
  · rw [handleMessage_unopened live]
    exact ⟨rfl, rfl, rfl⟩

theorem handleClose_ended (s : Session σ) (log : Log) :
    (s.handleClose log).1.state = .closed ∧ (s.handleClose log).1.stats = s.stats ∧
      (s.handleClose log).1.sink = s.sink := by
  by_cases closed : s.state = .closed
  · rw [handleClose_closed closed]
    exact ⟨closed, rfl, rfl⟩
  · rw [handleClose_live closed]
    exact ⟨rfl, rfl, rfl⟩

theorem retire_ended (s : Session ChannelSink) :
    s.retire.state = .closed ∧ s.retire.stats = s.stats ∧
      s.retire.sink.held = (s.sink.held && s.state.isTerminal) := by
  by_cases closed : s.state = .closed
  · rw [retire_closed closed, closed]
    exact ⟨rfl, rfl, (Bool.and_true _).symm⟩
  · rw [retire_live closed]
    have goesOn : s.state.isTerminal = false := by
      rw [Bool.eq_false_iff, ne_eq, ConnectionState.isTerminal_eq_true]
      exact closed
    rw [goesOn, Bool.and_false]
    exact ⟨rfl, rfl, rfl⟩

theorem send_refused {s : Session ChannelSink} (live : s.state = .opened) {text : String}
    (nonempty : text ≠ "") (full : s.sink.isConnected = false) :
    s.send text = (s, .error (.notOpen .closed)) := by
  unfold send
  rw [if_neg nonempty, if_neg (not_not_intro live), Traffic.sendText_unconnected full]

theorem send_accepted {s : Session ChannelSink} (live : s.state = .opened) {text : String}
    (nonempty : text ≠ "") (room : s.sink.isConnected = true) :
    s.send text =
      ({ s with
          sink := (CommandSink.sendText s.sink (Command.encode ⟨text⟩)).1
          stats := { s.stats with commandsSent := s.stats.commandsSent + 1 } }, .ok true) := by
  unfold send
  rw [if_neg nonempty, if_neg (not_not_intro live), Traffic.sendText_connected room]

theorem send_idle [CommandSink σ] {s : Session σ} (idle : s.state ≠ .opened) {text : String}
    (nonempty : text ≠ "") : s.send text = (s, .error (.notOpen s.state)) := by
  unfold send
  rw [if_neg nonempty, if_pos idle]

end

end Session

namespace Client

section
variable {c : Client}

theorem isReading_outlet (c : Client) : c.isReading = c.outlet?.any Outlet.reading := by
  unfold isReading inbound? outlet?
  cases c.active <;> rfl

theorem outlet_state (c : Client) : c.outlet?.map Outlet.state = c.state? := by
  unfold outlet? state? session?
  cases c.active <;> rfl

theorem outlet_commandsSent (c : Client) :
    c.outlet?.map Outlet.commandsSent = c.stats?.map SessionStats.commandsSent := by
  unfold outlet? stats? session?
  cases c.active <;> rfl

/-- The session on a new connection is open, and has sent `watch`. -/
theorem openedSession_sends (settings : Settings) (id : SessionId) :
    (openedSession settings id).state = .opened ∧
      (openedSession settings id).stats.commandsSent = 1 ∧
      (openedSession settings id).sink.held = true := by
  have connected : ChannelSink.connected.isConnected = true := rfl
  have held : ChannelSink.connected.held = true := rfl
  simp [openedSession, Session.emit, Session.start, Traffic.sendText_connected connected, held]

theorem start_outlet (c : Client) (attempt : Attempt) :
    (c.start attempt).outlet? =
      some (.ofAttempt (attempt.connects c.settings)) := by
  cases h : attempt.connects c.settings with
  | true =>
    obtain ⟨state, sent, held⟩ := openedSession_sends c.settings c.ids.draw.1
    rw [start_connected h]
    simp [outlet?, Active.outlet, Outlet.ofAttempt, state, sent, held]
  | false =>
    rw [start_failed h]
    rfl

theorem shutdown_outlet (c : Client) : c.shutdown.outlet? = c.outlet?.map Outlet.retired := by
  unfold shutdown outlet?
  cases c.active with
  | none => rfl
  | some a =>
    obtain ⟨state, stats, held⟩ := a.session.retire_ended
    simp [Active.outlet, Outlet.retired, Outlet.ended, state, stats, held]

theorem deliver_outlet (c : Client) (items : List Incoming) :
    (c.deliver items).outlet? = c.outlet? := by
  unfold deliver outlet?
  cases c.active with
  | none => rfl
  | some a => simp [Active.outlet]

theorem dispatch_outlet {a : Active} (h : c.active = some a) (event : InboundEvent) :
    (c.dispatch event).outlet? =
      match event with
      | .text _ => some a.outlet
      | .closed _ => some a.outlet.ended := by
  cases event with
  | text payload =>
    obtain ⟨state, sent, sink⟩ := a.session.handleMessage_sends c.log payload
    rw [dispatch_payload h]
    simp [outlet?, Active.outlet, state, sent, sink]
  | closed detail =>
    obtain ⟨state, stats, sink⟩ := a.session.handleClose_ended c.log
    rw [dispatch_end h]
    simp [outlet?, Active.outlet, Outlet.ended, state, stats, sink]

/-- The handling of the next event changes something for what is sent only if it is an end. -/
theorem processNext_outlet (c : Client) :
    c.processNext.1.outlet? = if c.atEnd then c.outlet?.map Outlet.ended else c.outlet? := by
  cases ha : c.active with
  | none => simp [processNext, atEnd, inbound?, ha]
  | some a =>
    obtain ⟨session, inbound⟩ := a
    cases inbound with
    | none => simp [processNext, atEnd, inbound?, ha]
    | some inbound =>
      cases hn : inbound.next with
      | none => simp [processNext, atEnd, inbound?, ha, hn]
      | some next =>
        obtain ⟨event, rest⟩ := next
        have handled := dispatch_outlet
          (c := { c with active := some ⟨session, some rest⟩ }) rfl event
        simp only [processNext, ha, hn, handled]
        cases event <;> simp [atEnd, inbound?, outlet?, Active.outlet, ha, hn]

inductive SendStep (c : Client) (text : String) : Client × Except ConsoleError Bool → Prop
  | nothing (empty : text = "") : SendStep c text (c, .ok false)
  | unstarted (nonempty : text ≠ "") (none : c.active = none) :
      SendStep c text (c, .error (.notOpen .closed))
  | unopened (nonempty : text ≠ "") (a : Active) (at_ : c.active = some a)
      (idle : a.session.state ≠ .opened) :
      SendStep c text (c, .error (.notOpen a.session.state))
  | refused (nonempty : text ≠ "") (a : Active) (at_ : c.active = some a)
      (live : a.session.state = .opened) (full : a.session.sink.isConnected = false) :
      SendStep c text (c, .error (.notOpen .closed))
  | accepted (nonempty : text ≠ "") (a : Active) (at_ : c.active = some a)
      (live : a.session.state = .opened) (room : a.session.sink.isConnected = true) :
      SendStep c text
        ({ c with active := some { a with session :=
            { a.session with
              sink := (CommandSink.sendText a.session.sink (Command.encode ⟨text⟩)).1
              stats :=
                { a.session.stats with commandsSent := a.session.stats.commandsSent + 1 } } } },
          .ok true)

/-- Sending does one of the things that `SendStep` lists. -/
theorem send_step (c : Client) (text : String) : SendStep c text (c.send text) := by
  by_cases empty : text = ""
  · have nothing : c.send text = (c, .ok false) := by simp [send, empty]
    exact nothing ▸ .nothing empty
  · cases ha : c.active with
    | none =>
      have unstarted : c.send text = (c, .error (.notOpen .closed)) := by simp [send, empty, ha]
      exact unstarted ▸ .unstarted empty ha
    | some a =>
      have sent : c.send text =
          ({ c with active := some { a with session := (a.session.send text).1 } },
            (a.session.send text).2) := by
        simp [send, empty, ha]
      -- A session that takes nothing leaves the client as it was.
      have same : ({ c with active := some { a with session := a.session } } : Client) = c := by
        rw [← ha]
      rw [sent]
      by_cases live : a.session.state = .opened
      · cases room : a.session.sink.isConnected with
        | true =>
          rw [Session.send_accepted live empty room]
          exact .accepted empty a ha live room
        | false =>
          rw [Session.send_refused live empty room, same]
          exact .refused empty a ha live room
      · rw [Session.send_idle live empty, same]
        exact .unopened empty a ha live

end

end Client

/-! ## What a console offers to its sinks -/

/-- The frames offered so far were taken as `accepts` says, which numbers them from the first on. -/
def Follows (accepts : Nat → Bool) (offers : List Bool) : Prop :=
  ∀ (i : Nat) (taken : Bool), offers[i]? = some taken → taken = accepts i

section
variable {accepts : Nat → Bool} {offers : List Bool}

theorem Follows.earlier (more : List Bool) (h : Follows accepts (offers ++ more)) :
    Follows accepts offers := by
  intro i taken found
  obtain ⟨bound, -⟩ := List.getElem?_eq_some_iff.mp found
  exact h i taken (by rwa [List.getElem?_append_left bound])

theorem Follows.last {taken : Bool} (h : Follows accepts (offers ++ [taken])) :
    accepts offers.length = taken :=
  (h offers.length taken (by simp)).symm

end

namespace Console

section
variable {w : Console}

theorem perform_offers (w : Console) (op : ClientOp) :
    (w.perform op).offers = w.offers ++ (w.client.offer? op).toList := rfl

theorem performAll_offers (w : Console) (ops : List ClientOp) :
    w.offers <+: (w.performAll ops).offers := by
  induction ops generalizing w with
  | nil => exact List.prefix_rfl
  | cons op ops ih => exact (List.prefix_append _ _).trans (ih (w.perform op))

theorem move_offers (w : Console) (m : Move) : w.offers <+: (w.move m).offers := by
  cases m with
  | ask op => exact w.performAll_offers [op]
  | enter attempt => exact w.performAll_offers _
  | turn side attempt => exact w.performAll_offers _
  | send | hangUp | write => exact List.prefix_rfl

theorem run_offers (w : Console) (moves : List Move) : w.offers <+: (w.run moves).offers := by
  induction moves generalizing w with
  | nil => exact List.prefix_rfl
  | cons m moves ih => exact (w.move_offers m).trans (ih (w.move m))

/-! ## Operations on the outline -/

variable {accepts : Nat → Bool}

/-- The outline after an operation, from what it does to the session, the connections and the
replies. -/
theorem perform_outline (w : Console) (op : ClientOp) :
    (w.perform op).outline =
      { settings := w.client.settings
        input := op.typed w.client.log.input
        outlet := (w.client.perform op).1.outlet?
        current := (w.world.perform op).current.map Traffic.sent
        former := (w.world.perform op).former.map fun line => line.2.sent
        answers := w.answers ++ (w.client.perform op).2.answer?.toList
        offers := w.offers ++ (w.client.offer? op).toList
        listening := w.loop.listening
        stopped := w.loop.stopped } := by
  have answers : (w.perform op).answers =
      w.answers ++ (w.client.perform op).2.answer?.toList := by
    simp only [Console.answers, perform, List.filterMap_append]
    cases (w.client.perform op).2 <;> rfl
  simp only [outline, perform_client, Client.perform_settings, Client.perform_input, answers]
  rfl

theorem accept_sent (current : Option Traffic) (text : String) :
    (current.map (·.accept text)).map Traffic.sent =
      (current.map Traffic.sent).map (· ++ [.text (Command.encode ⟨text⟩)]) := by
  cases current <;> simp [Traffic.accept, Traffic.sent]

theorem outlet_active {a : Active} (h : w.client.active = some a) :
    w.outline.outlet = some a.outlet :=
  congrArg (Option.map Active.outlet) h

theorem send_outline (text : String) (follows : Follows accepts (w.perform (.send text)).offers) :
    (w.perform (.send text)).outline = w.outline.send accepts text := by
  have step := w.client.send_step text
  have client : w.client.perform (.send text) =
      ((w.client.send text).1, .sent (w.client.send text).2) := rfl
  have world : w.world.perform (.send text) = w.world.answered text (w.client.send text) := rfl
  rw [perform_outline, client, world]
  rw [perform_offers] at follows
  generalize w.client.send text = result at step
  cases step with
  | nothing empty =>
    have offer : w.client.offer? (.send text) = none := by simp [Client.offer?, empty]
    rw [offer, Outline.send, if_pos empty, Option.toList_none, List.append_nil]
    rfl
  | unstarted nonempty none =>
    have offer : w.client.offer? (.send text) = .none := by
      simp [Client.offer?, Client.state?, Client.session?, none]
    have outlet : w.outline.outlet = .none := congrArg (Option.map Active.outlet) none
    rw [offer, Outline.send, if_neg nonempty, outlet, Option.toList_none, List.append_nil]
    rfl
  | unopened nonempty a at_ idle =>
    have offer : w.client.offer? (.send text) = none := by
      simp [Client.offer?, Client.state?, Client.session?, at_, idle]
    rw [offer, Outline.send_unopened nonempty (outlet_active at_) idle, Option.toList_none,
      List.append_nil]
    rfl
  | refused nonempty a at_ live full =>
    have offer : w.client.offer? (.send text) = some false := by
      simp [Client.offer?, Client.state?, Client.session?, Client.sink?, at_, live, nonempty,
        Traffic.sendText_unconnected full, Except.isOk, Except.toBool]
    rw [offer] at follows
    rw [offer, Outline.send_refused nonempty (outlet_active at_) live follows.last]
    rfl
  | accepted nonempty a at_ live room =>
    have offer : w.client.offer? (.send text) = some true := by
      simp [Client.offer?, Client.state?, Client.session?, Client.sink?, at_, live, nonempty,
        Traffic.sendText_connected room, Except.isOk, Except.toBool]
    have current : (w.world.current.map (·.accept text)).map Traffic.sent =
        w.outline.current.map (· ++ [.text (Command.encode ⟨text⟩)]) :=
      accept_sent w.current text
    rw [offer] at follows
    rw [offer, Outline.send_accepted nonempty (outlet_active at_) live follows.last]
    simp only [World.answered, current, Traffic.sendText_connected room]
    rfl

/-- A session that is dropped leaves the frames of its connection, if it had one. -/
theorem leave_former (w : World) :
    w.leave.former.map (fun line => line.2.sent) =
      w.former.map (fun line => line.2.sent) ++
        (w.client.outlet?.bind fun _ => w.current.map Traffic.sent).toList := by
  simp only [World.leave, World.line?, Client.sink?, Client.session?, Client.outlet?,
    List.map_append]
  cases w.client.active <;> cases w.current <;> rfl

theorem start_outline (attempt : Attempt) :
    (w.perform (.start attempt)).outline = w.outline.start attempt := by
  have outlet : (w.client.perform (.start attempt)).1.outlet? =
      (w.outline.start attempt).outlet := w.client.start_outlet attempt
  have current : (w.world.perform (.start attempt)).current.map Traffic.sent =
      (w.outline.start attempt).current := by
    simp only [World.perform, World.replace, Outline.start]
    exact apply_ite (Option.map Traffic.sent) _ _ _
  have former : (w.world.perform (.start attempt)).former.map (fun line => line.2.sent) =
      (w.outline.start attempt).former := leave_former w.world
  rw [perform_outline, outlet, current, former]
  simp only [Client.perform, Reply.answer?, Client.offer?, ClientOp.typed, Option.toList_none,
    List.append_nil]
  rfl

/-- What is neither sent nor started changes the session alone. -/
theorem session_outline {op : ClientOp}
    (kind : op = .processNext ∨ op = .shutdown ∨ ∃ items, op = .arrive items) :
    (w.perform op).outline = { w.outline with outlet := (w.client.perform op).1.outlet? } := by
  rw [perform_outline]
  obtain rfl | rfl | ⟨items, rfl⟩ := kind <;>
    simp only [Client.perform, Reply.answer?, Client.offer?, ClientOp.typed, Option.toList_none,
      List.append_nil] <;> rfl

theorem shutdown_outline (w : Console) : (w.perform .shutdown).outline = w.outline.retire := by
  rw [session_outline (.inr (.inl rfl))]
  simp only [Client.perform, Client.shutdown_outlet]
  rfl

theorem processNext_outline :
    (w.perform .processNext).outline = if w.client.atEnd then w.outline.close else w.outline := by
  rw [session_outline (.inl rfl)]
  simp only [Client.perform, Client.processNext_outlet]
  split <;> rfl

theorem arrive_outline (items : List Incoming) :
    (w.perform (.arrive items)).outline = w.outline := by
  rw [session_outline (.inr (.inr ⟨items, rfl⟩))]
  simp only [Client.perform, Client.deliver_outlet]
  rfl

def onClient (w : Console) (c : Client) : Console := { w with loop := { w.loop with client := c } }

theorem submit_outline (text : String)
    (follows : Follows accepts (w.perform (.submit text)).offers) :
    (w.perform (.submit text)).outline = w.outline.ask accepts (.submit text) :=
  send_outline (w := w.onClient { w.client with log := w.client.log.setInput text }) text follows

theorem reconnect_outline (attempt : Attempt) :
    (w.perform (.reconnect attempt)).outline = w.outline.ask accepts (.reconnect attempt) := by
  have room : (w.onClient w.client.makeRoom).outline = { w.outline.retire with input := "" } := by
    have ended : w.client.makeRoom.outlet? = w.client.outlet?.map Outlet.retired :=
      w.client.shutdown_outlet
    change ({ w.outline with input := "", outlet := w.client.makeRoom.outlet? } : Outline) = _
    rw [ended]
    rfl
  have started := start_outline (w := w.onClient w.client.makeRoom) attempt
  rw [room] at started
  exact started

/-- The outline goes on by an operation, unless the handling of an event finds no end. -/
theorem ask_outline (op : ClientOp) (follows : Follows accepts (w.perform op).offers)
    (ends : op = .processNext → w.client.atEnd = true) :
    (w.perform op).outline = w.outline.ask accepts op := by
  cases op with
  | start attempt => exact start_outline attempt
  | reconnect attempt => exact reconnect_outline attempt
  | send text => exact send_outline text follows
  | submit text => exact submit_outline text follows
  | processNext => rw [processNext_outline, if_pos (ends rfl)]; rfl
  | shutdown => exact w.shutdown_outline
  | arrive items => exact arrive_outline items

end

end Console

end JobConsole
