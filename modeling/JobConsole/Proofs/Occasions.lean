import JobConsole.Proofs.ConsoleRun

namespace JobConsole

/-! ## Occasions -/

/-- What a client writes a line about. -/
inductive Occasion
  /-- The user asked for another session. -/
  | reconnecting
  | connected
  /-- The connection could not be made, or its end was handled. -/
  | closed
  | received (message : Json)

def Occasion.line (mode : RenderMode) : Occasion → String
  | .reconnecting => Client.reconnectingLine
  | .connected => Session.connectedLine
  | .closed => Session.closedLine
  | .received message => renderMessage mode message

def Occasion.fragment (mode : RenderMode) (occasion : Occasion) : String :=
  occasion.line mode ++ lineBreak

namespace Client

def outcome (settings : Settings) (attempt : Attempt) : Occasion :=
  if attempt.connects settings then .connected else .closed

/-- What a payload that is read is written about, if it holds a message. -/
def messageIn? (payload : String) : Option Occasion :=
  match parseMessage payload with
  | .ok message => some (.received message)
  | .error _ => none

/-- What an operation writes about. -/
def occasionsOf (settings : Settings) (unread : Option (List Incoming)) :
    ClientOp → List Occasion
  | .start attempt => [outcome settings attempt]
  | .reconnect attempt => [.reconnecting, outcome settings attempt]
  | .processNext =>
    match unread.bind Inbound.firstEvent with
    | some (.text payload, _) => (messageIn? payload).toList
    | some (.closed _, _) => [.closed]
    | none => []
  | .send _ | .submit _ | .shutdown | .arrive _ => []

theorem occasionsOf_mode (settings : Settings) (mode : RenderMode)
    (unread : Option (List Incoming)) (op : ClientOp) :
    occasionsOf { settings with mode } unread op = occasionsOf settings unread op := rfl

theorem outcomeLine_outcome (settings : Settings) (attempt : Attempt) (mode : RenderMode) :
    outcomeLine settings attempt = (outcome settings attempt).line mode := by
  unfold outcomeLine outcome
  split <;> rfl

/-- The lines of an operation are those of its occasions. -/
theorem linesOf_occasions (settings : Settings) (unread : Option (List Incoming)) (op : ClientOp) :
    linesOf settings unread op =
      (occasionsOf settings unread op).map (Occasion.line settings.mode) := by
  cases op with
  | start attempt => simp [linesOf, occasionsOf, outcomeLine_outcome settings attempt settings.mode]
  | reconnect attempt =>
    simp [linesOf, occasionsOf, outcomeLine_outcome settings attempt settings.mode, Occasion.line]
  | send | submit | shutdown | arrive => rfl
  | processNext =>
    simp only [linesOf, occasionsOf]
    cases unread.bind Inbound.firstEvent with
    | none => rfl
    | some next =>
      obtain ⟨event, rest⟩ := next
      cases event with
      | closed detail => rfl
      | text payload =>
        simp only [messageLine?, messageIn?]
        cases parseMessage payload <;> rfl

end Client

/-! ## What logs gain -/

/-- A log kept its entries and gained some fragments. -/
def Log.Gained (log after : Log) (fragments : List String) : Prop :=
  ∃ told, after.entries = log.entries ++ told ∧ told.map Entry.html = fragments

namespace Log

theorem Gained.refl (log : Log) : log.Gained log [] := ⟨[], by simp⟩

theorem Gained.trans {log middle after : Log} {before behind : List String}
    (h : log.Gained middle before) (h' : middle.Gained after behind) :
    log.Gained after (before ++ behind) := by
  obtain ⟨told, entries, rfl⟩ := h
  obtain ⟨told', entries', rfl⟩ := h'
  exact ⟨told ++ told', by rw [entries', entries, List.append_assoc], List.map_append⟩

theorem addLines_gained (log : Log) (lines : List String) :
    log.Gained (log.addLines lines) (lines.map (· ++ lineBreak)) := by
  induction lines generalizing log with
  | nil => exact .refl log
  | cons line lines ih =>
    have first : log.Gained (log.appendLine line) [line ++ lineBreak] := ⟨[_], rfl, rfl⟩
    exact first.trans (ih (log.appendLine line))

theorem Gained.fragments {log after : Log} {fragments : List String}
    (h : log.Gained after fragments) : after.fragments = log.fragments ++ fragments := by
  obtain ⟨told, entries, rfl⟩ := h
  simp [Log.fragments, entries]

end Log

namespace Client

/-- A client in step gains the lines of its operations, and no entry goes. -/
theorem perform_gained {c : Client} {unread : Option (List Incoming)}
    (reads : Reads c.settings.mode c.active unread) (op : ClientOp) :
    c.log.Gained (c.perform op).1.log ((linesOf c.settings unread op).map (· ++ lineBreak)) := by
  obtain ⟨lines, log⟩ := c.perform_log op
  have gained : c.log.Gained (c.perform op).1.log (lines.map (· ++ lineBreak)) :=
    log ▸ Log.addLines_gained { c.log with input := op.typed c.log.input } lines
  have same := List.append_cancel_left (gained.fragments.symm.trans (perform_fragments reads op))
  exact same ▸ gained

/-- A client in step gains the fragments of its occasions. -/
theorem perform_tells {c : Client} {unread : Option (List Incoming)}
    (reads : Reads c.settings.mode c.active unread) (op : ClientOp) :
    c.log.Gained (c.perform op).1.log
      ((occasionsOf c.settings unread op).map (Occasion.fragment c.settings.mode)) := by
  have gained := perform_gained reads op
  rw [linesOf_occasions, List.map_map] at gained
  exact gained

end Client

end JobConsole
