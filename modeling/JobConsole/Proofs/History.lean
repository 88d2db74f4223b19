import JobConsole.Proofs.ClientRun

namespace JobConsole

/-- The events in what arrives on a connection. Behind its end there are none. -/
def eventsOf : List Incoming → List InboundEvent
  | [] => []
  | item :: rest =>
    match item.event? with
    | none => eventsOf rest
    | some (.text payload) => .text payload :: eventsOf rest
    | some (.closed detail) => [.closed detail]

/-- What arrives from now on, as long as no other session is started. -/
def arrivalsOf : List ClientOp → List Incoming
  | [] => []
  | .start _ :: _ | .reconnect _ :: _ => []
  | .arrive items :: ops => items ++ arrivalsOf ops
  | _ :: ops => arrivalsOf ops

/-- The events that a session handles from now on, as long as it is not shut down or replaced and its
connection has not ended; `unread` has arrived already. -/
def handledOf (unread : List Incoming) : List ClientOp → List InboundEvent
  | [] => []
  | .start _ :: _ | .reconnect _ :: _ | .shutdown :: _ => []
  | .arrive items :: ops => handledOf (unread ++ items) ops
  | .processNext :: ops =>
    match Inbound.firstEvent unread with
    | none => handledOf unread ops
    | some (.text payload, rest) => .text payload :: handledOf rest ops
    | some (.closed detail, _) => [.closed detail]
  | .send _ :: ops | .submit _ :: ops => handledOf unread ops

/-- One session in the history of a client. -/
structure Chapter where
  /-- Whether the user asked for another connection. -/
  byReconnect : Bool
  /-- Whether its connection could be made. -/
  connected : Bool
  /-- What arrived until another session was started. -/
  arrived : List Incoming
  /-- The events it handled. -/
  handled : List InboundEvent

def chapterOf (settings : Settings) (byReconnect : Bool) (attempt : Attempt)
    (ops : List ClientOp) : Chapter where
  byReconnect
  connected := attempt.connects settings
  arrived := arrivalsOf ops
  handled := if attempt.connects settings then handledOf [] ops else []

def chaptersOf (settings : Settings) : List ClientOp → List Chapter
  | [] => []
  | .start attempt :: ops => chapterOf settings false attempt ops :: chaptersOf settings ops
  | .reconnect attempt :: ops => chapterOf settings true attempt ops :: chaptersOf settings ops
  | _ :: ops => chaptersOf settings ops

def InboundEvent.payload? : InboundEvent → Option String
  | .text payload => some payload
  | .closed _ => none

def InboundEvent.isClosed : InboundEvent → Bool
  | .text _ => false
  | .closed _ => true

/-- The lines that some events leave: one for each payload that is a message, and one for the end. -/
def eventLines (mode : RenderMode) (events : List InboundEvent) : List String :=
  (events.filterMap InboundEvent.payload?).filterMap (Client.messageLine? mode) ++
    if events.any InboundEvent.isClosed then [Session.closedLine] else []

def Chapter.lines (mode : RenderMode) (chapter : Chapter) : List String :=
  (if chapter.byReconnect then [Client.reconnectingLine] else []) ++
    if chapter.connected then Session.connectedLine :: eventLines mode chapter.handled
    else [Session.closedLine]

/-! ## Events are handled in the order of their arrival -/

theorem eventsOf_text {items rest : List Incoming} {payload : String}
    (h : Inbound.firstEvent items = some (.text payload, rest)) (more : List Incoming) :
    eventsOf (items ++ more) = .text payload :: eventsOf (rest ++ more) := by
  induction items with
  | nil => simp [Inbound.firstEvent] at h
  | cons item items ih =>
    simp only [Inbound.firstEvent] at h
    cases he : item.event? with
    | none => rw [he] at h; simpa [eventsOf, he] using ih h
    | some event =>
      obtain ⟨rfl, rfl⟩ : event = .text payload ∧ items = rest := by simpa [he] using h
      simp [eventsOf, he]

theorem eventsOf_closed {items rest : List Incoming} {detail : Option String}
    (h : Inbound.firstEvent items = some (.closed detail, rest)) (more : List Incoming) :
    eventsOf (items ++ more) = [.closed detail] := by
  induction items with
  | nil => simp [Inbound.firstEvent] at h
  | cons item items ih =>
    simp only [Inbound.firstEvent] at h
    cases he : item.event? with
    | none => rw [he] at h; simpa [eventsOf, he] using ih h
    | some event =>
      obtain ⟨rfl, -⟩ : event = .closed detail ∧ items = rest := by simpa [he] using h
      simp [eventsOf, he]

/-- What a session handles is a beginning of the events that arrive. -/
theorem handledOf_prefix (unread : List Incoming) (ops : List ClientOp) :
    handledOf unread ops <+: eventsOf (unread ++ arrivalsOf ops) := by
  induction ops generalizing unread with
  | nil => exact List.nil_prefix
  | cons op ops ih =>
    cases op with
    | start | reconnect | shutdown => exact List.nil_prefix
    | send | submit => exact ih unread
    | arrive items => simpa [handledOf, arrivalsOf] using ih (unread ++ items)
    | processNext =>
      simp only [handledOf, arrivalsOf]
      cases hf : Inbound.firstEvent unread with
      | none => exact ih unread
      | some next =>
        obtain ⟨event, rest⟩ := next
        cases event with
        | text payload =>
          simp only [eventsOf_text hf]
          exact (List.prefix_cons_inj _).mpr (ih rest)
        | closed detail => simp only [eventsOf_closed hf]; exact List.prefix_rfl

theorem chaptersOf_prefix (settings : Settings) (ops : List ClientOp) :
    ∀ chapter ∈ chaptersOf settings ops, chapter.handled <+: eventsOf chapter.arrived := by
  have each (byReconnect : Bool) (attempt : Attempt) (ops : List ClientOp) :
      (chapterOf settings byReconnect attempt ops).handled <+:
        eventsOf (chapterOf settings byReconnect attempt ops).arrived := by
    simp only [chapterOf]
    split
    · exact handledOf_prefix [] ops
    · exact List.nil_prefix
  induction ops with
  | nil => simp [chaptersOf]
  | cons op ops ih =>
    cases op with
    | start attempt =>
      exact List.forall_mem_cons.mpr ⟨each false attempt ops, ih⟩
    | reconnect attempt =>
      exact List.forall_mem_cons.mpr ⟨each true attempt ops, ih⟩
    | send | submit | processNext | shutdown | arrive => exact ih

/-! ## The log -/

/-- The lines still to come: those of the events to be handled by the current session, and those of
the sessions to be started. -/
def linesToCome (settings : Settings) (unread : Option (List Incoming)) (ops : List ClientOp) :
    List String :=
  (unread.elim [] fun items => eventLines settings.mode (handledOf items ops)) ++
    (chaptersOf settings ops).flatMap (Chapter.lines settings.mode)

@[simp] theorem eventLines_nil (mode : RenderMode) : eventLines mode [] = [] := rfl

theorem eventLines_text (mode : RenderMode) (payload : String) (events : List InboundEvent) :
    eventLines mode (.text payload :: events) =
      (Client.messageLine? mode payload).toList ++ eventLines mode events := by
  cases h : Client.messageLine? mode payload <;>
    simp [eventLines, InboundEvent.payload?, InboundEvent.isClosed, h]

/-- What an operation logs, and what is to come behind it, was to come before it. -/
theorem linesToCome_cons (settings : Settings) (unread : Option (List Incoming)) (op : ClientOp)
    (ops : List ClientOp) :
    linesToCome settings unread (op :: ops) =
      Client.linesOf settings unread op ++
        linesToCome settings (Client.afterOp settings unread op) ops := by
  cases op with
  | start attempt | reconnect attempt =>
    cases unread <;> cases h : attempt.connects settings <;>
      simp [linesToCome, Client.linesOf, Client.afterOp, Client.outcomeLine, handledOf, chaptersOf,
        chapterOf, Chapter.lines, h]
  | send | submit => cases unread <;> rfl
  | shutdown => cases unread <;> rfl
  | arrive items => cases unread <;> rfl
  | processNext =>
    cases unread with
    | none => rfl
    | some items =>
      cases hf : Inbound.firstEvent items with
      | none => simp [linesToCome, Client.linesOf, Client.afterOp, handledOf, chaptersOf, hf]
      | some next =>
        obtain ⟨event, rest⟩ := next
        cases event with
        | text payload =>
          simp [linesToCome, Client.linesOf, Client.afterOp, handledOf, chaptersOf, hf,
            eventLines_text]
        | closed detail =>
          simp [linesToCome, Client.linesOf, Client.afterOp, handledOf, chaptersOf, hf,
            eventLines, InboundEvent.payload?, InboundEvent.isClosed]

/-- A run adds to the log the lines that were to come. -/
theorem run_fragments {c : Client} {unread : Option (List Incoming)}
    (h : Client.Reads c.settings.mode c.active unread) (ops : List ClientOp) :
    (c.run ops).log.fragments =
      c.log.fragments ++ (linesToCome c.settings unread ops).map (· ++ lineBreak) := by
  induction ops generalizing c unread with
  | nil => cases unread <;> simp [linesToCome, handledOf, chaptersOf, eventLines]
  | cons op ops ih =>
    have settings := Client.perform_settings c op
    have reads := Client.perform_reads h op
    rw [← settings] at reads
    rw [Client.run_cons, ih reads, Client.perform_fragments h, settings, linesToCome_cons,
      List.map_append, List.append_assoc]

/-- **The log is exactly the history.** After any run of a client that was just made, the log is the
concatenation of what its sessions leave, oldest first, each line with its line break: `reconnecting`
where the user asked for the session; then only `connection closed` if the connection could not be
made; else `connected`, a line for each payload handled that is a message, and `connection closed` if
the end of the connection was handled. What a session handles is a beginning of the events that
arrived for it, in their order. -/
theorem log_is_history {settings : Settings} {ids : IdSource} {c : Client}
    (h : Client.ofSettings settings ids = .ok c) (ops : List ClientOp) :
    (c.run ops).log.fragments =
        ((chaptersOf settings ops).flatMap (Chapter.lines settings.mode)).map (· ++ lineBreak) ∧
      ∀ chapter ∈ chaptersOf settings ops, chapter.handled <+: eventsOf chapter.arrived := by
  obtain ⟨rfl, idle, empty⟩ := Client.ofSettings_spec h
  have reads : Client.Reads c.settings.mode c.active none := by rw [idle]; exact .unstarted
  refine ⟨?_, chaptersOf_prefix c.settings ops⟩
  rw [run_fragments reads, empty]
  rfl

/-- The first session hears a message, something that is no message, and a message it does not read
any more; the second cannot connect; the server of the third closes. -/
theorem log_is_history_of_three :
    (plainClient.run
        [.start .accepted, .arrive [.text "[1]", .ping [], .text "x", .text "[2]"], .processNext,
          .submit "list", .processNext, .reconnect (.failed .connectionRefused), .processNext,
          .reconnect .accepted, .arrive [.text "3", .close none, .text "4"], .processNext,
          .processNext, .processNext]).log.fragments =
      ["connected<br/>", "[1]<br/>", "reconnecting<br/>", "connection closed<br/>",
        "reconnecting<br/>", "connected<br/>", "3<br/>", "connection closed<br/>"] := by
  rw [(log_is_history ofSettings_plainClient _).1]
  decide +kernel

end JobConsole
