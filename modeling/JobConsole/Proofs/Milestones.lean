import JobConsole.Proofs.History
import JobConsole.Proofs.Outline
import JobConsole.Proofs.ReadSide

namespace JobConsole

/-- Something that happened to the sessions of a client. -/
inductive Milestone
  /-- The user asked for another session. -/
  | reconnecting
  | connected
  /-- The connection could not be made. -/
  | refused
  /-- The end of the connection was handled. -/
  | lost
  /-- The session was open and was shut down, and none took its place. -/
  | retired
  deriving DecidableEq, Repr

def Milestone.ofAttempt (settings : Settings) (attempt : Attempt) : Milestone :=
  if attempt.connects settings then .connected else .refused

namespace Client

/-- What an operation is to the sessions of a client. -/
def milestones (c : Client) : ClientOp → List Milestone
  | .start attempt => [.ofAttempt c.settings attempt]
  | .reconnect attempt => [.reconnecting, .ofAttempt c.settings attempt]
  | .processNext => if c.atEnd then [.lost] else []
  | .shutdown => if c.state? = some .opened then [.retired] else []
  | .send _ | .submit _ | .arrive _ => []

def milestonesOf (c : Client) : List ClientOp → List Milestone
  | [] => []
  | op :: ops => c.milestones op ++ (c.perform op).1.milestonesOf ops

/-- What the operations of a journal are to the sessions, each asked of the client beside it. -/
def milestonesIn (past : List (Client × ClientOp)) : List Milestone :=
  past.flatMap fun asked => asked.1.milestones asked.2

def journalOf (c : Client) : List ClientOp → List (Client × ClientOp)
  | [] => []
  | op :: ops => (c, op) :: (c.perform op).1.journalOf ops

theorem milestonesOf_journal (c : Client) (ops : List ClientOp) :
    c.milestonesOf ops = milestonesIn (c.journalOf ops) := by
  induction ops generalizing c with
  | nil => rfl
  | cons op ops ih => rw [milestonesOf, journalOf, milestonesIn, List.flatMap_cons, ih, milestonesIn]

end Client

namespace Console

/-- What happened to the sessions in a run, oldest first. -/
def milestones (w : Console) : List Move → List Milestone
  | [] => []
  | m :: moves => w.client.milestonesOf (w.opsOf m) ++ (w.move m).milestones moves

/-- What was asked of the client in a run, oldest first, each time with the client as it was. -/
def journal (w : Console) : List Move → List (Client × ClientOp)
  | [] => []
  | m :: moves => w.client.journalOf (w.opsOf m) ++ (w.move m).journal moves

theorem milestones_journal (w : Console) (moves : List Move) :
    w.milestones moves = Client.milestonesIn (w.journal moves) := by
  induction moves generalizing w with
  | nil => rfl
  | cons m moves ih =>
    rw [milestones, journal, Client.milestonesIn, List.flatMap_append, ih,
      Client.milestonesOf_journal, Client.milestonesIn, Client.milestonesIn]

section
variable {R : List (Client × ClientOp) → Client → Prop}
  (asked : ∀ (past : List (Client × ClientOp)) (c : Client) (op : ClientOp),
    R past c → R (past ++ [(c, op)]) (c.perform op).1)
include asked

theorem ops_journal {past : List (Client × ClientOp)} {c : Client} (h : R past c)
    (ops : List ClientOp) : R (past ++ c.journalOf ops) (c.run ops) := by
  induction ops generalizing past c with
  | nil => simpa [Client.journalOf] using h
  | cons op ops ih =>
    have step := ih (asked past c op h)
    rwa [List.append_assoc] at step

/-- What every operation and every step of the writer keeps is kept by a run. -/
theorem run_journal
    (written : ∀ (past : List (Client × ClientOp)) (c : Client) (sink : ChannelSink)
      (t : Traffic) (works : Bool), c.sink? = some sink → R past c →
        R past (c.setSink (t.write works sink).1))
    {past : List (Client × ClientOp)} {w : Console} (h : R past w.client) (moves : List Move) :
    R (past ++ w.journal moves) (w.run moves).client := by
  induction moves generalizing past w with
  | nil => simpa [journal] using h
  | cons m moves ih =>
    have step : R (past ++ w.client.journalOf (w.opsOf m)) (w.move m).client := by
      obtain client | ⟨none, works, sink, t, at_, client⟩ := w.move_client m
      · rw [client]
        exact ops_journal asked h _
      · rw [client, none]
        simpa [Client.journalOf] using written past w.client sink t works at_ h
    have later := ih step
    rwa [List.append_assoc] at later

end

/-- What every operation and every step of the writer keeps, with its milestones, is kept by a
run. -/
theorem run_keeps {R : List Milestone → Client → Prop}
    (asked : ∀ (ms : List Milestone) (c : Client) (op : ClientOp),
      R ms c → R (ms ++ c.milestones op) (c.perform op).1)
    (written : ∀ (ms : List Milestone) (c : Client) (sink : ChannelSink) (t : Traffic)
      (works : Bool), c.sink? = some sink → R ms c → R ms (c.setSink (t.write works sink).1))
    {ms : List Milestone} {w : Console} (h : R ms w.client) (moves : List Move) :
    R (ms ++ w.milestones moves) (w.run moves).client := by
  have kept (past : List (Client × ClientOp)) (c : Client) (op : ClientOp)
      (now : R (ms ++ Client.milestonesIn past) c) :
      R (ms ++ Client.milestonesIn (past ++ [(c, op)])) (c.perform op).1 := by
    simpa [Client.milestonesIn] using asked _ c op now
  have begun : R (ms ++ Client.milestonesIn []) w.client := by simpa [Client.milestonesIn] using h
  rw [milestones_journal]
  exact run_journal kept (fun _ c sink t works at_ now => written _ c sink t works at_ now) begun
    moves

/-- What every operation and every step of the writer keeps, whatever happened before, is kept by a
run. -/
theorem run_invariant {P : Client → Prop}
    (asked : ∀ (c : Client) (op : ClientOp), P c → P (c.perform op).1)
    (written : ∀ (c : Client) (sink : ChannelSink), P c → P (c.setSink sink))
    {w : Console} (h : P w.client) (moves : List Move) : P (w.run moves).client :=
  @run_keeps (fun _ c => P c) (fun _ c op => asked c op) (fun _ c _ _ _ _ => written c _) [] w h
    moves

theorem run_settings (w : Console) (moves : List Move) :
    (w.run moves).client.settings = w.client.settings := by
  have asked (c : Client) (op : ClientOp) (same : c.settings = w.client.settings) :
      (c.perform op).1.settings = w.client.settings :=
    (c.perform_settings op).trans same
  exact run_invariant asked (fun _ _ same => same) rfl moves

end Console

namespace Client

/-- The next event is the end of the connection if one is the first event among what arrived. -/
theorem Reads.atEnd {c : Client} {mode : RenderMode} {unread : Option (List Incoming)}
    (h : Reads mode c.active unread) :
    c.atEnd = (unread.bind Inbound.firstEvent).any fun next => next.1.isClosed := by
  generalize at_ : c.active = active at h
  cases h with
  | unstarted => simp [Client.atEnd, inbound?, at_]
  | ended => simp [Client.atEnd, inbound?, at_]
  | opened session items =>
    simp only [Client.atEnd, inbound?, at_, Option.bind_some, Inbound.next]
    cases first : Inbound.firstEvent items with
    | none => simp
    | some next =>
      obtain ⟨event, rest⟩ := next
      cases event <;> simp [InboundEvent.isClosed]

end Client

end JobConsole
