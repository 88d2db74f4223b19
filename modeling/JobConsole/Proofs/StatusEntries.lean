import Mathlib.Data.List.Count
import JobConsole.Proofs.Milestones
import JobConsole.Proofs.RawLines
import JobConsole.Proofs.RenderedLines

/-!
# Status entries

The console writes three lines of its own accord, and no message is shown as one of them. So the
entries that look like one tell what happened to the sessions.
-/

namespace JobConsole

/-- The line that the console writes for a milestone. -/
def Milestone.line? : Milestone → Option String
  | .reconnecting => some Client.reconnectingLine
  | .connected => some Session.connectedLine
  | .refused | .lost => some Session.closedLine
  | .retired => none

theorem Milestone.line?_ofAttempt (settings : Settings) (attempt : Attempt) :
    (Milestone.ofAttempt settings attempt).line? = some (Client.outcomeLine settings attempt) := by
  unfold Milestone.ofAttempt Client.outcomeLine
  split <;> rfl

namespace Client

section
variable {c : Client} {unread : Option (List Incoming)}

/-- Among the lines of an operation, the status lines are those of its milestones. -/
theorem count_linesOf (h : Reads c.settings.mode c.active unread) (op : ClientOp) {line : String}
    (status : line ∈ statusLines) :
    (linesOf c.settings unread op).count line =
      ((c.milestones op).filterMap Milestone.line?).count line := by
  cases op with
  | start attempt =>
    simp only [linesOf, milestones, List.filterMap_cons, List.filterMap_nil,
      Milestone.line?_ofAttempt]
  | reconnect attempt =>
    simp only [linesOf, milestones, List.filterMap_cons, List.filterMap_nil,
      Milestone.line?_ofAttempt]
    rfl
  | send | submit | arrive => rfl
  | shutdown =>
    simp only [linesOf, milestones]
    split <;> rfl
  | processNext =>
    simp only [linesOf, milestones, h.atEnd]
    cases unread.bind Inbound.firstEvent with
    | none => rfl
    | some next =>
      obtain ⟨event, rest⟩ := next
      cases event with
      | closed detail => rfl
      | text payload =>
        have other : line ∉ (messageLine? c.settings.mode payload).toList := by
          intro member
          unfold messageLine? at member
          split at member
          · next message _ =>
            rw [Option.toList_some, List.mem_singleton] at member
            exact renderMessage_ne_status status c.settings.mode message member.symm
          · cases member
        simpa [InboundEvent.isClosed] using List.count_eq_zero.mpr other

/-- The status lines of a log are those of some milestones. -/
def Tells (milestones : List Milestone) (c : Client) : Prop :=
  c.InStep ∧ ∀ line ∈ statusLines,
    c.log.fragments.count (line ++ lineBreak) = (milestones.filterMap Milestone.line?).count line

theorem lineBreak_injective : Function.Injective fun line : String => line ++ lineBreak := by
  intro first second same
  rw [← withoutBreak_lineBreak first, ← withoutBreak_lineBreak second]
  exact congrArg withoutBreak same

theorem Tells.asked {ms : List Milestone} (h : Tells ms c) (op : ClientOp) :
    Tells (ms ++ c.milestones op) (c.perform op).1 := by
  obtain ⟨inStep, counts⟩ := h
  refine ⟨inStep.perform op, ?_⟩
  intro line status
  obtain ⟨unread, reads⟩ := inStep
  have added : ((linesOf c.settings unread op).map (· ++ lineBreak)).count (line ++ lineBreak) =
      (linesOf c.settings unread op).count line :=
    List.count_map_of_injective _ _ lineBreak_injective line
  rw [perform_fragments reads, List.count_append, List.filterMap_append, List.count_append,
    counts line status, added, count_linesOf reads op status]

theorem Tells.written {ms : List Milestone} (h : Tells ms c) (sink : ChannelSink) :
    Tells ms (c.setSink sink) := ⟨h.1.setSink sink, h.2⟩

end

end Client

/-! ## Counts -/

theorem count_lines (milestones : List Milestone) :
    let lines := milestones.filterMap Milestone.line?
    lines.count Session.connectedLine = milestones.count .connected ∧
      lines.count Client.reconnectingLine = milestones.count .reconnecting ∧
      lines.count Session.closedLine = milestones.count .refused + milestones.count .lost := by
  induction milestones with
  | nil => decide
  | cons milestone milestones ih =>
    obtain ⟨connected, reconnecting, closed⟩ := ih
    cases milestone with
    | connected => exact ⟨by simpa [Milestone.line?] using connected, reconnecting, closed⟩
    | reconnecting => exact ⟨connected, by simpa [Milestone.line?] using reconnecting, closed⟩
    | refused | lost =>
      refine ⟨connected, reconnecting, ?_⟩
      simp only [Milestone.line?, List.filterMap_cons, List.count_cons, closed]
      simp only [beq_self_eq_true, if_true, beq_iff_eq, reduceCtorEq, if_false]
      omega
    | retired => exact ⟨connected, reconnecting, closed⟩

/-- **Status entries cannot be forged.** No message is shown as a line that the console writes of its
own accord, in either mode. So whatever a client that was just made is asked, and whatever its
servers send, the entries of its log that look like one count what happened: `connected` the
handshakes that succeeded, `reconnecting` the requests for another session, and `connection closed`
the handshakes that failed and the ends of connections that were handled. -/
theorem status_entries_count {settings : Settings} {ids : IdSource} {c : Client}
    (h : Client.ofSettings settings ids = .ok c) (moves : List Move) :
    let happened := (Console.ofClient c).milestones moves
    let fragments := ((Console.ofClient c).run moves).client.log.fragments
    (∀ (mode : RenderMode) (payload : String) (message : Json),
        parseMessage payload = .ok message →
          renderMessage mode message ≠ "connected" ∧
            renderMessage mode message ≠ "connection closed" ∧
            renderMessage mode message ≠ "reconnecting") ∧
      fragments.count "connected<br/>" = happened.count .connected ∧
      fragments.count "reconnecting<br/>" = happened.count .reconnecting ∧
      fragments.count "connection closed<br/>" = happened.count .refused + happened.count .lost := by
  intro happened fragments
  have begins : Client.Tells [] (Console.ofClient c).client := by
    refine ⟨Client.reachable_inStep (.made h), ?_⟩
    intro line _
    obtain ⟨-, -, empty⟩ := Client.ofSettings_spec h
    change c.log.fragments.count _ = 0
    rw [empty]
    rfl
  obtain ⟨-, told⟩ : Client.Tells happened ((Console.ofClient c).run moves).client :=
    Console.run_keeps (fun _ _ op tells => tells.asked op)
      (fun _ _ _ _ _ _ tells => tells.written _) begins moves
  obtain ⟨connected, reconnecting, closed⟩ := count_lines happened
  refine ⟨?_, ?_, ?_, ?_⟩
  · intro mode payload message _
    have other (line : String) (status : line ∈ statusLines) :=
      renderMessage_ne_status status mode message
    exact ⟨other _ (by decide), other _ (by decide), other _ (by decide)⟩
  · exact (told Session.connectedLine (by decide)).trans connected
  · exact (told Client.reconnectingLine (by decide)).trans reconnecting
  · exact (told Session.closedLine (by decide)).trans closed

/-- A server that sends what looks like status lines and then ends the connection, and one that
refuses. -/
theorem status_entries_count_of_forger :
    let moves : List Move :=
      [.enter .accepted,
        .ask (.arrive [.text "\"connected\"", .text "connected", .text "\"connection closed\"",
          .text "\x7b\"command\":\"watch\",\"event\":\"reconnecting\"\x7d", .close none]),
        .turn .inbound .silent, .turn .inbound .silent, .turn .inbound .silent,
        .turn .inbound .silent, .turn .inbound .silent, .send .reconnect, .turn .control .silent]
    let w := (Console.ofClient plainClient).run moves
    (Console.ofClient plainClient).milestones moves = [.connected, .lost, .reconnecting, .refused] ∧
      w.client.log.length = 7 ∧ w.client.log.fragments.count "connected<br/>" = 1 ∧
      w.client.log.fragments.count "connection closed<br/>" = 2 := by
  intro moves w
  have happened : (Console.ofClient plainClient).milestones moves =
      [.connected, .lost, .reconnecting, .refused] := by
    decide +kernel
  obtain ⟨-, connected, -, closed⟩ := status_entries_count ofSettings_plainClient moves
  rw [happened] at connected closed
  exact ⟨happened, by decide +kernel, connected, closed⟩

end JobConsole
