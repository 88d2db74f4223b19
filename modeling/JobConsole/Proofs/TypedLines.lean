import JobConsole.Proofs.CommandFrames
import JobConsole.Proofs.Interleaving
import JobConsole.Proofs.Relay
import JobConsole.Proofs.Text.Trimming
import JobConsole.Proofs.Text.TypedText

namespace JobConsole

/-! ## What a line asks for -/

/-- A reserved word with blanks around it. -/
def IsReserved (line : String) : Prop :=
  ∃ word ∈ Control.reconnectLine :: Control.shutdownLines, Surrounded line.toList word.toList

inductive Asks : String → Control → Prop
  | reconnect {line : String} (word : Surrounded line.toList ":reconnect".toList) :
      Asks line .reconnect
  | shutdown {line : String}
      (word : Surrounded line.toList ":quit".toList ∨ Surrounded line.toList ":q".toList) :
      Asks line .shutdown
  | submit {line : String} (plain : ¬IsReserved line) : Asks line (.submit line)

/-- No reserved word begins or ends with a blank. -/
theorem tight_reserved : ∀ word ∈ Control.reconnectLine :: Control.shutdownLines, Tight word.toList := by
  have tight (c : Char) (cs : List Char) (first : isBlank c = false)
      (last : isBlank ((c :: cs).getLast (List.cons_ne_nil c cs)) = false) : Tight (c :: cs) := by
    constructor
    · rintro d ⟨⟩
      exact first
    · intro d ends
      rw [List.getLast?_eq_some_getLast (List.cons_ne_nil c cs)] at ends
      rw [← Option.some.inj ends]
      exact last
  intro word member
  simp only [Control.shutdownLines, List.mem_cons, List.not_mem_nil, or_false] at member
  obtain rfl | rfl | rfl := member
  · exact tight _ _ rfl rfl
  · exact tight _ _ rfl rfl
  · exact tight _ _ rfl rfl

theorem isReserved_iff {line : String} :
    IsReserved line ↔ trim line ∈ Control.reconnectLine :: Control.shutdownLines := by
  constructor
  · rintro ⟨word, member, around⟩
    rwa [(trim_eq_iff (tight_reserved word member)).mpr around]
  · intro member
    exact ⟨trim line, member, trim_split line⟩

/-- What a line asks for is what is made of it. -/
theorem asks_iff {line : String} {control : Control} :
    Asks line control ↔ Control.ofLine line = control := by
  have reserved (word : String) (member : word ∈ Control.reconnectLine :: Control.shutdownLines) :
      Surrounded line.toList word.toList ↔ trim line = word :=
    (trim_eq_iff (tight_reserved word member)).symm
  constructor
  · intro asks
    cases asks with
    | reconnect word =>
      rw [reserved ":reconnect" (by decide)] at word
      simp [Control.ofLine, word, Control.reconnectLine]
    | shutdown word =>
      rw [reserved ":quit" (by decide), reserved ":q" (by decide)] at word
      obtain word | word := word <;>
        simp [Control.ofLine, word, Control.reconnectLine, Control.shutdownLines]
    | submit plain =>
      rw [isReserved_iff, List.mem_cons, not_or] at plain
      rw [Control.ofLine, if_neg plain.1, if_neg plain.2]
  · rintro rfl
    unfold Control.ofLine
    dsimp only
    split
    · next word => exact .reconnect ((reserved ":reconnect" (by decide)).mpr word)
    · next other =>
      split
      · next word =>
        have word : trim line = ":quit" ∨ trim line = ":q" := by
          simpa [Control.shutdownLines] using word
        rw [← reserved ":quit" (by decide), ← reserved ":q" (by decide)] at word
        exact .shutdown word
      · next other' =>
        apply Asks.submit
        rw [isReserved_iff, List.mem_cons, not_or]
        exact ⟨other, other'⟩

theorem ofLine_plain {line : String} (plain : ¬IsReserved line) :
    Control.ofLine line = .submit line :=
  asks_iff.mp (.submit plain)

/-- The text that a line asks to be sent is the line. -/
theorem text?_ofLine {line text : String} (h : (Control.ofLine line).text? = some text) :
    text = line := by
  generalize same : Control.ofLine line = control at h
  cases asks_iff.mpr same with
  | reconnect | shutdown => cases h
  | submit plain => exact (Option.some.inj h).symm

/-! ## What an open session makes of a line -/

/-- A line that is a command is handed to the sink of an open session as one frame, in the turn that
handles it. -/
theorem EventLoop.turn_frame {l : EventLoop} {a : Active} {line : String} {rest : List Control}
    (live : l.stopped = false) (heard : l.listening = true) (at_ : l.client.active = some a)
    (opened : a.session.state = .opened) (queue : l.controls = Control.ofLine line :: rest)
    (plain : ¬IsReserved line) (nonempty : line ≠ "") (attempt : Attempt) :
    (l.turn .control attempt).controls = rest ∧
      (l.turn .control attempt).client.active =
        some { a with session := a.session.emit line } := by
  rw [ofLine_plain plain] at queue
  have ready : l.isReady .control = true := by simp [isReady, heard, queue]
  have turned : l.turn .control attempt =
      { l with controls := rest, client := (l.client.submit line).1 } := by
    unfold turn
    rw [if_neg (by simp [live, ready])]
    simp only [queue, handle]
    exact settle_waits (.inl heard)
  rw [turned]
  refine ⟨rfl, ?_⟩
  have sent := Session.send_opened opened nonempty
  simp [Client.submit, Client.send, nonempty, at_, sent]

/-! ## Conversations -/

def Move.controls : Move → List Control
  | .send control => [control]
  | _ => []

theorem Command.map_decode_encode (texts : List String) :
    (texts.map fun text => Command.encode ⟨text⟩).map Command.decode =
      texts.map fun text => .ok ⟨text⟩ := by
  induction texts with
  | nil => rfl
  | cons text texts ih => simp only [List.map_cons, Command.decode_encode, ih]

def frameOf (text : String) : Outgoing := .text (Command.encode ⟨text⟩)

theorem Display.frames_heard (mode : RenderMode) (d : Display) (payload : String) :
    (d.heard mode payload).frames = d.frames := by
  unfold heard
  split <;> rfl

theorem Display.frames_typed (d : Display) (text : String) :
    (d.typed text).frames = d.frames ++ ([text].filter (· ≠ "")).map frameOf := by
  by_cases empty : text = ""
  · simp [typed, empty]
  · simp [typed, empty, frameOf]

theorem Display.frames_after (mode : RenderMode) (d : Display) (texts payloads : List String) :
    (d.after mode texts payloads).frames = d.frames ++ (texts.filter (· ≠ "")).map frameOf := by
  have payloadsKeep (d : Display) : (payloads.foldl (heard mode) d).frames = d.frames := by
    induction payloads generalizing d with
    | nil => rfl
    | cons payload payloads ih => rw [List.foldl_cons, ih, frames_heard]
  rw [after, payloadsKeep]
  induction texts generalizing d with
  | nil => simp
  | cons text texts ih =>
    rw [List.foldl_cons, ih, frames_typed, List.append_assoc, ← List.map_append,
      ← List.filter_append]
    rfl

namespace Console

section
variable {w : Console} {moves : List Move}

/-- In a conversation the texts that are brought are the controls that are. -/
theorem texts_of_controls {lines : List String} (chat : ∀ m ∈ moves, m.isChat = true)
    (sent : moves.flatMap Move.controls = lines.map Control.ofLine) :
    moves.flatMap Move.texts = lines := by
  have texts (m : Move) : m.texts = m.controls.filterMap Control.text? := by
    cases m with
    | send control => cases control <;> rfl
    | enter | ask | turn | hangUp | write => rfl
  have each : ∀ line ∈ lines, (Control.ofLine line).text? = some line := by
    intro line member
    have brought : Control.ofLine line ∈ moves.flatMap Move.controls := by
      rw [sent]
      exact List.mem_map_of_mem member
    obtain ⟨m, among, of⟩ := List.mem_flatMap.mp brought
    have isText : (Control.ofLine line).text?.isSome = true := by
      have chat := chat m among
      cases m with
      | send control =>
        rw [List.mem_singleton.mp of]
        cases control with
        | submit text => rfl
        | reconnect | shutdown => cases chat
      | enter | ask | turn | hangUp | write => cases of
    obtain ⟨text, found⟩ := Option.isSome_iff_exists.mp isText
    rw [found, text?_ofLine found]
  calc moves.flatMap Move.texts
      = (moves.flatMap Move.controls).filterMap Control.text? := by
        rw [List.filterMap_flatMap, funext texts]
    _ = lines.filterMap fun line => (Control.ofLine line).text? := by
        rw [sent, List.filterMap_map]
        rfl
    _ = lines.filterMap some := List.filterMap_congr each
    _ = lines := List.filterMap_some

/-- A conversation of which all was handled has queued a frame for every text that is not empty, in
their order. -/
theorem Talks.frames (h : w.Talks) {lines : List String} (chat : ∀ m ∈ moves, m.isChat = true)
    (sent : moves.flatMap Move.controls = lines.map Control.ofLine)
    (handled : (w.run moves).waiting = [] ∧ (w.run moves).unread = [])
    (linked : (w.run moves).isLinked = true) :
    (w.run moves).frames =
      w.frames ++ ((w.waiting ++ lines).filter (· ≠ "")).map frameOf := by
  have shown := congrArg Display.frames (h.display chat handled linked)
  rw [forecast, Display.frames_after, texts_of_controls chat sent] at shown
  exact shown

end

end Console

/-- **Typed lines arrive as they were typed.** Octets are lines, up to the first that is not UTF-8,
in one way only. What is delivered is what these lines ask for, in their order, as many of them as the
receiver takes; and however the reader and the receiver take turns, and whatever the channel between
them holds, the receiver gets that and nothing else, and they come to an end. A line asks for a
reconnect or a shutdown if it is a reserved word with blanks around it, and else for itself to be sent.

An open session hands a line that is neither empty nor reserved to its connection as one frame, in the
turn that handles it, and this frame is read as the line. So all lines of a conversation are queued as
frames, in their order, and read back as they were typed. -/
theorem typed_lines_arrive (bytes : List UInt8) (taken : Option Nat) :
    ∃ lines, (∀ other, Typed bytes other ↔ other = lines) ∧
      let arriving := taken.elim lines lines.take
      Control.delivered bytes taken = arriving.map Control.ofLine ∧
      (∀ line control, Control.ofLine line = control ↔ Asks line control) ∧
      (∀ capacity steps r, Relay.Run capacity taken (.start bytes) steps r →
        steps ≤ 3 * (splitLines bytes).length + 2 ∧ r.received <+: Control.delivered bytes taken ∧
        (0 < capacity → (∀ r', ¬Relay.Step capacity taken r r') →
          r.received = Control.delivered bytes taken)) ∧
      (∀ (l : EventLoop) (a : Active) (rest : List Control) (attempt : Attempt), ∀ line ∈ arriving,
        l.stopped = false → l.listening = true → l.client.active = some a →
        a.session.state = .opened → l.controls = Control.ofLine line :: rest → ¬IsReserved line →
        line ≠ "" →
          let after := l.turn .control attempt
          ∃ frame, Command.decode frame = .ok ⟨line⟩ ∧ after.controls = rest ∧
            after.client.sink? = some (CommandSink.sendText a.session.sink frame).1 ∧
            (a.session.sink.isConnected = true → after.client.sink? =
              some { a.session.sink with queue := a.session.sink.queue ++ [.text frame] })) ∧
      ∀ (w : Console) (moves : List Move), w.Talks → (∀ m ∈ moves, m.isChat = true) →
        moves.flatMap Move.controls = Control.delivered bytes taken →
        (w.run moves).waiting = [] → (w.run moves).unread = [] → (w.run moves).isLinked = true →
          ∃ frames : List String, (w.run moves).frames = w.frames ++ frames.map .text ∧
            frames.map Command.decode =
              ((w.waiting ++ arriving).filter (· ≠ "")).map fun line => .ok ⟨line⟩ := by
  obtain ⟨lines, typed⟩ := exists_typed bytes
  have read := typed.read
  have delivered : Control.delivered bytes taken =
      (taken.elim lines lines.take).map Control.ofLine := by
    unfold Control.delivered Control.readAll
    rw [read]
    cases taken with
    | none => rfl
    | some count => exact List.map_take.symm
  refine ⟨lines, ?_, delivered, fun _ _ => asks_iff.symm, fun _ _ _ run => run.delivers, ?_, ?_⟩
  · intro other
    rw [typed_iff, read]
    exact eq_comm
  · intro l a rest attempt line _ live heard at_ opened queue plain nonempty after
    obtain ⟨controls, active⟩ := EventLoop.turn_frame live heard at_ opened queue plain nonempty attempt
    have sink : after.client.sink? =
        some (CommandSink.sendText a.session.sink (Command.encode ⟨line⟩)).1 := by
      simp [after, Client.sink?, Client.session?, active]
    refine ⟨Command.encode ⟨line⟩, Command.decode_encode ⟨line⟩, controls, sink, ?_⟩
    intro connected
    rw [sink, Traffic.sendText_connected connected]
  · intro w moves talks chat sent waiting unread linked
    refine ⟨((w.waiting ++ taken.elim lines lines.take).filter (· ≠ "")).map
      fun line => Command.encode ⟨line⟩, ?_, ?_⟩
    · rw [talks.frames chat (sent.trans delivered) ⟨waiting, unread⟩ linked, List.map_map]
      rfl
    · exact Command.map_decode_encode _

/-- Three lines and octets that are no text. -/
def scrawledOctets : List UInt8 := Utf8.encode "  list\r\n\n :q \n".toList ++ [0xFF, 0x0A]

/-- The first two of the lines are sent on an open session, the blank ends of one with it, and the
empty one not at all. -/
theorem typed_lines_arrive_of_scrawl :
    let w := (Console.ofClient plainClient).run [.enter .accepted]
    let moves : List Move :=
      [.send (.submit "  list"), .send (.submit ""), .turn .control .silent, .turn .control .silent]
    Control.delivered scrawledOctets none = [.submit "  list", .submit "", .shutdown] ∧
      moves.flatMap Move.controls = Control.delivered scrawledOctets (some 2) ∧
      ∃ frames : List String, (w.run moves).frames = w.frames ++ frames.map .text ∧
        frames.map Command.decode = [.ok ⟨"  list"⟩] := by
  intro w moves
  obtain ⟨lines, typed, delivered, -, -, -, conversation⟩ := typed_lines_arrive scrawledOctets (some 2)
  obtain rfl : ["  list", "", " :q "] = lines := (typed _).mp (typed_iff.mpr (by decide +kernel))
  have reachable : Client.Reachable w.client := .entered .accepted (.made ofSettings_plainClient)
  have talks : w.Talks :=
    Console.talks_of_reachable rfl rfl rfl (by decide +kernel) reachable (by decide +kernel)
      (by decide +kernel)
  have sent : moves.flatMap Move.controls = Control.delivered scrawledOctets (some 2) := by
    decide +kernel
  refine ⟨by decide +kernel, sent, ?_⟩
  exact conversation w moves talks (by decide) sent (by decide +kernel) (by decide +kernel)
    (by decide +kernel)

end JobConsole
