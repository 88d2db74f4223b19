import JobConsole.Socket.Writer

/-!
# The frames of a connection

What the queue of a connection and its writer come to together. The writer may step at any time, and
any of its writes may fail.
-/

namespace JobConsole

structure Traffic where
  writer : Writer
  /-- Whether a write failed. -/
  broken : Bool
  /-- The texts whose sending was answered by success, oldest first. -/
  accepted : List String

namespace Traffic

def start : Traffic := ⟨.start, false, []⟩

/-- The frames of a connection: `watch`, and the accepted commands. -/
def sent (t : Traffic) : List Outgoing :=
  .text "\x7b\"command\":\"watch\"\x7d" :: t.accepted.map fun text => .text (Command.encode ⟨text⟩)

/-- The sending of a text was answered by success. -/
def accept (text : String) (t : Traffic) : Traffic := { t with accepted := t.accepted ++ [text] }

def write (works : Bool) (sink : ChannelSink) (t : Traffic) : ChannelSink × Traffic :=
  let (after, writer) := Writer.step works sink t.writer
  (after, { t with writer, broken := t.broken || (!works && writer.ended && !t.writer.ended) })

/-- How the queue and the writer of a connection stand to the accepted frames. -/
inductive Sound (t : Traffic) (sink : ChannelSink) : Prop
  /-- The frames that were not written are queued, and perhaps a close, behind which nothing can be
  queued. -/
  | writing (pending tail : List Outgoing) (live : t.writer.ended = false)
      (whole : t.broken = false) (drained : sink.drained = true)
      (ending : tail = [] ∨ tail = [.close] ∧ sink.held = false)
      (queue : sink.queue = pending ++ tail) (order : t.writer.written ++ pending = t.sent)
  /-- The frames were written, and a close. -/
  | finished (done : t.writer.ended = true) (whole : t.broken = false)
      (refuses : sink.drained = false) (empty : sink.queue = []) (released : sink.held = false)
      (order : t.writer.written = t.sent ++ [.close])
  /-- A write failed, and what was left is lost. -/
  | failed (done : t.writer.ended = true) (broken : t.broken = true)
      (refuses : sink.drained = false) (empty : sink.queue = [])
      (order : t.writer.written <+: t.sent)

section
variable {sink : ChannelSink} {t : Traffic}

theorem encode_watch : Command.watch.encode = "\x7b\"command\":\"watch\"\x7d" := by decide +kernel

theorem sound_start :
    Sound start (CommandSink.sendText ChannelSink.connected Command.watch.encode).1 :=
  .writing [.text Command.watch.encode] [] rfl rfl rfl (.inl rfl) rfl (by rw [encode_watch]; rfl)

theorem sendText_connected (h : sink.isConnected = true) (payload : String) :
    CommandSink.sendText sink payload =
      ({ sink with queue := sink.queue ++ [.text payload] }, .ok ()) := by
  simp [CommandSink.sendText, ChannelSink.enqueue, h]

theorem sendText_unconnected (h : sink.isConnected = false) (payload : String) :
    CommandSink.sendText sink payload = (sink, .error (.notOpen .closed)) := by
  simp [CommandSink.sendText, h]

/-- As long as the sink takes frames, those that were not written are queued, and nothing else. -/
theorem Sound.queued (h : Sound t sink) (connected : sink.isConnected = true) :
    t.writer.ended = false ∧ t.broken = false ∧ sink.drained = true ∧
      t.writer.written ++ sink.queue = t.sent := by
  obtain ⟨held, drained⟩ : sink.held = true ∧ sink.drained = true := by
    simpa [ChannelSink.isConnected] using connected
  cases h with
  | writing pending tail live whole _ ending queue order =>
    obtain rfl | ⟨-, released⟩ := ending
    · rw [List.append_nil] at queue
      exact ⟨live, whole, drained, queue ▸ order⟩
    · simp [held] at released
  | finished _ _ refuses | failed _ _ refuses => simp [drained] at refuses

/-- Behind a frame that is accepted, the order still holds with that frame at the end. -/
theorem Sound.accept (h : Sound t sink) (connected : sink.isConnected = true) (text : String) :
    Sound (t.accept text) (CommandSink.sendText sink (Command.encode ⟨text⟩)).1 := by
  obtain ⟨live, whole, drained, order⟩ := h.queued connected
  have longer : t.writer.written ++ (sink.queue ++ [.text (Command.encode ⟨text⟩)]) =
      (t.accept text).sent := by
    rw [← List.append_assoc, order]
    simp [sent, Traffic.accept]
  rw [sendText_connected connected]
  exact .writing _ [] live whole drained (.inl rfl) (List.append_nil _).symm longer

theorem Sound.release (h : Sound t sink) : Sound t sink.release := by
  cases h with
  | writing pending tail live whole drained ending queue order =>
    exact .writing pending tail live whole drained (ending.imp_right fun e => ⟨e.1, rfl⟩) queue
      order
  | finished done whole refuses empty _ order => exact .finished done whole refuses empty rfl order
  | failed done broken refuses empty order => exact .failed done broken refuses empty order

theorem Sound.close (h : Sound t sink) : Sound t (CommandSink.close sink) := by
  by_cases connected : sink.isConnected = true
  · obtain ⟨live, whole, drained, order⟩ := h.queued connected
    have closing : CommandSink.close sink =
        ({ sink with queue := sink.queue ++ [.close] } : ChannelSink).release := by
      simp [CommandSink.close, ChannelSink.enqueue, connected]
    rw [closing]
    exact .writing sink.queue [.close] live whole drained (.inr ⟨rfl, rfl⟩) rfl order
  · have same : CommandSink.close sink = sink.release := by
      simp [CommandSink.close, ChannelSink.enqueue, connected]
    rw [same]
    exact h.release

theorem not_close_mem_sent (t : Traffic) : Outgoing.close ∉ t.sent := by simp [sent]

theorem write_ended (h : t.writer.ended = true) (works : Bool) : t.write works sink = (sink, t) := by
  simp [write, Writer.step, h]

/-- The writer waits as long as nothing is queued and the session may queue more. -/
theorem write_waiting (live : t.writer.ended = false) (queue : sink.queue = [])
    (held : sink.held = true) (works : Bool) : t.write works sink = (sink, t) := by
  simp [write, Writer.step, live, queue, held]

/-- A write that fails ends the writer, and what is queued is lost. -/
theorem write_fails (live : t.writer.ended = false)
    (due : sink.queue ≠ [] ∨ sink.held = false) :
    t.write false sink =
      (Writer.abandon sink, { t with writer := ⟨t.writer.written, true⟩, broken := true }) := by
  have step : Writer.step false sink t.writer =
      (Writer.abandon sink, ⟨t.writer.written, true⟩) := by
    simp only [Writer.step, live, Bool.false_eq_true, if_false]
    cases hq : sink.queue with
    | nil => simp [due.resolve_left (· hq)]
    | cons frame rest => cases frame <;> rfl
  simp [write, step, live]

theorem write_text (live : t.writer.ended = false) {payload : String} {rest : List Outgoing}
    (queue : sink.queue = .text payload :: rest) :
    t.write true sink =
      ({ sink with queue := rest },
        { t with writer := ⟨t.writer.written ++ [.text payload], false⟩ }) := by
  simp [write, Writer.step, live, queue]

/-- The writer ends behind a close: one that was queued, or its own once the session let go of the
queue and nothing is left in it. -/
theorem write_close (live : t.writer.ended = false)
    (due : sink.queue = [.close] ∨ sink.queue = [] ∧ sink.held = false) :
    t.write true sink =
      (Writer.abandon sink, { t with writer := ⟨t.writer.written ++ [.close], true⟩ }) := by
  obtain queue | ⟨queue, released⟩ := due
  · simp [write, Writer.step, live, queue]
  · simp [write, Writer.step, live, queue, released]

/-- The first frame that was not written is no close. -/
theorem pending_text {frame : Outgoing} {rest : List Outgoing}
    (order : t.writer.written ++ frame :: rest = t.sent) : ∃ payload, frame = .text payload := by
  cases frame with
  | text payload => exact ⟨payload, rfl⟩
  | close =>
    exfalso
    apply not_close_mem_sent t
    rw [← order]
    simp

theorem append_of_cons {frame : Outgoing} {rest : List Outgoing}
    (order : t.writer.written ++ frame :: rest = t.sent) :
    (t.writer.written ++ [frame]) ++ rest = t.sent := by
  rw [List.append_assoc]; exact order

theorem Sound.write_works (h : Sound t sink) (live : t.writer.ended = false) :
    Sound (t.write true sink).2 (t.write true sink).1 := by
  cases h with
  | finished done | failed done => simp [live] at done
  | writing pending tail _ whole drained ending queue order =>
    cases pending with
    | cons frame rest =>
      obtain ⟨payload, rfl⟩ := pending_text order
      rw [write_text live queue]
      exact .writing rest tail rfl whole drained ending rfl (append_of_cons order)
    | nil =>
      rw [List.append_nil] at order
      -- Only a close is left, the queued one or, once the session let go of the queue, its own.
      have closes (due : sink.queue = [.close] ∨ sink.queue = [] ∧ sink.held = false)
          (released : sink.held = false) : Sound (t.write true sink).2 (t.write true sink).1 := by
        rw [write_close live due]
        exact .finished rfl whole rfl rfl released (congrArg (· ++ _) order)
      obtain rfl | ⟨rfl, released⟩ := ending
      · cases held : sink.held with
        | true =>
          rw [write_waiting live queue held]
          exact .writing [] [] live whole drained (.inl rfl) queue (by rw [List.append_nil, order])
        | false => exact closes (.inr ⟨queue, held⟩) held
      · exact closes (.inl queue) released

theorem Sound.write_breaks (h : Sound t sink) (live : t.writer.ended = false) :
    Sound (t.write false sink).2 (t.write false sink).1 := by
  by_cases due : sink.queue ≠ [] ∨ sink.held = false
  · cases h with
    | finished done | failed done => simp [live] at done
    | writing pending tail _ _ _ _ _ order =>
      rw [write_fails live due]
      exact .failed rfl rfl rfl rfl ⟨pending, order⟩
  · obtain ⟨empty, held⟩ : sink.queue = [] ∧ sink.held = true := by simpa using due
    rw [write_waiting live empty held]
    exact h

/-- A step of the writer, whether its write works or fails, keeps the order. -/
theorem Sound.write (h : Sound t sink) (works : Bool) :
    Sound (t.write works sink).2 (t.write works sink).1 := by
  cases live : t.writer.ended with
  | true => rwa [write_ended live]
  | false =>
    cases works with
    | true => exact h.write_works live
    | false => exact h.write_breaks live

/-- The writer never takes the sending end from the session, nor gives it back. -/
theorem write_same_held (works : Bool) : (t.write works sink).1.held = sink.held := by
  simp only [write, Writer.step]
  split
  · rfl
  · split
    · split <;> rfl
    · split <;> rfl
    · rfl

section
variable (h : Sound t sink)
include h

/-- The messages on the socket are a beginning of the accepted frames and a close. -/
theorem Sound.written_prefix : t.writer.written <+: t.sent ++ [.close] := by
  cases h with
  | writing pending _ _ _ _ _ _ order => exact .trans ⟨pending, order⟩ (List.prefix_append _ _)
  | finished _ _ _ _ _ order => exact order ▸ List.prefix_rfl
  | failed _ _ _ _ order => exact order.trans (List.prefix_append _ _)

/-- A close was only put on the socket behind all accepted frames. -/
theorem Sound.closed_last (closed : .close ∈ t.writer.written) :
    t.writer.written = t.sent ++ [.close] := by
  cases h with
  | writing pending _ _ _ _ _ _ order =>
    exact absurd (order ▸ List.mem_append_left pending closed) (not_close_mem_sent t)
  | finished _ _ _ _ _ order => exact order
  | failed _ _ _ _ order => exact absurd (order.subset closed) (not_close_mem_sent t)

/-- When no write failed and the queue is empty, all accepted frames are on the socket. -/
theorem Sound.written_all (whole : t.broken = false) (empty : sink.queue = []) :
    t.writer.written = t.sent ∨ t.writer.written = t.sent ++ [.close] := by
  cases h with
  | writing pending tail _ _ _ _ queue order =>
    obtain ⟨rfl, -⟩ : pending = [] ∧ tail = [] := by simpa [empty] using queue.symm
    exact .inl (by rw [← order, List.append_nil])
  | finished _ _ _ _ _ order => exact .inr order
  | failed _ broken => simp [whole] at broken

end

/-- What stands on the socket of a connection or waits for it, against what was accepted. -/
inductive Carries (t : Traffic) (sink : ChannelSink) : Prop
  | accepted (frames : t.writer.written ++ sink.queue = t.sent)
  /-- The session let go, and a close stands behind all. -/
  | closed (frames : t.writer.written ++ sink.queue = t.sent ++ [.close])
      (released : sink.held = false)
  /-- A write failed, and the rest is lost. -/
  | cut (broken : t.broken = true) (frames : t.writer.written ++ sink.queue <+: t.sent)

theorem Sound.carries (h : Sound t sink) : t.Carries sink := by
  cases h with
  | writing pending tail live whole drained ending queue order =>
    have frames : t.writer.written ++ sink.queue = t.sent ++ tail := by
      rw [queue, ← List.append_assoc, order]
    obtain rfl | ⟨rfl, released⟩ := ending
    · exact .accepted (frames.trans (List.append_nil _))
    · exact .closed frames released
  | finished done whole refuses empty released order =>
    apply Carries.closed _ released
    rw [empty, List.append_nil, order]
  | failed done broken refuses empty order =>
    apply Carries.cut broken
    rw [empty, List.append_nil]
    exact order

/-- The texts that stand on the socket or wait for it. -/
def texts (t : Traffic) (sink : ChannelSink) : List String :=
  (t.writer.written ++ sink.queue).filterMap Outgoing.text?

/-- Unless a write failed, the texts are those of the accepted frames. -/
theorem Carries.texts (h : t.Carries sink) (whole : t.broken = false) :
    t.texts sink = t.sent.filterMap Outgoing.text? := by
  unfold Traffic.texts
  cases h with
  | accepted frames => rw [frames]
  | closed frames => rw [frames, List.filterMap_append]; exact List.append_nil _
  | cut broken => simp [whole] at broken

/-- A number of steps of the writer in which every write works. -/
def writes : (count : Nat) → ChannelSink → Traffic → Traffic
  | 0, _, t => t
  | count + 1, sink, t => writes count (t.write true sink).1 (t.write true sink).2

theorem writes_ended (h : t.writer.ended = true) (count : Nat) : writes count sink t = t := by
  induction count with
  | zero => rfl
  | succ count ih => rw [writes, write_ended h, ih]

/-- Once the session let go of the queue, a writer whose writes work puts all accepted frames on the
socket and a close behind them. -/
theorem Sound.writes_released {count : Nat} (h : Sound t sink) (released : sink.held = false)
    (whole : t.broken = false) (enough : sink.queue.length < count) :
    (writes count sink t).writer.written = t.sent ++ [.close] := by
  -- Each step takes a frame off the queue, so one step more than there are frames is left for the
  -- close.
  induction count generalizing sink t with
  | zero => omega
  | succ count ih =>
    cases h with
    | finished done _ _ _ _ order => rw [writes_ended done, order]
    | failed _ broken => simp [whole] at broken
    | writing pending tail live _ drained ending queue order =>
      cases pending with
      | cons frame rest =>
        obtain ⟨payload, rfl⟩ := pending_text order
        rw [writes, write_text live queue]
        refine ih (.writing rest tail rfl whole drained ending rfl (append_of_cons order)) released
          whole ?_
        simp only [queue, List.cons_append, List.length_cons] at enough
        exact Nat.lt_of_succ_lt_succ enough
      | nil =>
        have due : sink.queue = [.close] ∨ sink.queue = [] ∧ sink.held = false := by
          obtain rfl | ⟨rfl, -⟩ := ending
          · exact .inr ⟨queue, released⟩
          · exact .inl queue
        rw [List.append_nil] at order
        rw [writes, write_close live due, writes_ended rfl, ← order]

end

end Traffic

end JobConsole
