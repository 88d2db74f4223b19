import JobConsole.Proofs.History
import JobConsole.Proofs.LoopScene
import JobConsole.Proofs.ReadSide

namespace JobConsole

/-- How many events there are in what is still to be read. -/
def eventsIn (pending : Option (List Incoming)) : Nat :=
  pending.elim 0 fun items => (eventsOf items).length

/-- What is still to be read on the current connection: what arrived, and what is coming. -/
def Client.pending (c : Client) (coming : List Incoming) : Option (List Incoming) :=
  c.inbound?.map fun inbound => inbound.arrived ++ coming

namespace Client

section
variable {c : Client}

theorem pending_isSome (c : Client) (coming : List Incoming) :
    (c.pending coming).isSome = c.isReading := by
  simp [pending, isReading]

theorem deliver_pending (c : Client) (items coming : List Incoming) :
    (c.deliver items).pending coming = c.pending (items ++ coming) := by
  simp [pending, deliver_inbound, Inbound.deliver, Function.comp_def]

theorem shutdown_pending (c : Client) (coming : List Incoming) :
    c.shutdown.pending coming = none := by
  cases h : c.active <;> simp [pending, inbound?, shutdown, h]

theorem submit_pending (c : Client) (text : String) (coming : List Incoming) :
    (c.submit text).1.pending coming = c.pending coming := by
  simp only [submit, send]
  split
  · rfl
  · cases h : c.active <;> simp [pending, inbound?, h]

/-- The handling of the next event takes one event off what is to be read; behind an end, nothing is
left. -/
theorem InStep.processNext_pending (h : c.InStep) {event : InboundEvent} {rest : Inbound}
    (next : c.inbound?.bind Inbound.next = some (event, rest)) (coming : List Incoming) :
    ∃ items, c.pending coming = some items ∧
      ((∃ detail, eventsOf items = [.closed detail] ∧ c.processNext.1.pending coming = none) ∨
        ∃ payload later, eventsOf items = .text payload :: eventsOf later ∧
          c.processNext.1.pending coming = some later) := by
  obtain none | ⟨session, unread, reading, live⟩ | ⟨session, ended, -⟩ := h.cases
  · simp [inbound?, none] at next
  · refine ⟨unread ++ coming, by simp [pending, inbound?, reading], ?_⟩
    cases hf : Inbound.firstEvent unread with
    | none => simp [inbound?, reading, Inbound.next, hf] at next
    | some first =>
      obtain ⟨event, later⟩ := first
      cases event with
      | closed detail =>
        refine .inl ⟨detail, eventsOf_closed hf coming, ?_⟩
        rw [processNext_closed reading live hf]
        rfl
      | text payload =>
        obtain ⟨session', active, -⟩ := dispatch_text
          (c := { c with active := some ⟨session, some ⟨later, false⟩⟩ }) rfl live payload
        refine .inr ⟨payload, later ++ coming, eventsOf_text hf coming, ?_⟩
        rw [processNext_text reading hf]
        simp [pending, inbound?, active]
  · simp [inbound?, ended] at next

end

end Client

namespace Dial

/-- What a number for each connection comes to over all of them. -/
def total (f : Dial → Nat) : List Dial → Nat
  | [] => 0
  | dial :: dials => f dial + total f dials

/-- The next connection and those behind it are all that are to be opened. -/
theorem next_total (f : Dial → Nat) (h : f .unanswered = 0) (dials : List Dial) :
    f (next dials) + total f dials.tail = total f dials := by
  cases dials with
  | nil => simp [next, total, h]
  | cons first rest => rfl

theorem unanswered_connects (settings : Settings) :
    unanswered.attempt.connects settings = false := by
  simp only [unanswered, Attempt.connects, Connection.dial]
  split <;> rfl

/-- A connection that can be made is one of those foreseen. -/
theorem next_mem {dials : List Dial} {settings : Settings}
    (connects : (next dials).attempt.connects settings = true) : next dials ∈ dials := by
  cases dials with
  | nil => simp [next, unanswered_connects] at connects
  | cons first rest => exact List.mem_cons_self

/-- What is to be read on a connection that was just opened is all that its server sends. -/
theorem start_pending (c : Client) (dial : Dial) :
    (c.start dial.attempt).pending (dial.sent c.settings) =
      if dial.attempt.connects c.settings then some dial.stream else none := by
  cases h : dial.attempt.connects c.settings with
  | true => simp [Client.start_connected h, Client.pending, Client.inbound?, sent, h]
  | false => simp [Client.start_failed h, Client.pending, Client.inbound?]

end Dial

namespace Scene

/-! ## Turns -/

def pending (w : Scene) : Option (List Incoming) := w.loop.client.pending w.coming

section
variable {w w' : Scene}

theorem settle_pending (l : EventLoop) (coming : List Incoming) :
    l.settle.client.pending coming = l.client.pending coming := by
  by_cases waits : l.listening = true ∨ l.client.isReading = true
  · rw [EventLoop.settle_waits waits]
  · obtain ⟨deaf, idle⟩ : l.listening = false ∧ l.client.isReading = false := by simpa using waits
    have nothing : l.client.pending coming = none := by
      simpa [← Client.pending_isSome _ coming] using idle
    rw [EventLoop.settle_stops deaf idle, nothing]
    exact Client.shutdown_pending _ _

/-- What a turn makes of what is to be read: a turn on the side of the controls leaves it, gives it
up, or has the stream of another connection in its place; the other turns take one event off it. -/
inductive ReadStep (w : Scene) : Side → Scene → Prop
  | keeps {w' : Scene} (same : w'.pending = w.pending) (dials : w'.dials = w.dials) :
      ReadStep w .control w'
  | leaves {w' : Scene} (nothing : w'.pending = none)
      (dials : w'.dials = w.dials ∨ w'.dials = w.dials.tail) : ReadStep w .control w'
  | redials {w' : Scene} (connects : w.dial.attempt.connects w.loop.client.settings = true)
      (fresh : w'.pending = some w.dial.stream) (dials : w'.dials = w.dials.tail) :
      ReadStep w .control w'
  | reads {w' : Scene} {items later : List Incoming} {payload : String}
      (before : w.pending = some items) (text : eventsOf items = .text payload :: eventsOf later)
      (after : w'.pending = some later) (dials : w'.dials = w.dials) : ReadStep w .inbound w'
  | ends {w' : Scene} {items : List Incoming} {detail : Option String}
      (before : w.pending = some items) (last : eventsOf items = [.closed detail])
      (after : w'.pending = none) (dials : w'.dials = w.dials) : ReadStep w .inbound w'

theorem turned_reads (inStep : w.loop.client.InStep) (live : w.loop.stopped = false) {side : Side}
    (ready : w.loop.isReady side = true) : ReadStep w side (w.turned side) := by
  generalize after : w.loop.turn side w.dial.attempt = l
  have step := EventLoop.turn_step live ready w.dial.attempt
  rw [after] at step
  have same : (w.turned side).pending = l.client.pending (w.turned side).coming := by
    rw [← after]; rfl
  cases step with
  | submits text rest listening queue =>
    have stays : w.redials .control = false := by simp [Scene.redials, queue]
    refine .keeps ?_ (by simp [turned, stays])
    rw [same, Client.submit_pending]
    simp [turned, stays, pending]
  | reconnects rest listening queue =>
    have redials : w.redials .control = true := by simp [Scene.redials, queue]
    have dials : (w.turned .control).dials = w.dials.tail := by simp [turned, redials]
    have coming : (w.turned .control).coming = w.dial.sent w.loop.client.settings := by
      simp [turned, redials]
    have opened := Dial.start_pending w.loop.client.makeRoom w.dial
    have settings : w.loop.client.makeRoom.settings = w.loop.client.settings := rfl
    rw [settings, ← coming] at opened
    cases connects : w.dial.attempt.connects w.loop.client.settings with
    | true => exact .redials connects (same.trans (opened.trans (if_pos connects))) dials
    | false => exact .leaves (same.trans (opened.trans (by simp [connects]))) (.inr dials)
  | shutsDown rest listening queue =>
    have stays : w.redials .control = false := by simp [Scene.redials, queue]
    exact .leaves (same.trans (Client.shutdown_pending _ _)) (.inl (by simp [turned, stays]))
  | hearsEnd listening queue gone =>
    have stays : w.redials .control = false := by simp [Scene.redials, queue]
    refine .keeps ?_ (by simp [turned, stays])
    rw [same, settle_pending]
    simp [turned, stays, pending]
  | reads event rest next =>
    have stays : w.redials .inbound = false := rfl
    have coming : (w.turned .inbound).coming = w.coming := by simp [turned, stays]
    have dials : (w.turned .inbound).dials = w.dials := by simp [turned, stays]
    rw [settle_pending, coming] at same
    obtain ⟨items, before, ⟨detail, last, nothing⟩ | ⟨payload, later, text, left⟩⟩ :=
      inStep.processNext_pending next w.coming
    · exact .ends before last (same.trans nothing) dials
    · exact .reads before text (same.trans left) dials

/-- A turn on the side of the controls takes a control off the queue, or the end of the queue. -/
theorem turned_queue (live : w.loop.stopped = false) (ready : w.loop.isReady .control = true) :
    (w.turned .control).loop.controls.length + (w.turned .control).loop.listening.toNat + 1 =
      w.loop.controls.length + w.loop.listening.toNat := by
  generalize after : w.loop.turn .control w.dial.attempt = l
  have step := EventLoop.turn_step live ready w.dial.attempt
  rw [after] at step
  have same : (w.turned .control).loop = l := after
  rw [same]
  cases step with
  | submits _ rest listening queue | reconnects rest listening queue
  | shutsDown rest listening queue =>
    simp only [queue, listening, List.length_cons]
    omega
  | hearsEnd listening queue =>
    rw [EventLoop.settle_controls, EventLoop.settle_listening, queue, listening]
    rfl

/-- A turn on the side of the connection leaves the controls alone. -/
theorem turned_read_queue (live : w.loop.stopped = false) (ready : w.loop.isReady .inbound = true) :
    (w.turned .inbound).loop.controls = w.loop.controls ∧
      (w.turned .inbound).loop.listening = w.loop.listening := by
  generalize after : w.loop.turn .inbound w.dial.attempt = l
  have step := EventLoop.turn_step live ready w.dial.attempt
  rw [after] at step
  have same : (w.turned .inbound).loop = l := after
  rw [same]
  cases step with
  | reads => exact ⟨EventLoop.settle_controls _, EventLoop.settle_listening _⟩

/-- How many turns are still to come at most: one for each control and for their end, and one for
each event, those of the connections to be opened among them. -/
def budget (w : Scene) : Nat :=
  w.unsent.length + w.loop.controls.length + w.loop.listening.toNat + eventsIn w.pending +
    Dial.total (fun dial => (eventsOf dial.stream).length) w.dials

/-- How often the surroundings can still step at most. -/
def errands (w : Scene) : Nat :=
  w.unsent.length + w.loop.senders.toNat + w.coming.length +
    Dial.total (fun dial => dial.stream.length) w.dials

theorem turned_budget (inStep : w.loop.client.InStep) (live : w.loop.stopped = false) {side : Side}
    (ready : w.loop.isReady side = true) : (w.turned side).budget + 1 ≤ w.budget := by
  have all : (eventsOf w.dial.stream).length + _ = _ :=
    Dial.next_total (fun dial => (eventsOf dial.stream).length) rfl w.dials
  have unsent : (w.turned side).unsent = w.unsent := rfl
  have step := turned_reads inStep live ready
  simp only [budget, unsent]
  cases step with
  | keeps same dials =>
    have queue := turned_queue live ready
    rw [same, dials]
    omega
  | leaves nothing dials =>
    have queue := turned_queue live ready
    have none : eventsIn (w.turned .control).pending = 0 := by rw [nothing]; rfl
    obtain dials | dials := dials <;> rw [dials] <;> omega
  | redials connects fresh dials =>
    have queue := turned_queue live ready
    have events : eventsIn (w.turned .control).pending = (eventsOf w.dial.stream).length := by
      rw [fresh]; rfl
    rw [dials]
    omega
  | @reads _ items later payload before text after dials =>
    obtain ⟨controls, listening⟩ := turned_read_queue live ready
    have less : eventsIn (w.turned .inbound).pending + 1 = eventsIn w.pending := by
      simp [after, before, eventsIn, text]
    rw [controls, listening, dials]
    omega
  | @ends _ items detail before last after dials =>
    obtain ⟨controls, listening⟩ := turned_read_queue live ready
    have less : eventsIn (w.turned .inbound).pending + 1 = eventsIn w.pending := by
      simp [after, before, eventsIn, last]
    rw [controls, listening, dials]
    omega

theorem turned_errands (live : w.loop.stopped = false) {side : Side}
    (ready : w.loop.isReady side = true) : (w.turned side).errands ≤ w.errands := by
  have senders : (w.turned side).loop.senders = w.loop.senders :=
    EventLoop.turn_senders live ready w.dial.attempt
  have all : w.dial.stream.length + _ = _ :=
    Dial.next_total (fun dial => dial.stream.length) rfl w.dials
  have sent : (w.dial.sent w.loop.client.settings).length ≤ w.dial.stream.length := by
    unfold Dial.sent
    split
    · exact Nat.le_refl _
    · exact Nat.zero_le _
  simp only [errands, senders]
  cases redials : w.redials side <;>
    simp only [turned, redials, Bool.false_eq_true, if_false, if_true]
  · exact Nat.le_refl _
  · omega

/-- A turn is paid for, and no step can be repeated for ever. -/
theorem step_budget (inStep : w.loop.client.InStep) (s : Step w w') :
    w'.turns + w'.budget ≤ w.turns + w.budget ∧ w'.budget + w'.errands < w.budget + w.errands := by
  cases s with
  | turn live side ready =>
    have paid := turned_budget inStep live ready
    have errands := turned_errands live ready
    have turns : (w.turned side).turns = w.turns + 1 := rfl
    omega
  | send live control rest next =>
    have queue : (w.loop.enqueue control).controls.length ≤ w.loop.controls.length + 1 := by
      unfold EventLoop.enqueue
      split <;> simp
    have others : (w.loop.enqueue control).listening = w.loop.listening ∧
        (w.loop.enqueue control).senders = w.loop.senders ∧
        (w.loop.enqueue control).client = w.loop.client := by
      unfold EventLoop.enqueue
      split <;> exact ⟨rfl, rfl, rfl⟩
    simp only [budget, errands, pending, others, next, List.length_cons]
    omega
  | hangUp live sent held =>
    simp only [budget, errands, pending, EventLoop.closeControls, held, Bool.toNat_true,
      Bool.toNat_false]
    omega
  | arrive live items rest some next =>
    have shorter : rest.length < w.coming.length := by
      rw [next, List.length_append]
      have := List.length_pos_iff.mpr some
      omega
    simp only [budget, errands, pending, EventLoop.deliver, Client.deliver_pending, ← next]
    omega

theorem Step.inStep (s : Step w w') (h : w.loop.client.InStep) : w'.loop.client.InStep := by
  cases s with
  | send live control rest next =>
    unfold EventLoop.enqueue
    split <;> exact h
  | hangUp => exact h
  | arrive live items => exact h.perform (.arrive items)
  | turn live side ready => exact h.turned side w.dial.attempt

/-- The steps of a scene come to an end. -/
theorem steps_end (h : w.loop.client.InStep) :
    Acc (fun later earlier => Step earlier later) w := by
  induction left : w.budget + w.errands using Nat.strongRecOn generalizing w with
  | ind left ih =>
    refine .intro w fun later step => ?_
    have less := (step_budget h step).2
    exact ih _ (by omega) (step.inStep h) rfl

end

end Scene

end JobConsole
