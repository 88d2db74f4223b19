import JobConsole.Proofs.ClientsAlike
import JobConsole.Proofs.Occasions
import JobConsole.Proofs.ReadSide

namespace JobConsole

theorem Client.Alike.occasions {c c' : Client} (h : c.Alike c') (unread : Option (List Incoming))
    (op : ClientOp) :
    Client.occasionsOf c'.settings unread op = Client.occasionsOf c.settings unread op := by
  rw [h.settings]
  exact Client.occasionsOf_mode _ _ unread op

namespace World

section
variable {w w' : World}

theorem line_alike (clients : w.client.Alike w'.client) (current : w.current = w'.current) :
    w.line? = w'.line? := by
  simp only [line?, clients.session.2.2.1, current]

theorem replace_alike (w w' : World) (clients : w.client.Alike w'.client)
    (current : w.current = w'.current) (attempt : Attempt) :
    (w.replace attempt).current = (w'.replace attempt).current ∧
      ∃ made, (w.replace attempt).former = w.former ++ made ∧
        (w'.replace attempt).former = w'.former ++ made := by
  refine ⟨by simp only [replace, clients.connects], _, rfl, ?_⟩
  simp only [replace, leave, line_alike clients current]

/-- Worlds whose clients are alike open the same connections and give up the same. -/
theorem perform_alike (w w' : World) (clients : w.client.Alike w'.client)
    (current : w.current = w'.current) (op : ClientOp) :
    (w.perform op).current = (w'.perform op).current ∧
      ∃ made, (w.perform op).former = w.former ++ made ∧
        (w'.perform op).former = w'.former ++ made := by
  cases op with
  | start attempt => exact replace_alike w w' clients current attempt
  | reconnect attempt =>
    have room : w.client.makeRoom.Alike w'.client.makeRoom :=
      ⟨clients.settings, rfl, Client.shutdown_alike clients.active⟩
    exact replace_alike { w with client := w.client.makeRoom }
      { w' with client := w'.client.makeRoom } room current attempt
  | send text =>
    have same := (Client.send_alike w.client w'.client clients.active text).2
    exact ⟨by simp only [perform, answered, same, current], [], by simp [perform, answered]⟩
  | submit text =>
    have same := (Client.send_alike { w.client with log := w.client.log.setInput text }
      { w'.client with log := w'.client.log.setInput text } clients.active text).2
    exact ⟨by simp only [perform, answered, Client.submit, same, current], [],
      by simp [perform, answered]⟩
  | processNext | shutdown | arrive => exact ⟨current, [], by simp [perform]⟩

end

end World

namespace Console

/-- Two consoles that did the same since two others, each in its render mode. -/
structure Counterparts (w w' v v' : Console) : Prop where
  clients : v.client.Alike v'.client
  inStep : v.client.InStep
  inStep' : v'.client.InStep
  told : ∃ occasions : List Occasion,
    w.client.log.Gained v.client.log
      (occasions.map (Occasion.fragment v.client.settings.mode)) ∧
    w'.client.log.Gained v'.client.log
      (occasions.map (Occasion.fragment v'.client.settings.mode))
  loops : v.loop.rest = v'.loop.rest
  current : v.current = v'.current
  former : ∃ made, v.former = w.former ++ made ∧ v'.former = w'.former ++ made
  replies : v.replies = v'.replies
  offers : v.offers = v'.offers

section
variable {w w' v v' : Console}

theorem Counterparts.perform (h : Counterparts w w' v v') (op : ClientOp) :
    Counterparts w w' (v.perform op) (v'.perform op) := by
  obtain ⟨clients, reply⟩ := h.clients.perform op
  obtain ⟨current, made, former, former'⟩ := World.perform_alike v.world v'.world
    h.clients h.current op
  constructor
  case clients => simpa only [perform_client] using clients
  case inStep => simpa only [perform_client] using h.inStep.perform op
  case inStep' => simpa only [perform_client] using h.inStep'.perform op
  case told =>
    obtain ⟨unread, reads⟩ := h.inStep
    obtain ⟨unread', reads'⟩ := h.inStep'
    obtain rfl := h.clients.unread reads reads'
    obtain ⟨occasions, gained, gained'⟩ := h.told
    have more := Client.perform_tells reads op
    have more' := Client.perform_tells reads' op
    rw [h.clients.occasions] at more'
    refine ⟨occasions ++ Client.occasionsOf v.client.settings unread' op, ?_, ?_⟩
    · rw [perform_client, Client.perform_settings, List.map_append]
      exact gained.trans more
    · rw [perform_client, Client.perform_settings, List.map_append]
      exact gained'.trans more'
  case loops => exact h.loops
  case current => exact current
  case former =>
    obtain ⟨earlier, before, before'⟩ := h.former
    refine ⟨earlier ++ made, former.trans ?_, former'.trans ?_⟩
    · rw [← List.append_assoc, ← before]; rfl
    · rw [← List.append_assoc, ← before']; rfl
  case replies => simp only [Console.perform, h.replies, reply]
  case offers => simp only [Console.perform, h.offers, h.clients.offer]

theorem Counterparts.performAll (h : Counterparts w w' v v') (ops : List ClientOp) :
    Counterparts w w' (v.performAll ops) (v'.performAll ops) := by
  induction ops generalizing v v' with
  | nil => exact h
  | cons op ops ih => exact ih (h.perform op)

theorem Counterparts.write (h : Counterparts w w' v v') (works : Bool) :
    Counterparts w w' (v.move (.write works)) (v'.move (.write works)) := by
  have line : v.world.line? = v'.world.line? := World.line_alike h.clients h.current
  simp only [Console.move, World.writeCurrent, ← line]
  cases v.world.line? with
  | none => exact h
  | some line =>
    exact ⟨h.clients.setSink _, h.inStep.setSink _, h.inStep'.setSink _, h.told, h.loops, rfl,
      h.former, h.replies, h.offers⟩

/-- The loop goes on in the same way, and has the client that it is given. -/
theorem Counterparts.onLoop (h : Counterparts w w' v v') {l l' : EventLoop}
    (client : l.client = v.client) (client' : l'.client = v'.client) (loops : l.rest = l'.rest) :
    Counterparts w w' { v with loop := l } { v' with loop := l' } where
  clients := by simpa only [Console.client, client, client'] using h.clients
  inStep := by simpa only [Console.client, client] using h.inStep
  inStep' := by simpa only [Console.client, client'] using h.inStep'
  told := by simpa only [Console.client, client, client'] using h.told
  loops := loops
  current := h.current
  former := h.former
  replies := h.replies
  offers := h.offers

/-- Counterparts stay counterparts, whatever happens to both. -/
theorem Counterparts.move (h : Counterparts w w' v v') (m : Move) :
    Counterparts w w' (v.move m) (v'.move m) := by
  cases m with
  | ask op => exact h.perform op
  | enter attempt =>
    have ops : entryOps v.client attempt = entryOps v'.client attempt := by
      simp only [entryOps, h.clients.isNone]
    have asked := h.performAll (entryOps v.client attempt)
    simp only [Console.move, ← ops, start_run, ← performAll_client]
    exact asked.onLoop rfl rfl rfl
  | send control =>
    exact h.onLoop (EventLoop.enqueue_client _ _) (EventLoop.enqueue_client _ _)
      (EventLoop.enqueue_alike h.loops control)
  | hangUp => exact h.onLoop rfl rfl (EventLoop.closeControls_alike h.loops)
  | turn side attempt =>
    obtain ⟨loops, ops⟩ := EventLoop.turn_alike h.clients h.loops side attempt
    have asked := h.performAll (v.loop.turnOps side attempt)
    simp only [Console.move, ← ops]
    exact asked.onLoop (v.turned_client side attempt) (ops ▸ v'.turned_client side attempt) loops
  | write works => exact h.write works

theorem Counterparts.run (h : Counterparts w w' v v') (moves : List Move) :
    Counterparts w w' (v.run moves) (v'.run moves) := by
  induction moves generalizing v v' with
  | nil => exact h
  | cons m moves ih => exact ih (h.move m)

end

end Console

end JobConsole
