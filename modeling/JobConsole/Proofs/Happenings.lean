import JobConsole.Proofs.SessionLifecycle

namespace JobConsole

/-- An event, with the state it found and what it answered. -/
structure Happening where
  state : ConnectionState
  event : SessionEvent
  reply : SessionReply

/-- Whether the event is a payload that holds no message. -/
def SessionEvent.isMalformed : SessionEvent → Bool
  | .message payload => !(parseMessage payload).isOk
  | _ => false

theorem SessionEvent.isMalformed_ok {payload : String} {message : Json}
    (parsed : parseMessage payload = .ok message) :
    (SessionEvent.message payload).isMalformed = false := by
  rw [isMalformed, parsed]
  rfl

theorem SessionEvent.isMalformed_error {payload : String} {e : ConsoleError}
    (parsed : parseMessage payload = .error e) :
    (SessionEvent.message payload).isMalformed = true := by
  rw [isMalformed, parsed]
  rfl

def SessionEvent.isMessage : SessionEvent → Bool
  | .message _ => true
  | _ => false

/-- A session that has nothing to do for an event is not told of a payload. -/
theorem Desk.Ignores.unheard {s : ConnectionState} {e : SessionEvent} (idle : Desk.Ignores s e)
    (heard : e.isMessage = true) : s ≠ .opened := by
  rintro rfl
  cases e with
  | message payload => exact idle
  | opened | lost | send | retire => cases heard

theorem SessionEvent.isMessage_of_isMalformed {e : SessionEvent} (h : e.isMalformed = true) :
    e.isMessage = true := by
  cases e with
  | message payload => rfl
  | opened | lost | send | retire => cases h

namespace Happening

/-- An open session was told of a payload. -/
def isHeard (h : Happening) : Bool := h.state = .opened && h.event.isMessage

/-- An open session was told of a payload that holds no message. -/
def isParseFailure (h : Happening) : Bool := h.state = .opened && h.event.isMalformed

theorem isHeard_iff {h : Happening} :
    h.isHeard = true ↔ h.state = .opened ∧ h.event.isMessage = true := by
  simp [isHeard]

theorem isParseFailure_iff {h : Happening} :
    h.isParseFailure = true ↔ h.state = .opened ∧ h.event.isMalformed = true := by
  simp [isParseFailure]

def isSent (h : Happening) : Bool :=
  match h.reply with
  | .sent (.ok sent) => sent
  | _ => false

end Happening

namespace Desk

section
variable {σ : Type} [CommandSink σ]

def happening (d : Desk σ) (e : SessionEvent) : Happening :=
  ⟨d.session.state, e, (d.perform e).2⟩

def happenings (d : Desk σ) : List SessionEvent → List Happening
  | [] => []
  | e :: events => d.happening e :: (d.perform e).1.happenings events

/-- Every happening is what an event was to the desk that the events before it left. -/
theorem mem_happenings {d : Desk σ} {events : List SessionEvent} {h : Happening}
    (found : h ∈ d.happenings events) :
    ∃ before e after, events = before ++ e :: after ∧ h = (d.run before).happening e := by
  induction events generalizing d with
  | nil => cases found
  | cons e events ih =>
    obtain rfl | later := List.mem_cons.mp found
    · exact ⟨[], e, events, rfl, rfl⟩
    · obtain ⟨before, e', after, rfl, rfl⟩ := ih later
      exact ⟨e :: before, e', after, rfl, rfl⟩

/-- What every event keeps is kept by a run. -/
theorem run_induction {P : Desk σ → Prop} (step : ∀ d e, P d → P (d.perform e).1) {d : Desk σ}
    (h : P d) (events : List SessionEvent) : P (d.run events) := by
  induction events generalizing d with
  | nil => exact h
  | cons e events ih => exact ih (step d e h)

/-- A count that goes up by one with every happening of some kind counts these happenings. -/
theorem run_counts (count : Desk σ → Nat) {kind : Happening → Bool}
    (step : ∀ d e, count (d.perform e).1 = count d + if kind (d.happening e) then 1 else 0)
    (d : Desk σ) (events : List SessionEvent) :
    count (d.run events) = count d + (d.happenings events).countP kind := by
  induction events generalizing d with
  | nil => rfl
  | cons e events ih =>
    rw [run_cons, ih, step, happenings, List.countP_cons]
    omega

end

end Desk

end JobConsole
