import JobConsole.Control

namespace JobConsole

structure Relay where
  /-- The lines that the reader has not come to. -/
  unread : List (List UInt8)
  /-- The control that the reader waits to send. -/
  pending : Option Control
  reading : Bool
  /-- The controls that were sent and not received, oldest first. -/
  channel : List Control
  received : List Control
  /-- Whether the receiver went away. -/
  gone : Bool

namespace Relay

def start (bytes : List UInt8) : Relay := ⟨splitLines bytes, none, true, [], [], false⟩

/-- What the reader and the receiver can do. The reader waits while the channel is full. The receiver
goes away once it has as many controls as it takes. -/
inductive Step (capacity : Nat) (taken : Option Nat) (r : Relay) : Relay → Prop
  | read {line : List UInt8} {cs : List Char} {rest : List (List UInt8)} (runs : r.reading = true)
      (idle : r.pending = none) (next : r.unread = line :: rest) (text : Utf8.decode line = .ok cs) :
      Step capacity taken r
        { r with
          unread := rest
          pending := some (.ofLine (String.ofList (withoutLineEnd cs))) }
  | finish (runs : r.reading = true) (idle : r.pending = none) (last : r.unread = []) :
      Step capacity taken r { r with reading := false }
  | refuse {line : List UInt8} {fault : Utf8.Fault} {rest : List (List UInt8)}
      (runs : r.reading = true) (idle : r.pending = none) (next : r.unread = line :: rest)
      (noText : Utf8.decode line = .error fault) : Step capacity taken r { r with reading := false }
  | send {control : Control} (runs : r.reading = true) (waits : r.pending = some control)
      (there : r.gone = false) (room : r.channel.length < capacity) :
      Step capacity taken r { r with pending := none, channel := r.channel ++ [control] }
  | giveUp {control : Control} (runs : r.reading = true) (waits : r.pending = some control)
      (alone : r.gone = true) : Step capacity taken r { r with reading := false }
  | take {control : Control} {rest : List Control} (there : r.gone = false)
      (wants : taken ≠ some r.received.length) (next : r.channel = control :: rest) :
      Step capacity taken r { r with channel := rest, received := r.received ++ [control] }
  | leave (there : r.gone = false) (enough : taken = some r.received.length) :
      Step capacity taken r { r with gone := true }

/-- What comes of a relay in so many steps. -/
inductive Run (capacity : Nat) (taken : Option Nat) (first : Relay) : Nat → Relay → Prop
  | start : Run capacity taken first 0 first
  | next {steps : Nat} {r r' : Relay} (before : Run capacity taken first steps r)
      (step : Step capacity taken r r') : Run capacity taken first (steps + 1) r'

def toCome (r : Relay) : List Control := (Control.textLines r.unread).map Control.ofLine

/-- How many steps there can be. A line is read, sent and received. -/
def work (r : Relay) : Nat :=
  3 * r.unread.length + 2 * r.pending.toList.length + r.channel.length + r.reading.toNat +
    (!r.gone).toNat

/-- As long as there is a receiver, the controls of the octets are in the hands of one of the parties,
in their order. A receiver that went away took as many as it takes. -/
structure Carries (bytes : List UInt8) (taken : Option Nat) (r : Relay) : Prop where
  flow (there : r.gone = false) :
    r.received ++ r.channel ++ r.pending.toList ++ r.toCome = Control.readAll bytes
  first : r.received <+: Control.readAll bytes
  within : ∀ count, taken = some count → r.received.length ≤ count
  left (alone : r.gone = true) : taken = some r.received.length
  ended (ends : r.reading = false) : r.gone = true ∨ (r.pending = none ∧ r.toCome = [])

section
variable {bytes : List UInt8} {capacity : Nat} {taken : Option Nat} {r r' : Relay}

theorem start_carries (bytes : List UInt8) (taken : Option Nat) : (start bytes).Carries bytes taken where
  flow _ := rfl
  first := List.nil_prefix
  within _ _ := Nat.zero_le _
  left := nofun
  ended := nofun

theorem toCome_text {line : List UInt8} {cs : List Char} {rest : List (List UInt8)}
    (next : r.unread = line :: rest) (text : Utf8.decode line = .ok cs) :
    r.toCome = .ofLine (String.ofList (withoutLineEnd cs)) :: (Control.textLines rest).map .ofLine := by
  simp [toCome, next, Control.textLines, text]

theorem toCome_noText {line : List UInt8} {fault : Utf8.Fault} {rest : List (List UInt8)}
    (next : r.unread = line :: rest) (noText : Utf8.decode line = .error fault) : r.toCome = [] := by
  simp [toCome, next, Control.textLines, noText]

theorem Carries.step (h : r.Carries bytes taken) (step : Step capacity taken r r') :
    r'.Carries bytes taken := by
  obtain ⟨flow, first, within, left, ended⟩ := h
  cases step with
  | read runs idle next text =>
    refine ⟨?_, first, within, left, ?_⟩
    · intro there
      rw [← flow there, toCome_text next text, idle]
      simp [toCome]
    · intro ends
      cases runs.symm.trans ends
  | finish runs idle last =>
    refine ⟨flow, first, within, left, ?_⟩
    intro ends
    exact .inr ⟨idle, by simp [toCome, last, Control.textLines]⟩
  | refuse runs idle next noText =>
    refine ⟨flow, first, within, left, ?_⟩
    intro ends
    exact .inr ⟨idle, toCome_noText (r := r) next noText⟩
  | send runs waits there room =>
    refine ⟨?_, first, within, left, ?_⟩
    · intro _
      rw [← flow there, waits]
      simp [toCome]
    · intro ends
      cases runs.symm.trans ends
  | giveUp runs waits alone =>
    exact ⟨flow, first, within, left, fun _ => .inl alone⟩
  | @take control rest there wants next =>
    have moved : r.received ++ [control] ++ rest ++ r.pending.toList ++ r.toCome =
        Control.readAll bytes := by
      rw [← flow there, next]
      simp
    refine ⟨fun _ => moved, ?_, ?_, ?_, ended⟩
    · rw [← moved, List.append_assoc, List.append_assoc]
      exact List.prefix_append _ _
    · rintro count rfl
      have more := within count rfl
      have other : count ≠ r.received.length := fun same => wants (congrArg some same)
      simp only [List.length_append, List.length_singleton]
      omega
    · intro alone
      cases there.symm.trans alone
  | leave there enough =>
    exact ⟨nofun, first, within, fun _ => enough, fun _ => .inl rfl⟩

theorem Step.work (step : Step capacity taken r r') : r'.work < r.work := by
  cases step with
  | read runs idle next text => simp [Relay.work, idle, next]; omega
  | finish runs idle last => simp [Relay.work, runs]
  | refuse runs idle next noText => simp [Relay.work, runs]
  | send runs waits there room => simp [Relay.work, waits]; omega
  | giveUp runs waits alone => simp [Relay.work, runs]
  | take there wants next => simp [Relay.work, next]
  | leave there enough => simp [Relay.work, there]

/-- What is received is delivered, in this order. -/
theorem Carries.received (h : r.Carries bytes taken) : r.received <+: Control.delivered bytes taken := by
  cases taken with
  | none => exact h.first
  | some count => exact List.prefix_take_iff.mpr ⟨h.first, h.within count rfl⟩

section
variable (h : r.Carries bytes taken) (stuck : ∀ r', ¬Step capacity taken r r')
include stuck

/-- Where nothing can be done any more, the reader has ended. -/
theorem reading_of_stuck (idle : r.pending = none) : r.reading = false := by
  cases runs : r.reading with
  | false => rfl
  | true =>
    cases next : r.unread with
    | nil => exact absurd (.finish runs idle next) (stuck _)
    | cons line rest =>
      cases text : Utf8.decode line with
      | ok cs => exact absurd (.read runs idle next text) (stuck _)
      | error fault => exact absurd (.refuse runs idle next text) (stuck _)

include h

/-- Where nothing can be done any more and there is a receiver, it has all controls. -/
theorem Carries.all (room : 0 < capacity) (there : r.gone = false) :
    r.received = Control.readAll bytes := by
  have wants : taken ≠ some r.received.length := fun enough => stuck _ (.leave there enough)
  have empty : r.channel = [] := by
    cases next : r.channel with
    | nil => rfl
    | cons control rest => exact absurd (.take there wants next) (stuck _)
  have idle : r.pending = none := by
    cases waits : r.pending with
    | none => rfl
    | some control =>
      cases runs : r.reading with
      | true =>
        have space : r.channel.length < capacity := by rwa [empty]
        exact absurd (.send runs waits there space) (stuck _)
      | false =>
        obtain alone | ⟨idle, -⟩ := h.ended runs
        · cases there.symm.trans alone
        · cases waits.symm.trans idle
  obtain alone | ⟨-, none⟩ := h.ended (reading_of_stuck stuck idle)
  · cases there.symm.trans alone
  · have flow := h.flow there
    rw [empty, idle, none] at flow
    simpa using flow

/-- Where nothing can be done any more, the receiver has what is delivered. -/
theorem Carries.rest (room : 0 < capacity) : r.received = Control.delivered bytes taken := by
  cases alone : r.gone with
  | true =>
    rw [h.left alone]
    exact List.prefix_iff_eq_take.mp h.first
  | false =>
    have all := h.all stuck room alone
    cases taken with
    | none => exact all
    | some count =>
      have within := h.within count rfl
      rw [all] at within ⊢
      exact (List.take_of_length_le within).symm

end

/-- A run is no longer than the work that there was. What is received in it is delivered, and where
nothing can be done any more, that is all that is delivered. -/
theorem Run.delivers {steps : Nat} (run : Run capacity taken (Relay.start bytes) steps r) :
    steps ≤ 3 * (splitLines bytes).length + 2 ∧ r.received <+: Control.delivered bytes taken ∧
      (0 < capacity → (∀ r', ¬Step capacity taken r r') →
        r.received = Control.delivered bytes taken) := by
  have kept : steps + r.work ≤ (Relay.start bytes).work ∧ r.Carries bytes taken := by
    induction run with
    | start => exact ⟨Nat.le_of_eq (Nat.zero_add _), start_carries bytes taken⟩
    | next before step ih =>
      have := step.work
      exact ⟨by omega, ih.2.step step⟩
  obtain ⟨within, carries⟩ := kept
  refine ⟨Nat.le_trans (Nat.le_add_right steps r.work) within, carries.received, ?_⟩
  intro room stuck
  exact carries.rest stuck room

end

end Relay

end JobConsole
