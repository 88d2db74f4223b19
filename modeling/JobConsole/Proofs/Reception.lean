import Mathlib.Data.List.Forall2
import Mathlib.Logic.Relation
import JobConsole.Proofs.History
import JobConsole.Proofs.Wire

/-!
# Reception

What a console makes of the items that arrive on a connection, of whatever kinds and in any order:

* `Incoming.kind`: texts, items that are passed over, and ends;
* `Retold`, `retold_iff`: streams that differ in items that are passed over, in the kind of their
  end and in what stands behind it are those with the same payloads that both end or both do not;
* `eventsOf_eq`: the events of a stream are its payloads and its first end;
* `opens`: its first event, and what is left then;
* `Client.eventsRead`, `Client.answers`: what a number of calls read, and what they answer;
* `Client.Overhears`: two clients of which one reads what was retold to the other;
* `control_frames_are_invisible`: what the calls read of a stream that ends, and that it makes no
  difference how it is told.
-/

namespace JobConsole

/-! ## Streams -/

inductive Kind
  | text (payload : String)
  /-- It is passed over. -/
  | quiet
  /-- It ends the connection. -/
  | ending
  deriving DecidableEq, Repr

def Kind.payload? : Kind → Option String
  | .text payload => some payload
  | .quiet | .ending => none

/-- Pings, pongs, binary frames and raw frames are passed over; a close, an error and the end of the
stream are ends alike. -/
def Incoming.kind : Incoming → Kind
  | .text payload => .text payload
  | .binary _ | .ping _ | .pong _ | .frame => .quiet
  | .close _ | .failed _ | .finished => .ending

/-- The payloads in what arrives on a connection, up to its first end. -/
def payloadsOf (items : List Incoming) : List String :=
  (items.takeWhile (·.kind ≠ .ending)).filterMap (·.kind.payload?)

/-- What arrives, as far as it matters: the payloads, and whether the connection ends. -/
def gist (items : List Incoming) : List String × Bool :=
  (payloadsOf items, items.any (·.kind = .ending))

/-- One item that is passed over is put in, or an end is replaced by another, with anything behind
it. -/
inductive Edited : List Incoming → List Incoming → Prop
  | quiet (before after : List Incoming) {item : Incoming} (quiet : item.kind = .quiet) :
      Edited (before ++ after) (before ++ item :: after)
  | ending (before after after' : List Incoming) {last last' : Incoming}
      (ends : last.kind = .ending) (ends' : last'.kind = .ending) :
      Edited (before ++ last :: after) (before ++ last' :: after')

/-- A stream that comes from another by such changes, made or undone. -/
def Retold : List Incoming → List Incoming → Prop := Relation.EqvGen Edited

section
variable {item : Incoming} {items items' rest : List Incoming}

theorem gist_text {payload : String} (text : item.kind = .text payload) (items : List Incoming) :
    gist (item :: items) = (payload :: (gist items).1, (gist items).2) := by
  simp [gist, payloadsOf, text, Kind.payload?]

theorem gist_quiet (quiet : item.kind = .quiet) (items : List Incoming) :
    gist (item :: items) = gist items := by
  simp [gist, payloadsOf, quiet, Kind.payload?]

theorem gist_ending (ends : item.kind = .ending) (items : List Incoming) :
    gist (item :: items) = ([], true) := by
  simp [gist, payloadsOf, ends]

/-- The gist of a stream that goes on after another one. -/
theorem gist_append (items later : List Incoming) :
    gist (items ++ later) =
      if (gist items).2 then gist items
      else ((gist items).1 ++ (gist later).1, (gist later).2) := by
  induction items with
  | nil => rfl
  | cons item items ih =>
    rw [List.cons_append]
    cases kind : item.kind with
    | quiet => rw [gist_quiet kind, gist_quiet kind, ih]
    | text payload =>
      rw [gist_text kind, gist_text kind, ih]
      by_cases ended : (gist items).2 = true <;> simp [ended]
    | ending =>
      rw [gist_ending kind, gist_ending kind]
      rfl

theorem gist_edited (h : Edited items items') : gist items = gist items' := by
  cases h with
  | quiet before after quiet => rw [gist_append, gist_append, gist_quiet quiet]
  | ending before after after' ends ends' =>
    rw [gist_append, gist_append, gist_ending ends, gist_ending ends']

/-- The shortest stream with some payloads, with an end or without. -/
def toldOf (gist : List String × Bool) : List Incoming :=
  gist.1.map Incoming.text ++ if gist.2 then [.finished] else []

theorem Retold.cons (item : Incoming) (h : Retold items items') :
    Retold (item :: items) (item :: items') := by
  induction h with
  | rel _ _ edited =>
    apply Relation.EqvGen.rel
    cases edited with
    | quiet before after quiet => exact .quiet (item :: before) after quiet
    | ending before after after' ends ends' =>
      exact .ending (item :: before) after after' ends ends'
  | refl => exact .refl _
  | symm _ _ _ ih => exact .symm _ _ ih
  | trans _ _ _ _ _ ih ih' => exact .trans _ _ _ ih ih'

theorem retold_toldOf (items : List Incoming) : Retold items (toldOf (gist items)) := by
  induction items with
  | nil => exact .refl []
  | cons item items ih =>
    cases kind : item.kind with
    | quiet =>
      rw [gist_quiet kind]
      exact .trans _ _ _ (.symm _ _ (.rel _ _ (.quiet [] items kind))) ih
    | text payload =>
      obtain rfl : item = .text payload := by
        cases item <;> simp_all [Incoming.kind]
      rw [gist_text kind]
      exact ih.cons (.text payload)
    | ending =>
      rw [gist_ending kind]
      exact .rel _ _ (.ending [] items [] kind rfl)

/-- Streams with the same gist are the same stream, told in two ways. -/
theorem retold_iff : Retold items items' ↔ gist items = gist items' := by
  constructor
  · intro h
    induction h with
    | rel _ _ edited => exact gist_edited edited
    | refl => rfl
    | symm _ _ _ ih => exact ih.symm
    | trans _ _ _ _ _ ih ih' => exact ih.trans ih'
  · intro same
    have told := retold_toldOf items'
    rw [← same] at told
    exact .trans _ _ _ (retold_toldOf items) (.symm _ _ told)

/-! ## The events of a stream -/

theorem event?_text {payload : String} (text : item.kind = .text payload) :
    item.event? = some (.text payload) := by
  cases item with
  | text => exact congrArg some (congrArg InboundEvent.text (Kind.text.inj text))
  | binary | ping | pong | frame | close | failed | finished => cases text

theorem event?_quiet (quiet : item.kind = .quiet) : item.event? = none := by
  cases item with
  | binary | ping | pong | frame => rfl
  | text | close | failed | finished => cases quiet

theorem event?_ending (ends : item.kind = .ending) :
    ∃ detail, item.event? = some (.closed detail) := by
  cases item with
  | close | failed | finished => exact ⟨_, rfl⟩
  | text | binary | ping | pong | frame => cases ends

theorem isClosed_iff {event : InboundEvent} (isEvent : item.event? = some event) :
    event.isClosed = true ↔ item.kind = .ending := by
  cases item with
  | text | close | failed | finished =>
    obtain rfl := Option.some.inj isEvent
    simp [InboundEvent.isClosed, Incoming.kind]
  | binary | ping | pong | frame => cases isEvent

/-- The events of a stream are its payloads and its first end. -/
theorem eventsOf_eq (items : List Incoming) :
    eventsOf items = (payloadsOf items).map .text ++
      ((items.find? (·.kind = .ending)).bind Incoming.event?).toList := by
  induction items with
  | nil => rfl
  | cons item items ih =>
    cases kind : item.kind with
    | quiet =>
      have payloads : payloadsOf (item :: items) = payloadsOf items :=
        congrArg Prod.fst (gist_quiet kind items)
      rw [payloads, List.find?_cons_of_neg (by simp [kind]), ← ih]
      simp only [eventsOf, event?_quiet kind]
    | text payload =>
      have payloads : payloadsOf (item :: items) = payload :: payloadsOf items :=
        congrArg Prod.fst (gist_text kind items)
      rw [payloads, List.find?_cons_of_neg (by simp [kind]), List.map_cons, List.cons_append, ← ih]
      simp only [eventsOf, event?_text kind]
    | ending =>
      obtain ⟨detail, closed⟩ := event?_ending kind
      have payloads : payloadsOf (item :: items) = [] :=
        congrArg Prod.fst (gist_ending kind items)
      rw [payloads, List.find?_cons_of_pos (by simp [kind])]
      simp [eventsOf, closed]

/-- An event is read off its item, past items that are passed over. -/
def ReadOff (items : List Incoming) (event : InboundEvent) (rest : List Incoming) : Prop :=
  ∃ passed item, items = passed ++ item :: rest ∧ (∀ other ∈ passed, other.kind = .quiet) ∧
    item.event? = some event

/-- The first event of a stream: a payload, with what is left, or its end. -/
inductive Opens (items : List Incoming) : Prop
  | nothing (first : Inbound.firstEvent items = none) (told : gist items = ([], false))
  | text {payload : String} {rest : List Incoming}
      (first : Inbound.firstEvent items = some (.text payload, rest))
      (off : ReadOff items (.text payload) rest)
      (told : gist items = (payload :: (gist rest).1, (gist rest).2))
  | ended {detail : Option String} {rest : List Incoming}
      (first : Inbound.firstEvent items = some (.closed detail, rest))
      (off : ReadOff items (.closed detail) rest) (told : gist items = ([], true))

theorem opens (items : List Incoming) : Opens items := by
  induction items with
  | nil => exact .nothing rfl rfl
  | cons item items ih =>
    cases kind : item.kind with
    | text payload =>
      have event := event?_text kind
      have first : Inbound.firstEvent (item :: items) = some (.text payload, items) := by
        simp only [Inbound.firstEvent, event]
      exact .text first ⟨[], item, rfl, List.forall_mem_nil _, event⟩ (gist_text kind items)
    | ending =>
      obtain ⟨detail, event⟩ := event?_ending kind
      have first : Inbound.firstEvent (item :: items) = some (.closed detail, items) := by
        simp only [Inbound.firstEvent, event]
      exact .ended first ⟨[], item, rfl, List.forall_mem_nil _, event⟩ (gist_ending kind items)
    | quiet =>
      have further {event : InboundEvent} {rest : List Incoming} (off : ReadOff items event rest) :
          ReadOff (item :: items) event rest := by
        obtain ⟨passed, last, rfl, quiet, isEvent⟩ := off
        exact ⟨item :: passed, last, rfl, List.forall_mem_cons.mpr ⟨kind, quiet⟩, isEvent⟩
      have skip : Inbound.firstEvent (item :: items) = Inbound.firstEvent items := by
        simp only [Inbound.firstEvent, event?_quiet kind]
      have same := gist_quiet kind items
      cases ih with
      | nothing first told => exact .nothing (skip.trans first) (same.trans told)
      | text first off told => exact .text (skip.trans first) (further off) (same.trans told)
      | ended first off told => exact .ended (skip.trans first) (further off) (same.trans told)

/-- The first events of two streams with the same gist. -/
inductive OpenAlike (items items' : List Incoming) : Prop
  | nothing (first : Inbound.firstEvent items = none) (first' : Inbound.firstEvent items' = none)
  | text {payload : String} {rest rest' : List Incoming}
      (first : Inbound.firstEvent items = some (.text payload, rest))
      (first' : Inbound.firstEvent items' = some (.text payload, rest'))
      (later : gist rest = gist rest')
  | ended {detail detail' : Option String} {rest rest' : List Incoming}
      (first : Inbound.firstEvent items = some (.closed detail, rest))
      (first' : Inbound.firstEvent items' = some (.closed detail', rest'))

theorem opens_alike (same : gist items = gist items') : OpenAlike items items' := by
  cases opens items with
  | nothing first told =>
    cases opens items' with
    | nothing first' => exact .nothing first first'
    | text _ _ told' | ended _ _ told' => simp [told, told'] at same
  | text first _ told =>
    cases opens items' with
    | @text payload' rest' first' _ told' =>
      rw [told, told', Prod.mk.injEq, List.cons.injEq] at same
      obtain ⟨⟨rfl, payloads⟩, ends⟩ := same
      exact .text first first' (Prod.ext payloads ends)
    | nothing _ told' | ended _ _ told' => simp [told, told'] at same
  | ended first _ told =>
    cases opens items' with
    | ended first' => exact .ended first first'
    | nothing _ told' | text _ _ told' => simp [told, told'] at same

end

/-! ## Calls -/

namespace Client

/-- The client after the next event was handled a number of times. -/
def calls (count : Nat) (c : Client) : Client := c.run (List.replicate count .processNext)

def nextEvent? (c : Client) : Option InboundEvent := (c.inbound?.bind Inbound.next).map Prod.fst

def eventsRead : (calls : Nat) → Client → List InboundEvent
  | 0, _ => []
  | calls + 1, c => c.nextEvent?.toList ++ eventsRead calls c.processNext.1

def answers : (calls : Nat) → Client → List Progress
  | 0, _ => []
  | calls + 1, c => c.processNext.2 :: answers calls c.processNext.1

section
variable {c : Client} {session : Session ChannelSink} {items : List Incoming}

theorem calls_succ (count : Nat) (c : Client) : c.calls (count + 1) = c.processNext.1.calls count :=
  rfl

/-- What a call makes of a stream that ends. Behind a payload the rest is left, which ends as well;
behind an end nothing is read any more. -/
inductive Call (c : Client) (items : List Incoming) : Prop
  | text {payload : String} {rest : List Incoming} {session : Session ChannelSink}
      (off : ReadOff items (.text payload) rest) (next : c.nextEvent? = some (.text payload))
      (answer : c.processNext.2 = .handled)
      (reads : c.processNext.1.active = some ⟨session, some ⟨rest, false⟩⟩)
      (ends : (gist rest).2 = true)
      (events : eventsOf items = .text payload :: eventsOf rest)
  | ended {detail : Option String} {rest : List Incoming}
      (off : ReadOff items (.closed detail) rest) (next : c.nextEvent? = some (.closed detail))
      (answer : c.processNext.2 = .handled) (unread : c.processNext.1.inbound? = none)
      (events : eventsOf items = [.closed detail])

theorem call_reading (reads : c.active = some ⟨session, some ⟨items, false⟩⟩)
    (ends : (gist items).2 = true) : Call c items := by
  cases opens items with
  | nothing first told =>
    -- An end is an event, so there is a first one.
    rw [told] at ends
    cases ends
  | @text payload rest first off told =>
    have next : c.nextEvent? = some (.text payload) := by
      simp [nextEvent?, inbound?, reads, Inbound.next, first]
    have call := processNext_text reads first
    have later : (gist rest).2 = true := by rw [← ends, told]
    have events := eventsOf_text first []
    rw [List.append_nil, List.append_nil] at events
    exact .text off next (by rw [call]) (by rw [call]; rfl) later events
  | @ended detail rest first off told =>
    have next : c.nextEvent? = some (.closed detail) := by
      simp [nextEvent?, inbound?, reads, Inbound.next, first]
    have events := eventsOf_closed first []
    rw [List.append_nil] at events
    apply Call.ended off next
    · simp [processNext, reads, Inbound.next, first]
    · simp [processNext, reads, Inbound.next, first, dispatch, inbound?]
    · exact events

theorem processNext_idle (unread : c.inbound? = none) : c.processNext = (c, .idle) := by
  unfold inbound? at unread
  unfold processNext
  cases reads : c.active with
  | none => rfl
  | some a =>
    rw [reads, Option.bind_some] at unread
    simp only [unread]

theorem eventsRead_idle (unread : c.inbound? = none) (calls : Nat) : eventsRead calls c = [] := by
  induction calls with
  | zero => rfl
  | succ calls ih =>
    rw [eventsRead, processNext_idle unread, ih, nextEvent?, unread]
    rfl

theorem answers_idle (unread : c.inbound? = none) (calls : Nat) :
    answers calls c = List.replicate calls .idle := by
  induction calls with
  | zero => rfl
  | succ calls ih => rw [answers, processNext_idle unread, ih, List.replicate_succ]

/-- Calls handle the events of a stream that ends, one each, as long as there are any. -/
theorem eventsRead_eq (reads : c.active = some ⟨session, some ⟨items, false⟩⟩)
    (ends : (gist items).2 = true) (calls : Nat) :
    eventsRead calls c = (eventsOf items).take calls := by
  induction calls generalizing c session items with
  | zero => rfl
  | succ calls ih =>
    rw [eventsRead]
    cases call_reading reads ends with
    | text off next answer reads ends events =>
      rw [next, ih reads ends, events]
      rfl
    | ended off next answer unread events =>
      rw [next, eventsRead_idle unread, events, List.take_succ_cons, List.take_nil]
      rfl

theorem answers_eq (reads : c.active = some ⟨session, some ⟨items, false⟩⟩)
    (ends : (gist items).2 = true) (calls : Nat) :
    answers calls c = List.replicate (min calls (eventsOf items).length) .handled ++
      List.replicate (calls - (eventsOf items).length) .idle := by
  induction calls generalizing c session items with
  | zero => simp [answers]
  | succ calls ih =>
    rw [answers]
    cases call_reading reads ends with
    | text off next answer reads ends events =>
      rw [answer, ih reads ends, events, List.length_cons, Nat.add_min_add_right,
        Nat.add_sub_add_right, List.replicate_succ, List.cons_append]
    | ended off next answer unread events =>
      rw [answer, answers_idle unread, events]
      simp

/-- As long as there are events, each call reads one of them off what the call before left. -/
theorem calls_read (reads : c.active = some ⟨session, some ⟨items, false⟩⟩)
    (ends : (gist items).2 = true) {count : Nat} (more : count < (eventsOf items).length) :
    ∃ unread event rest, (c.calls count).inbound? = some ⟨unread, false⟩ ∧
      ReadOff unread event rest ∧ (c.calls count).nextEvent? = some event ∧
      (c.calls (count + 1)).inbound? = if event.isClosed then none else some ⟨rest, false⟩ := by
  induction count generalizing c session items with
  | zero =>
    have start : (c.calls 0).inbound? = some ⟨items, false⟩ := by simp [calls, inbound?, reads]
    cases call_reading reads ends with
    | text off next answer left =>
      refine ⟨items, _, _, start, off, next, ?_⟩
      simp [calls, perform, inbound?, left, InboundEvent.isClosed]
    | ended off next answer unread => exact ⟨items, _, _, start, off, next, unread⟩
  | succ count ih =>
    rw [calls_succ, calls_succ]
    cases call_reading reads ends with
    | text off next answer reads ends events =>
      apply ih reads ends
      rw [events, List.length_cons] at more
      omega
    | ended off next answer unread events =>
      rw [events, List.length_singleton] at more
      omega

end

/-! ## Streams that are told in two ways -/

/-- The same session, and what was retold to be read. -/
inductive Overheard : Option Active → Option Active → Prop
  | unstarted : Overheard none none
  | ended (session : Session ChannelSink) : Overheard (some ⟨session, none⟩) (some ⟨session, none⟩)
  | reading (session : Session ChannelSink) {items items' : List Incoming}
      (same : gist items = gist items') :
      Overheard (some ⟨session, some ⟨items, false⟩⟩) (some ⟨session, some ⟨items', false⟩⟩)

/-- Two clients of which one reads what was retold to the other. -/
inductive Overhears : Client → Client → Prop
  | intro (settings : Settings) (log : Log) (ids : IdSource) {active active' : Option Active}
      (overheard : Overheard active active') :
      Overhears ⟨settings, log, active, ids⟩ ⟨settings, log, active', ids⟩

/-- The same operation, or the arrival of what is the same, told in another way. -/
inductive SameOp : ClientOp → ClientOp → Prop
  | same (op : ClientOp) : SameOp op op
  | arrive {items items' : List Incoming} (retold : Retold items items') :
      SameOp (.arrive items) (.arrive items')

namespace Overhears

section
variable {c c' : Client} (h : Overhears c c')
include h

theorem start (attempt : Attempt) : Overhears (c.start attempt) (c'.start attempt) := by
  obtain @⟨settings, log, ids, active, active', -⟩ := h
  cases connects : attempt.connects settings with
  | true =>
    rw [start_connected (c := ⟨settings, log, active, ids⟩) connects,
      start_connected (c := ⟨settings, log, active', ids⟩) connects]
    exact .intro settings _ _ (.reading (openedSession settings ids.draw.1) rfl)
  | false =>
    rw [start_failed (c := ⟨settings, log, active, ids⟩) connects,
      start_failed (c := ⟨settings, log, active', ids⟩) connects]
    exact .intro settings _ _ (.ended (failedSession settings ids.draw.1))

theorem withLog (change : Log → Log) :
    Overhears { c with log := change c.log } { c' with log := change c'.log } := by
  obtain ⟨settings, log, ids, overheard⟩ := h
  exact .intro settings (change log) ids overheard

theorem shutdown : Overhears c.shutdown c'.shutdown := by
  obtain ⟨settings, log, ids, overheard⟩ := h
  cases overheard with
  | unstarted => exact .intro settings log ids .unstarted
  | ended | reading => exact .intro settings log ids (.ended _)

theorem reconnect (attempt : Attempt) : Overhears (c.reconnect attempt) (c'.reconnect attempt) :=
  (h.shutdown.withLog fun log => log.clearInput.appendLine reconnectingLine).start attempt

theorem send (text : String) : Overhears (c.send text).1 (c'.send text).1 := by
  obtain ⟨settings, log, ids, overheard⟩ := h
  unfold Client.send
  by_cases none : text = ""
  · simp only [none, if_true]
    exact .intro settings log ids overheard
  · simp only [none, if_false]
    cases overheard with
    | unstarted => exact .intro settings log ids .unstarted
    | ended => exact .intro settings log ids (.ended _)
    | reading session same => exact .intro settings log ids (.reading _ same)

theorem deliver {items items' : List Incoming} (same : gist items = gist items') :
    Overhears (c.deliver items) (c'.deliver items') := by
  obtain ⟨settings, log, ids, overheard⟩ := h
  cases overheard with
  | unstarted => exact .intro settings log ids .unstarted
  | ended session => exact .intro settings log ids (.ended session)
  | reading session earlier =>
    apply Overhears.intro settings log ids
    apply Overheard.reading session
    rw [gist_append, gist_append, earlier, same]

theorem processNext : Overhears c.processNext.1 c'.processNext.1 := by
  obtain ⟨settings, log, ids, overheard⟩ := h
  cases overheard with
  | unstarted => exact .intro settings log ids .unstarted
  | ended session => exact .intro settings log ids (.ended session)
  | @reading session items items' same =>
    cases opens_alike same with
    | nothing first first' =>
      rw [processNext_waiting rfl first, processNext_waiting rfl first']
      exact .intro settings log ids (.reading session same)
    | text first first' later =>
      rw [processNext_text rfl first, processNext_text rfl first']
      apply Overhears.intro
      exact .reading _ later
    | ended first first' =>
      simp only [Client.processNext, Inbound.next, first, first', dispatch]
      apply Overhears.intro
      exact .ended _

theorem perform {op op' : ClientOp} (same : SameOp op op') :
    Overhears (c.perform op).1 (c'.perform op').1 := by
  cases same with
  | arrive retold => exact h.deliver (retold_iff.mp retold)
  | same =>
    cases op with
    | start attempt => exact h.start attempt
    | reconnect attempt => exact h.reconnect attempt
    | send text => exact h.send text
    | submit text => exact (h.withLog fun log => log.setInput text).send text
    | processNext => exact h.processNext
    | shutdown => exact h.shutdown
    | arrive items => exact h.deliver rfl

theorem run {ops ops' : List ClientOp} (same : List.Forall₂ SameOp ops ops') :
    Overhears (c.run ops) (c'.run ops') := by
  induction same generalizing c c' with
  | nil => exact h
  | cons op _ ih => exact ih (h.perform op)

/-- Two such clients show the same, and have the same session with the same frames queued. -/
theorem indistinguishable : c.log = c'.log ∧ c.session? = c'.session? := by
  obtain ⟨settings, log, ids, overheard⟩ := h
  refine ⟨rfl, ?_⟩
  cases overheard <;> rfl

end

end Overhears

/-- **Control and binary frames are invisible, and an end is final.** Let a session read a stream
that ends, be it only because nothing more comes. A number of calls handle one text for each payload
before the first end, in their order and as they are, and then one end, that of the first item that
is an end. Each call reads off what the call before left: past items that are passed over, up to
the first one that is not. The calls answer that they handled an event as often as there are such
payloads and once more, and from then on that nothing is read. Whatever is asked of the client,
items that are passed over, the kind of an end and what stands behind it make no difference to its
log, and none to the state, the counts and the queue of its session. -/
theorem control_frames_are_invisible {c : Client} {session : Session ChannelSink}
    {items : List Incoming} (reads : c.active = some ⟨session, some ⟨items, false⟩⟩)
    (ends : ∃ item ∈ items, item.kind = .ending) :
    let payloads := payloadsOf items
    (∃ last detail, items.find? (·.kind = .ending) = some last ∧
      last.event? = some (.closed detail) ∧
      ∀ calls, c.eventsRead calls =
        (payloads.map InboundEvent.text ++ [InboundEvent.closed detail]).take calls) ∧
    (∀ count ≤ payloads.length,
      ∃ passed item rest event, (c.calls count).inbound? = some ⟨passed ++ item :: rest, false⟩ ∧
        (∀ other ∈ passed, other.kind = .quiet) ∧ item.event? = some event ∧
        (c.calls count).nextEvent? = some event ∧
        (c.calls (count + 1)).inbound? =
          if item.kind = .ending then none else some ⟨rest, false⟩) ∧
    (∀ calls, c.answers calls = List.replicate (min calls (payloads.length + 1)) .handled ++
      List.replicate (calls - (payloads.length + 1)) .idle) ∧
    ∀ items' ops ops', Retold items items' → List.Forall₂ SameOp ops ops' →
      let d := c.run ops
      let d' := ({ c with active := some ⟨session, some ⟨items', false⟩⟩ } : Client).run ops'
      d'.log = d.log ∧ d'.state? = d.state? ∧ d'.stats? = d.stats? ∧ d'.sink? = d.sink? := by
  intro payloads
  have ending : (gist items).2 = true := by simpa [gist] using ends
  obtain ⟨last, found⟩ : ∃ last, items.find? (·.kind = .ending) = some last :=
    Option.isSome_iff_exists.mp (List.find?_isSome.mpr (by simpa using ends))
  have isEnd : last.kind = .ending := by simpa using List.find?_some found
  obtain ⟨detail, closed⟩ := event?_ending isEnd
  have events : eventsOf items = payloads.map .text ++ [.closed detail] := by
    rw [eventsOf_eq, found, Option.bind_some, closed]
    rfl
  have length : (eventsOf items).length = payloads.length + 1 := by
    rw [events, List.length_append, List.length_map, List.length_singleton]
  refine ⟨⟨last, detail, found, closed, ?_⟩, ?_, ?_, ?_⟩
  · intro calls
    rw [eventsRead_eq reads ending, events]
  · intro count within
    have more : count < (eventsOf items).length := by omega
    obtain ⟨unread, event, rest, before, ⟨passed, item, rfl, quiet, isEvent⟩, next, after⟩ :=
      calls_read reads ending more
    refine ⟨passed, item, rest, event, before, quiet, isEvent, next, ?_⟩
    simp only [after, isClosed_iff isEvent]
  · intro calls
    rw [answers_eq reads ending, length]
  · intro items' ops ops' retold same d d'
    have overhears : Overhears c { c with active := some ⟨session, some ⟨items', false⟩⟩ } := by
      obtain ⟨settings, log, active, ids⟩ := c
      obtain rfl : active = some ⟨session, some ⟨items, false⟩⟩ := reads
      exact .intro settings log ids (.reading session (retold_iff.mp retold))
    obtain ⟨log, sessions⟩ := (overhears.run same).indistinguishable
    refine ⟨log.symm, ?_, ?_, ?_⟩
    · rw [state?, state?, sessions]
    · rw [stats?, stats?, sessions]
    · rw [sink?, sink?, sessions]

/-- A stream with items of all kinds, and a shorter way to tell it. -/
theorem control_frames_are_invisible_of_burst :
    let items : List Incoming :=
      [.ping [1], .text "[1]", .binary [0], .pong [], .frame, .text "x",
        .close (some (1001, "bye")), .text "[2]", .finished]
    let items' : List Incoming := [.text "[1]", .text "x", .finished]
    let session := openedSession .defaults ⟨7⟩
    let c : Client := { plainClient with active := some ⟨session, some ⟨items, false⟩⟩ }
    let c' : Client := { plainClient with active := some ⟨session, some ⟨items', false⟩⟩ }
    c.eventsRead 5 = [.text "[1]", .text "x", .closed (some "1001 bye")] ∧
      c.answers 5 = [.handled, .handled, .handled, .idle, .idle] ∧
      (c.calls 5).log = (c'.calls 5).log ∧ (c.calls 5).stats? = (c'.calls 5).stats? := by
  intro items items' session c c'
  have ends : ∃ item ∈ items, item.kind = .ending := ⟨.finished, by decide, rfl⟩
  obtain ⟨⟨last, detail, found, closed, handled⟩, -, answered, alike⟩ :=
    control_frames_are_invisible (c := c) rfl ends
  have retold : Retold items items' := retold_iff.mpr (by decide +kernel)
  have same : List.Forall₂ SameOp (List.replicate 5 .processNext) (List.replicate 5 .processNext) :=
    List.forall₂_same.mpr fun op _ => .same op
  obtain ⟨log, -, stats, -⟩ := alike items' _ _ retold same
  refine ⟨?_, ?_, log.symm, stats.symm⟩
  · obtain rfl : Incoming.close (some (1001, "bye")) = last := Option.some.inj found
    obtain rfl : some "1001 bye" = detail := InboundEvent.closed.inj (Option.some.inj closed)
    exact handled 5
  · exact answered 5

end Client

end JobConsole
