import JobConsole.Proofs.LogRun

/-!
# Audiences

A log among those who observe it. Entries are added, observers come and go and look at what there is
for them, in any order:

* `Audience`, `Audience.Event`, `Audience.run`: a log with its viewers, and what can happen;
* `Viewer.Follows`: a viewer saw entries of the log in their order, and all that it did not see was
  counted, and lost to it because it was too far behind;
* `Attends.run`: every viewer of an audience follows its log.
-/

namespace JobConsole

/-! ## What happens -/

structure Sighting where
  /-- The number of the entry that it waited for. -/
  due : Nat
  /-- How many entries there were. -/
  length : Nat
  found : Delivery Entry
  deriving DecidableEq, Repr

structure Viewer where
  /-- How many entries there were when it began to observe. -/
  since : Nat
  observer : Observer
  /-- What it found, oldest first. -/
  sightings : List Sighting
  present : Bool
  deriving DecidableEq, Repr

def Delivery.item? {α : Type} : Delivery α → Option α
  | .item value => some value
  | .missed _ | .nothing => none

/-- How many items are told to be lost. -/
def Delivery.lost {α : Type} : Delivery α → Nat
  | .missed count => count
  | .item _ | .nothing => 0

def Sighting.number? (s : Sighting) : Option Nat := s.found.item?.map fun _ => s.due

namespace Viewer

def received (v : Viewer) : List Entry := v.sightings.filterMap (·.found.item?)

def numbers (v : Viewer) : List Nat := v.sightings.filterMap Sighting.number?

def missed (v : Viewer) : Nat := v.sightings.foldl (fun count s => count + s.found.lost) 0

/-- A viewer of the entries that are added from now on. -/
def join (log : Log) : Viewer := ⟨log.length, log.observe, [], true⟩

/-- The viewer finds something when there are so many entries. -/
def see (v : Viewer) (length : Nat) (found : Delivery Entry × Observer) : Viewer :=
  { v with
    observer := found.2
    sightings := v.sightings ++ [⟨v.observer.next, length, found.1⟩] }

def look (log : Log) (v : Viewer) : Viewer :=
  if v.present then v.see log.length (v.observer.receive log.feed) else v

def leave (v : Viewer) : Viewer := { v with present := false }

section
variable (v : Viewer) (length : Nat) (found : Delivery Entry × Observer)

@[simp] theorem see_since : (v.see length found).since = v.since := rfl

@[simp] theorem see_observer : (v.see length found).observer = found.2 := rfl

@[simp] theorem see_numbers :
    (v.see length found).numbers =
      v.numbers ++ (found.1.item?.map fun _ => v.observer.next).toList := by
  obtain ⟨found, observer⟩ := found
  cases found <;> simp [numbers, see, Sighting.number?, Delivery.item?]

@[simp] theorem see_received :
    (v.see length found).received = v.received ++ found.1.item?.toList := by
  obtain ⟨found, observer⟩ := found
  cases found <;> simp [received, see, Delivery.item?]

@[simp] theorem see_missed : (v.see length found).missed = v.missed + found.1.lost := by
  simp [missed, see]

end

end Viewer

structure Audience where
  log : Log
  viewers : List Viewer

namespace Audience

inductive Event
  | edit (op : LogOp)
  | join
  | look (viewer : Nat)
  | leave (viewer : Nat)
  deriving DecidableEq, Repr

/-- What an event does to the log. -/
def Event.edit? : Event → Option LogOp
  | .edit op => some op
  | .join | .look _ | .leave _ => none

/-- A log that nobody observes. -/
def ofLog (log : Log) : Audience := ⟨log, []⟩

def perform (a : Audience) : Event → Audience
  | .edit op => { a with log := a.log.perform op }
  | .join => { a with viewers := a.viewers ++ [.join a.log] }
  | .look viewer => { a with viewers := a.viewers.modify viewer (Viewer.look a.log) }
  | .leave viewer => { a with viewers := a.viewers.modify viewer Viewer.leave }

def run (a : Audience) (events : List Event) : Audience := events.foldl perform a

@[simp] theorem run_nil (a : Audience) : a.run [] = a := rfl

@[simp] theorem run_cons (a : Audience) (e : Event) (events : List Event) :
    a.run (e :: events) = (a.perform e).run events := rfl

/-- What becomes of the log does not depend on its viewers. -/
theorem run_log (a : Audience) (events : List Event) :
    (a.run events).log = a.log.run (events.filterMap Event.edit?) := by
  induction events generalizing a with
  | nil => rfl
  | cons e events ih =>
    rw [run_cons, ih]
    cases e <;> rfl

end Audience

/-! ## What viewers saw -/

/-- A viewer saw entries in their order, and of those that it has passed each was seen or counted as
missed. What it did not see was lost to it when it looked, behind as many later entries as are kept;
if it was never so far behind, it saw all that it has passed. -/
structure Viewer.Follows (capacity : Nat) (entries : List Entry) (v : Viewer) : Prop where
  begun : v.since ≤ v.observer.next
  within : v.observer.next ≤ entries.length
  ascending : v.numbers.Pairwise (· < ·)
  passed : ∀ n ∈ v.numbers, v.since ≤ n ∧ n < v.observer.next
  seen : v.numbers.map (entries[·]?) = v.received.map some
  counted : v.since + (v.received.length + v.missed) = v.observer.next
  overrun : ∀ n, v.since ≤ n → n < v.observer.next → n ∉ v.numbers →
    ∃ s ∈ v.sightings, s.due ≤ n ∧ n + 1 + capacity ≤ s.length ∧ s.length ≤ entries.length
  complete : (∀ s ∈ v.sightings, s.length ≤ s.due + capacity) →
    v.received = (entries.take v.observer.next).drop v.since

namespace Viewer

section
variable {capacity : Nat} {entries : List Entry} {v : Viewer}

theorem join_follows (log : Log) (capacity : Nat) (entries : List Entry)
    (length : log.length = entries.length) (sent : log.feed.sent = entries.length) :
    (join log).Follows capacity entries := by
  constructor
  case begun => simp [join, Log.observe, Feed.observe, length, sent]
  case within => simp [join, Log.observe, Feed.observe, sent]
  case ascending => exact .nil
  case passed => intro n none; cases none
  case seen => rfl
  case counted =>
    simp [join, Log.observe, Feed.observe, length, sent, received, missed]
  case overrun =>
    intro n since next
    simp only [join, Log.observe, Feed.observe, length, sent] at since next
    omega
  case complete =>
    intro _
    simp [join, Log.observe, Feed.observe, length, sent, received]

/-- More entries behind those that there were change nothing for what was seen. -/
theorem Follows.grow (h : v.Follows capacity entries) (more : List Entry) :
    v.Follows capacity (entries ++ more) := by
  have within := h.within
  refine ⟨h.begun, ?_, h.ascending, h.passed, ?_, h.counted, ?_, ?_⟩
  · rw [List.length_append]
    omega
  · rw [← h.seen]
    apply List.map_congr_left
    intro n seen
    have := h.passed n seen
    exact List.getElem?_append_left (by omega)
  · intro n since next unseen
    obtain ⟨s, sighting, due, later, length⟩ := h.overrun n since next unseen
    exact ⟨s, sighting, due, later, by rw [List.length_append]; omega⟩
  · intro near
    rw [h.complete near, List.take_append_of_le_length within]

/-- What was lost before is still told by the sighting that told it. -/
theorem Follows.overrun_see (h : v.Follows capacity entries) (found : Delivery Entry × Observer)
    (n : Nat) (since : v.since ≤ n) (next : n < v.observer.next) (unseen : n ∉ v.numbers) :
    ∃ s ∈ (v.see entries.length found).sightings,
      s.due ≤ n ∧ n + 1 + capacity ≤ s.length ∧ s.length ≤ entries.length := by
  obtain ⟨s, sighting, later⟩ := h.overrun n since next unseen
  exact ⟨s, List.mem_append_left _ sighting, later⟩

theorem Follows.complete_see (h : v.Follows capacity entries) (found : Delivery Entry × Observer)
    (near : ∀ s ∈ (v.see entries.length found).sightings, s.length ≤ s.due + capacity) :
    v.received = (entries.take v.observer.next).drop v.since :=
  h.complete fun s sighting => near s (List.mem_append_left _ sighting)

/-- A viewer for which there is nothing stays where it is. -/
theorem Follows.see_nothing (h : v.Follows capacity entries) :
    (v.see entries.length (.nothing, v.observer)).Follows capacity entries := by
  constructor
  case begun => exact h.begun
  case within => exact h.within
  case ascending => simpa [Delivery.item?] using h.ascending
  case passed => simpa [Delivery.item?] using h.passed
  case seen => simpa [Delivery.item?] using h.seen
  case counted => simpa [Delivery.item?, Delivery.lost] using h.counted
  case overrun =>
    intro n since next unseen
    exact h.overrun_see _ n since next (by simpa [Delivery.item?] using unseen)
  case complete =>
    intro near
    simpa [Delivery.item?] using h.complete_see _ near

/-- A viewer that is too far behind goes on at the oldest entry that is kept. -/
theorem Follows.see_overrun (h : v.Follows capacity entries)
    (far : v.observer.next + capacity < entries.length) :
    (v.see entries.length (.missed (entries.length - capacity - v.observer.next),
      ⟨entries.length - capacity⟩)).Follows capacity entries := by
  have begun := h.begun
  have counted := h.counted
  constructor
  case begun =>
    change v.since ≤ entries.length - capacity
    omega
  case within => exact Nat.sub_le _ _
  case ascending => simpa [Delivery.item?] using h.ascending
  case passed =>
    intro n seen
    have := h.passed n (by simpa [Delivery.item?] using seen)
    change v.since ≤ n ∧ n < entries.length - capacity
    omega
  case seen => simpa [Delivery.item?] using h.seen
  case counted =>
    rw [see_received, see_missed]
    change v.since + ((v.received ++ []).length +
      (v.missed + (entries.length - capacity - v.observer.next))) = entries.length - capacity
    rw [List.append_nil]
    omega
  case overrun =>
    intro n since next unseen
    by_cases earlier : n < v.observer.next
    · exact h.overrun_see _ n since earlier (by simpa [Delivery.item?] using unseen)
    · have lost : n < entries.length - capacity := next
      refine ⟨_, List.mem_append_right _ (List.mem_singleton_self _), ?_, ?_, Nat.le_refl _⟩
      · exact Nat.le_of_not_lt earlier
      · change n + 1 + capacity ≤ entries.length
        omega
  case complete =>
    intro near
    have close : entries.length ≤ v.observer.next + capacity :=
      near _ (List.mem_append_right _ (List.mem_singleton_self _))
    omega

/-- A viewer that finds the entry that it waits for goes on behind it. -/
theorem Follows.see_item {value : Entry} (h : v.Follows capacity entries)
    (there : entries[v.observer.next]? = some value) :
    (v.see entries.length (.item value, ⟨v.observer.next + 1⟩)).Follows capacity entries := by
  have begun := h.begun
  have counted := h.counted
  have inside : v.observer.next < entries.length := (List.getElem?_eq_some_iff.mp there).1
  constructor
  case begun => exact Nat.le_succ_of_le begun
  case within => exact inside
  case ascending =>
    rw [see_numbers, List.pairwise_append]
    refine ⟨h.ascending, List.pairwise_singleton _ _, ?_⟩
    intro n seen m last
    rw [List.mem_singleton.mp last]
    exact (h.passed n seen).2
  case passed =>
    rw [see_numbers]
    intro n seen
    change v.since ≤ n ∧ n < v.observer.next + 1
    obtain earlier | last := List.mem_append.mp seen
    · have := h.passed n earlier
      omega
    · have : n = v.observer.next := List.mem_singleton.mp last
      omega
  case seen =>
    rw [see_numbers, see_received, List.map_append, List.map_append, h.seen]
    simp [Delivery.item?, there]
  case counted =>
    rw [see_received, see_missed, List.length_append]
    change v.since + (v.received.length + 1 + v.missed) = v.observer.next + 1
    omega
  case overrun =>
    intro n since next unseen
    rw [see_numbers, List.mem_append, not_or] at unseen
    obtain ⟨unseen, other⟩ := unseen
    have other : n ≠ v.observer.next := fun same => other (List.mem_singleton.mpr same)
    have next : n < v.observer.next + 1 := next
    exact h.overrun_see _ n since (by omega) unseen
  case complete =>
    intro near
    have last : (entries.take v.observer.next).length = v.observer.next := by
      rw [List.length_take]
      omega
    have taken : entries.take (v.observer.next + 1) =
        entries.take v.observer.next ++ [value] := by
      rw [List.take_add_one, there, Option.toList_some]
    change _ = (entries.take (v.observer.next + 1)).drop v.since
    rw [see_received, h.complete_see _ near, taken, List.drop_append_of_le_length (by omega)]
    rfl

/-- A viewer that looks and finds what there is for it. -/
theorem Follows.see {found : Delivery Entry × Observer} (h : v.Follows capacity entries)
    (finds : Observer.Finds capacity entries v.observer.next found) :
    (v.see entries.length found).Follows capacity entries := by
  cases finds with
  | nothing last => exact h.see_nothing
  | missed far => exact h.see_overrun far
  | item value there near => exact h.see_item there

end

end Viewer

namespace Audience

/-- Every viewer follows the log, whose feed carries its entries. -/
structure Attends (capacity : Nat) (a : Audience) : Prop where
  carried : a.log.Carried
  kept : a.log.feed.capacity = capacity
  follows : ∀ v ∈ a.viewers, v.Follows capacity a.log.entries

section
variable {capacity : Nat} {a : Audience}

theorem ofLog_attends {log : Log} (carried : log.Carried) :
    (ofLog log).Attends log.feed.capacity :=
  ⟨carried, rfl, by simp [ofLog]⟩

theorem forall_mem_modify {α : Type} {P : α → Prop} {f : α → α} (keeps : ∀ x, P x → P (f x))
    {xs : List α} (all : ∀ x ∈ xs, P x) (i : Nat) : ∀ x ∈ xs.modify i f, P x := by
  induction xs generalizing i with
  | nil => simp
  | cons x xs ih =>
    obtain ⟨first, others⟩ := List.forall_mem_cons.mp all
    cases i with
    | zero => exact List.forall_mem_cons.mpr ⟨keeps x first, others⟩
    | succ i => exact List.forall_mem_cons.mpr ⟨first, ih others i⟩

theorem Attends.perform (h : a.Attends capacity) (e : Event) : (a.perform e).Attends capacity := by
  obtain ⟨carried, kept, follows⟩ := h
  have feed : a.log.feed = Feed.holding capacity a.log.entries := by rw [← kept]; exact carried
  cases e with
  | edit op =>
    have change := a.log.perform_change op
    obtain ⟨carried', kept'⟩ := change.carried carried
    refine ⟨carried', kept'.trans kept, ?_⟩
    intro v viewer
    have before := follows v viewer
    generalize after : a.log.perform op = log at change
    simp only [Audience.perform, after]
    cases change with
    | adds entry entries => exact entries ▸ before.grow [entry]
    | keeps entries => exact entries ▸ before
  | join =>
    refine ⟨carried, kept, ?_⟩
    intro v viewer
    obtain earlier | last := List.mem_append.mp viewer
    · exact follows v earlier
    · rw [List.mem_singleton.mp last]
      exact Viewer.join_follows a.log capacity a.log.entries rfl (by rw [feed]; rfl)
  | look i =>
    refine ⟨carried, kept, ?_⟩
    apply forall_mem_modify _ follows
    intro v before
    unfold Viewer.look
    split
    · have finds := Observer.receive_finds capacity before.within
      rw [← feed] at finds
      exact before.see finds
    · exact before
  | leave i =>
    refine ⟨carried, kept, ?_⟩
    apply forall_mem_modify _ follows
    intro v before
    exact ⟨before.begun, before.within, before.ascending, before.passed, before.seen,
      before.counted, before.overrun, before.complete⟩

theorem Attends.run (h : a.Attends capacity) (events : List Event) :
    (a.run events).Attends capacity := by
  induction events generalizing a with
  | nil => exact h
  | cons e events ih => exact ih (h.perform e)

end

end Audience

end JobConsole
