import JobConsole.Proofs.Ring
import JobConsole.Proofs.Settings.Startup

namespace JobConsole

/-- A log keeps for its observers the least power of two of entries that is not below the capacity that
was asked for, and one at least. -/
theorem Log.ofCapacity_slots {capacity : Nat} {log : Log} (h : Log.ofCapacity capacity = .ok log) :
    (∃ k ≤ 63, log.feed.capacity = Nat.pow 2 k) ∧ max capacity 1 ≤ log.feed.capacity ∧
      ∀ k, max capacity 1 ≤ Nat.pow 2 k → log.feed.capacity ≤ Nat.pow 2 k := by
  have granted : log.feed.capacity = Feed.grant (max capacity 1) :=
    congrArg (·.feed.capacity) (Log.ofCapacity_ok h)
  rw [granted]
  refine ⟨?_, Feed.le_grant _, fun _ fits => Feed.grant_le_iff.mpr fits⟩
  rw [Log.ofCapacity_eq] at h
  split at h
  · cases h
  split at h
  · cases h
  · next small =>
    have room : Feed.grant (max capacity 1) ≤ Nat.pow 2 56 := by
      rw [Feed.grant_le_iff]
      have limit : Log.maxCapacity = Nat.pow 2 56 := by decide
      have most : 1 ≤ Nat.pow 2 56 := by decide
      omega
    obtain ⟨k, power⟩ := Feed.grant_eq_two_pow (max capacity 1)
    have : k ≤ 56 := (Nat.pow_le_pow_iff_right (by decide)).mp (power ▸ room)
    exact ⟨k, by omega, power⟩

/-- **Observers see the log.** A log keeps for its observers the least power of two of entries that is
not below the capacity that was asked for, and one at least. What becomes of it does not depend on
who observes it, and what the observers are delivered is what they would be from a ring of so many
slots. Whatever happens in whatever order, an observer receives entries from those that were added
since it began, as they are in the log, each once and in their order. Those that it received, those
that it was told to have missed and those that it has not come to are all of them. An entry that it
has passed and did not receive was passed when as many later entries as are kept had been added, so
if it never looked when it was farther behind, it received every entry up to where it is. What it
finds next is told by its place in the same way. -/
theorem observers_follow_log {capacity : Nat} {log : Log} (h : Log.ofCapacity capacity = .ok log)
    (events : List Audience.Event) :
    let slots := log.feed.capacity
    let a := (Audience.ofLog log).run events
    ((∃ k ≤ 63, slots = Nat.pow 2 k) ∧ max capacity 1 ≤ slots ∧
      ∀ k, max capacity 1 ≤ Nat.pow 2 k → slots ≤ Nat.pow 2 k) ∧
    a.log = log.run (events.filterMap Audience.Event.edit?) ∧
    a.viewers.map (fun v => v.sightings.map (·.found)) =
      ((Stand.ofLog log).run events).guests.map Guest.found ∧
    ∀ v ∈ a.viewers,
      v.since ≤ v.observer.next ∧ v.observer.next ≤ a.log.length ∧
      v.numbers.Pairwise (· < ·) ∧ (∀ n ∈ v.numbers, v.since ≤ n ∧ n < v.observer.next) ∧
      v.numbers.map (a.log.entries[·]?) = v.received.map some ∧
      v.received.length + v.missed + (a.log.length - v.observer.next) = a.log.length - v.since ∧
      (∀ n, v.since ≤ n → n < v.observer.next → n ∉ v.numbers →
        ∃ s ∈ v.sightings, s.due ≤ n ∧ n + 1 + slots ≤ s.length ∧ s.length ≤ a.log.length) ∧
      ((∀ s ∈ v.sightings, s.length ≤ s.due + slots) →
        v.received = (a.log.entries.take v.observer.next).drop v.since) ∧
      Observer.Finds slots a.log.entries v.observer.next (v.observer.receive a.log.feed) := by
  intro slots a
  have made := Log.ofCapacity_ok h
  have carried : log.Carried := by
    rw [made]
    rfl
  have attends := (Audience.ofLog_attends carried).run events
  have sized := Log.ofCapacity_slots h
  have positive : 0 < slots := by
    have := sized.2.1
    omega
  have begins : Alike (Audience.ofLog log) (Stand.ofLog log) := by
    refine ⟨rfl, Ring.empty_sound positive, rfl, 0, ?_, .nil⟩
    rw [made]
    rfl
  refine ⟨sized, Audience.run_log _ events, ?_, ?_⟩
  · obtain ⟨-, -, -, unheard, -, served⟩ := alike_run begins (Audience.ofLog_attends carried) events
    have found := served.imp fun v g like => like.found
    exact List.forall₂_eq_eq_eq ▸ List.forall₂_map_left_iff.mpr
      (List.forall₂_map_right_iff.mpr found)
  · intro v viewer
    have follows := attends.follows v viewer
    have begun := follows.begun
    have within : v.observer.next ≤ a.log.length := follows.within
    have counted := follows.counted
    have finds := Observer.receive_finds log.feed.capacity follows.within
    have feed : a.log.feed = Feed.holding log.feed.capacity a.log.entries :=
      attends.carried.trans (by rw [attends.kept])
    rw [← feed] at finds
    exact ⟨begun, within, follows.ascending, follows.passed, follows.seen, by omega,
      follows.overrun, follows.complete, finds⟩

/-- A log that keeps four entries: of two observers, one is too far behind when it first looks. -/
theorem observers_follow_log_of_overrun :
    let log : Log := { Log.empty with feed := ⟨4, 0, []⟩ }
    let lines (ns : List Nat) : List Audience.Event :=
      ns.map fun n => .edit (.appendLine (toString n))
    let events := lines [0] ++ [.join] ++ lines [1, 2, 3, 4, 5, 6] ++ [.look 0, .look 0, .join] ++
      lines [7] ++ [.look 1, .look 1, .leave 1]
    let a := (Audience.ofLog log).run events
    Log.ofCapacity 3 = .ok log ∧
      a.viewers.map (fun v => (v.since, v.numbers, v.missed, v.observer.next)) =
        [(1, [3], 2, 4), (7, [7], 0, 8)] ∧
      ∀ v ∈ a.viewers,
        v.received.length + v.missed + (a.log.length - v.observer.next) = a.log.length - v.since := by
  intro log lines events a
  have made : Log.ofCapacity 3 = .ok log := rfl
  refine ⟨made, by decide +kernel, ?_⟩
  intro v viewer
  obtain ⟨-, -, -, viewers⟩ := observers_follow_log made events
  obtain ⟨-, -, -, -, -, counted, -⟩ := viewers v viewer
  exact counted

end JobConsole
