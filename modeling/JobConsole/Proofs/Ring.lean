import Mathlib.Data.List.Forall2
import JobConsole.Proofs.Audience

/-!
# Rings of slots

A feed in a fixed number of slots. An item goes into the slot of its number, over the one that was
there before; nothing is put in while nobody observes, and then no number is used up.
-/

namespace JobConsole

structure Ring (α : Type) where
  size : Nat
  /-- The number of the next item. -/
  tail : Nat
  /-- The item in a slot, with its number. -/
  slot : Nat → Option (Nat × α)

namespace Ring

section
variable {α : Type}

def empty (size : Nat) : Ring α := ⟨size, 0, fun _ => none⟩

def put (r : Ring α) (item : α) : Ring α where
  size := r.size
  tail := r.tail + 1
  slot i := if i = r.tail % r.size then some (r.tail, item) else r.slot i

/-- What an observer takes that waits for a number, and the number that it waits for then. A slot with
the item of the round before awaits the next one. -/
def take (r : Ring α) (next : Nat) : Delivery α × Nat :=
  match r.slot (next % r.size) with
  | none => (.nothing, next)
  | some (number, item) =>
    if number = next then (.item item, next + 1)
    else if number + r.size = next then (.nothing, next)
    else (.missed (r.tail - r.size - next), r.tail - r.size)

/-- Every slot has the last of the items whose numbers it is for. -/
structure Sound (r : Ring α) : Prop where
  positive : 0 < r.size
  used : ∀ i n item, r.slot i = some (n, item) →
    n % r.size = i ∧ n < r.tail ∧ r.tail ≤ n + r.size
  unused : ∀ i, i < r.size → r.slot i = none → r.tail ≤ i

/-- Two numbers within one round that share a slot are the same. -/
theorem eq_of_mod_eq {m n size : Nat} (slot : m % size = n % size) (le : m ≤ n)
    (near : n < m + size) : m = n := by
  have rounds := Nat.div_add_mod m size
  have rounds' := Nat.div_add_mod n size
  obtain same | less := Nat.lt_or_ge (m / size) (n / size)
  · have more : size * (m / size + 1) ≤ size * (n / size) := Nat.mul_le_mul_left _ same
    rw [Nat.mul_add, Nat.mul_one] at more
    omega
  · have more : size * (n / size) ≤ size * (m / size) := Nat.mul_le_mul_left _ less
    omega

theorem empty_sound {size : Nat} (positive : 0 < size) : (empty size : Ring α).Sound := by
  refine ⟨positive, ?_, ?_⟩
  · intro i n item used
    cases used
  · intro i _ _
    exact Nat.zero_le i

theorem Sound.put {r : Ring α} (h : r.Sound) (item : α) : (r.put item).Sound := by
  have positive := h.positive
  refine ⟨positive, ?_, ?_⟩
  · intro i n found used
    change n % r.size = i ∧ n < r.tail + 1 ∧ r.tail + 1 ≤ n + r.size
    by_cases here : i = r.tail % r.size
    · simp only [Ring.put, here, if_true, Option.some.injEq, Prod.mk.injEq] at used
      obtain ⟨rfl, -⟩ := used
      exact ⟨here.symm, by omega, by omega⟩
    · simp only [Ring.put, here, if_false] at used
      obtain ⟨slot, earlier, near⟩ := h.used i n found used
      -- An item that is a whole round back would be in the slot that is written.
      have inside : r.tail ≠ n + r.size := by
        intro round
        apply here
        rw [round, Nat.add_mod_right, slot]
      exact ⟨slot, by omega, by omega⟩
  · intro i inside free
    by_cases here : i = r.tail % r.size
    · simp [Ring.put, here] at free
    · simp only [Ring.put, here, if_false] at free
      have before := h.unused i inside free
      have other : r.tail ≠ i := by
        rintro rfl
        exact here (Nat.mod_eq_of_lt inside).symm
      change r.tail + 1 ≤ i
      omega

section
variable {r : Ring α} {next : Nat}

theorem Sound.take_nothing (h : r.Sound) (last : next = r.tail) : r.take next = (.nothing, next) := by
  have positive := h.positive
  unfold take
  split
  · rfl
  · next number item used =>
    obtain ⟨slot, earlier, near⟩ := h.used _ _ _ used
    have round : next = number + r.size := by
      apply eq_of_mod_eq
      · rw [Nat.add_mod_right, slot]
      · omega
      · omega
    rw [if_neg (by omega), if_pos round.symm]

theorem take_item {item : α} (there : r.slot (next % r.size) = some (next, item)) :
    r.take next = (.item item, next + 1) := by
  simp [take, there]

theorem Sound.take_missed (h : r.Sound) (far : next + r.size < r.tail) :
    r.take next = (.missed (r.tail - r.size - next), r.tail - r.size) := by
  have positive := h.positive
  unfold take
  split
  · next free =>
    have before := h.unused _ (Nat.mod_lt next positive) free
    have := Nat.mod_le next r.size
    omega
  · next number item used =>
    obtain ⟨slot, earlier, near⟩ := h.used _ _ _ used
    rw [if_neg (by omega), if_neg (by omega)]

end

end

end Ring

/-! ## A log at a ring -/

/-- One who is served from a ring. -/
structure Guest where
  /-- The number it waits for. -/
  cursor : Nat
  /-- What it took, oldest first. -/
  found : List (Delivery Entry)
  present : Bool

/-- A log whose observers are served from a ring. -/
structure Stand where
  log : Log
  ring : Ring Entry
  guests : List Guest

namespace Stand

/-- A log that nobody observes, at a ring of as many slots as its feed keeps entries. -/
def ofLog (log : Log) : Stand := ⟨log, .empty log.feed.capacity, []⟩

def added (log : Log) (op : LogOp) : List Entry := (log.perform op).entries.drop log.length

def take (ring : Ring Entry) (g : Guest) : Guest :=
  if g.present then
    { g with cursor := (ring.take g.cursor).2, found := g.found ++ [(ring.take g.cursor).1] }
  else g

def leave (g : Guest) : Guest := { g with present := false }

def perform (s : Stand) : Audience.Event → Stand
  | .edit op =>
    { s with
      log := s.log.perform op
      ring := if s.guests.any Guest.present then (added s.log op).foldl Ring.put s.ring else s.ring }
  | .join => { s with guests := s.guests ++ [⟨s.ring.tail, [], true⟩] }
  | .look guest => { s with guests := s.guests.modify guest (take s.ring) }
  | .leave guest => { s with guests := s.guests.modify guest leave }

def run (s : Stand) (events : List Audience.Event) : Stand := events.foldl perform s

end Stand

/-- A viewer and a guest to whom the same has happened. As long as they are there, the guest waits for
the entry that the viewer waits for, and finds it and all behind it in the ring, unless too many came
behind it. `unheard` entries were never put into the ring. -/
structure Guest.Like (ring : Ring Entry) (entries : List Entry) (unheard : Nat) (v : Viewer)
    (g : Guest) : Prop where
  found : v.sightings.map (·.found) = g.found
  present : v.present = g.present
  due : v.present = true → v.observer.next = g.cursor + unheard
  filled : v.present = true → ∀ n, g.cursor ≤ n → n < ring.tail → ring.tail ≤ n + ring.size →
    ∃ entry, ring.slot (n % ring.size) = some (n, entry) ∧ entries[n + unheard]? = some entry

/-- An audience and a stand to which the same has happened. -/
structure Alike (a : Audience) (s : Stand) : Prop where
  log : a.log = s.log
  sound : s.ring.Sound
  size : s.ring.size = a.log.feed.capacity
  served : ∃ unheard, a.log.length = s.ring.tail + unheard ∧
    List.Forall₂ (Guest.Like s.ring a.log.entries unheard) a.viewers s.guests

section
variable {ring : Ring Entry} {entries : List Entry} {unheard : Nat} {v : Viewer} {g : Guest}

/-- Entries that are not put into the ring do not matter to those who left. -/
theorem Guest.Like.absent (h : g.Like ring entries unheard v) (gone : v.present = false)
    (ring' : Ring Entry) (entries' : List Entry) (unheard' : Nat) :
    g.Like ring' entries' unheard' v := by
  refine ⟨h.found, h.present, ?_, ?_⟩
  · intro there
    simp [gone] at there
  · intro there
    simp [gone] at there

theorem Guest.Like.put (h : g.Like ring entries unheard v) (sound : ring.Sound)
    (length : entries.length = ring.tail + unheard) (entry : Entry) :
    g.Like (ring.put entry) (entries ++ [entry]) unheard v := by
  have positive := sound.positive
  refine ⟨h.found, h.present, h.due, ?_⟩
  intro there n due earlier near
  change n < ring.tail + 1 at earlier
  change ring.tail + 1 ≤ n + ring.size at near
  change ∃ e, (if n % ring.size = ring.tail % ring.size then some (ring.tail, entry)
    else ring.slot (n % ring.size)) = some (n, e) ∧ _
  by_cases new : n = ring.tail
  · subst new
    refine ⟨entry, by simp, ?_⟩
    rw [← length]
    exact List.getElem?_concat_length
  · obtain ⟨e, slot, old⟩ := h.filled there n due (by omega) (by omega)
    have other : n % ring.size ≠ ring.tail % ring.size := by
      intro same
      exact new (Ring.eq_of_mod_eq same (by omega) (by omega))
    refine ⟨e, by rw [if_neg other, slot], ?_⟩
    rw [List.getElem?_append_left (by omega), old]

/-- A viewer and its guest come to the same delivery, and wait for the same entry then. -/
theorem Guest.Like.takes {capacity : Nat} {found : Delivery Entry × Observer}
    (h : g.Like ring entries unheard v) (there : v.present = true) (sound : ring.Sound)
    (size : ring.size = capacity) (length : entries.length = ring.tail + unheard)
    (finds : Observer.Finds capacity entries v.observer.next found) :
    ring.take g.cursor = (found.1, found.2.next - unheard) ∧
      found.2.next = found.2.next - unheard + unheard ∧ g.cursor ≤ found.2.next - unheard := by
  have due := h.due there
  cases finds with
  | nothing last =>
    have last : g.cursor = ring.tail := by omega
    rw [sound.take_nothing last]
    refine ⟨?_, by dsimp; omega, by dsimp; omega⟩
    rw [due, Nat.add_sub_cancel]
  | missed far =>
    have lost : ring.tail - ring.size - g.cursor =
        entries.length - capacity - v.observer.next := by
      omega
    have behind : ring.tail - ring.size = entries.length - capacity - unheard := by omega
    rw [sound.take_missed (by omega), lost, behind]
    exact ⟨rfl, by dsimp; omega, by dsimp; omega⟩
  | item value there' near =>
    have inside : v.observer.next < entries.length := (List.getElem?_eq_some_iff.mp there').1
    obtain ⟨e, slot, entry⟩ := h.filled there g.cursor (Nat.le_refl _) (by omega) (by omega)
    have named : e = value := by
      rw [← due, there'] at entry
      exact (Option.some.inj entry).symm
    have next : g.cursor + 1 = v.observer.next + 1 - unheard := by omega
    rw [Ring.take_item slot, named, next]
    exact ⟨rfl, by dsimp; omega, by dsimp; omega⟩

/-- A viewer and a guest find the same. -/
theorem Guest.Like.look {log : Log} (h : g.Like ring log.entries unheard v) (sound : ring.Sound)
    (carried : log.Carried) (size : ring.size = log.feed.capacity)
    (length : log.length = ring.tail + unheard) (follows : v.observer.next ≤ log.entries.length) :
    (Stand.take ring g).Like ring log.entries unheard (v.look log) := by
  unfold Viewer.look Stand.take
  rw [h.present]
  split
  · next there =>
    rw [← h.present] at there
    have finds := Observer.receive_finds log.feed.capacity follows
    rw [← carried] at finds
    generalize receives : v.observer.receive log.feed = found at finds
    obtain ⟨takes, next, later⟩ := h.takes there sound size length finds
    refine ⟨?_, h.present, ?_, ?_⟩
    · simp [Viewer.see, takes, h.found]
    · intro _
      rw [takes]
      exact next
    · intro _ n due earlier near
      rw [takes] at due
      exact h.filled there n (Nat.le_trans later due) earlier near
  · exact h

end

section
variable {α β : Type} {R : α → β → Prop} {xs : List α} {ys : List β}

theorem forall₂_modify {f : α → α} {g : β → β} (h : List.Forall₂ R xs ys)
    (keeps : ∀ x ∈ xs, ∀ y, R x y → R (f x) (g y)) (i : Nat) :
    List.Forall₂ R (xs.modify i f) (ys.modify i g) := by
  induction h generalizing i with
  | nil => simp
  | cons first others ih =>
    obtain ⟨here, later⟩ := List.forall_mem_cons.mp keeps
    cases i with
    | zero => exact .cons (here _ first) others
    | succ i => exact .cons first (ih later i)

theorem forall₂_any {f : α → Bool} {g : β → Bool} (h : List.Forall₂ R xs ys)
    (same : ∀ x y, R x y → f x = g y) : xs.any f = ys.any g := by
  induction h with
  | nil => rfl
  | cons first others ih => rw [List.any_cons, List.any_cons, ih, same _ _ first]

end

section
variable {a : Audience} {s : Stand} {capacity : Nat}

theorem Alike.edit (h : Alike a s) (op : LogOp) :
    Alike (a.perform (.edit op)) (s.perform (.edit op)) := by
  obtain ⟨log, sound, size, unheard, length, served⟩ := h
  have watched : a.viewers.any Viewer.present = s.guests.any Guest.present :=
    forall₂_any served fun v g like => like.present
  have change := a.log.perform_change op
  have added : Stand.added s.log op = (a.log.perform op).entries.drop a.log.length := by
    rw [Stand.added, log]
  have logs : (a.perform (.edit op)).log = (s.perform (.edit op)).log := by
    simp only [Audience.perform, Stand.perform, log]
  simp only [Audience.perform, Stand.perform, added] at logs ⊢
  generalize a.log.perform op = after at change logs ⊢
  cases change with
  | keeps entries feed =>
    have none : after.entries.drop a.log.length = [] := by
      rw [entries]
      exact List.drop_length
    simp only [none, List.foldl_nil, ite_self]
    refine ⟨logs, sound, by rw [feed]; exact size, unheard, ?_, ?_⟩
    · simpa only [Log.length, entries] using length
    · simpa only [entries] using served
  | adds entry entries feed =>
    have one : after.entries.drop a.log.length = [entry] := by
      rw [entries]
      exact List.drop_left
    have kept : after.feed.capacity = a.log.feed.capacity := by
      rw [feed]
      rfl
    have longer : after.length = a.log.length + 1 := by
      simp [Log.length, entries]
    simp only [one, List.foldl_cons, List.foldl_nil]
    by_cases someone : s.guests.any Guest.present = true
    · simp only [someone, if_true]
      refine ⟨logs, sound.put entry, size.trans kept.symm, unheard, ?_, ?_⟩
      · change after.length = s.ring.tail + 1 + unheard
        omega
      · rw [entries]
        exact served.imp fun v g like => like.put sound length entry
    · simp only [someone, Bool.false_eq_true, if_false]
      have length' : after.length = s.ring.tail + (unheard + 1) := by omega
      refine ⟨logs, sound, size.trans kept.symm, unheard + 1, length', ?_⟩
      have gone : ∀ v ∈ a.viewers, v.present = false := by
        rw [← watched] at someone
        simpa using someone
      rw [entries]
      exact List.forall₂_iff_get.mpr ⟨served.length_eq, fun i inside inside' =>
        (served.get inside inside').absent (gone _ (List.get_mem _ _)) _ _ _⟩

/-- The same goes on happening. -/
theorem Alike.perform (h : Alike a s) (attends : a.Attends capacity) (e : Audience.Event) :
    Alike (a.perform e) (s.perform e) := by
  cases e with
  | edit op => exact h.edit op
  | join =>
    obtain ⟨log, sound, size, unheard, length, served⟩ := h
    have sent : a.log.feed.sent = a.log.length := by
      rw [attends.carried]
      rfl
    refine ⟨log, sound, size, unheard, length, ?_⟩
    apply List.rel_append served
    refine .cons ⟨rfl, rfl, ?_, ?_⟩ .nil
    · intro _
      exact sent.trans length
    · intro _ n due earlier
      exact absurd earlier (Nat.not_lt_of_le due)
  | look i =>
    obtain ⟨log, sound, size, unheard, length, served⟩ := h
    refine ⟨log, sound, size, unheard, length, ?_⟩
    apply forall₂_modify served
    intro v viewer g like
    exact like.look sound attends.carried size length (attends.follows v viewer).within
  | leave i =>
    obtain ⟨log, sound, size, unheard, length, served⟩ := h
    refine ⟨log, sound, size, unheard, length, ?_⟩
    apply forall₂_modify served
    intro v _ g like
    refine ⟨like.found, rfl, ?_, ?_⟩
    · intro there
      cases there
    · intro there
      cases there

/-- The viewers of an audience are delivered what they would be from a ring. -/
theorem alike_run (h : Alike a s) (attends : a.Attends capacity) (events : List Audience.Event) :
    Alike (a.run events) (s.run events) := by
  induction events generalizing a s with
  | nil => exact h
  | cons e events ih => exact ih (h.perform attends e) (attends.perform e)

end

end JobConsole
