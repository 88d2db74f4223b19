import JobConsole.Proofs.LogFragments

namespace JobConsole

/-! ## Feeds -/

namespace Feed

section
variable {α : Type}

/-- A feed of some capacity behind the sending of some items, oldest first. -/
def holding (capacity : Nat) (items : List α) : Feed α :=
  ⟨capacity, items.length, items.drop (items.length - capacity)⟩

theorem send_holding (capacity : Nat) (items : List α) (item : α) :
    (holding capacity items).send item = holding capacity (items ++ [item]) := by
  have split : items.drop (items.length - capacity) ++ [item] =
      (items ++ [item]).drop (items.length - capacity) := by
    rw [List.drop_append_of_le_length (by omega)]
  have kept : items.length - capacity + (items.length + 1 - (items.length - capacity) - capacity) =
      items.length + 1 - capacity := by
    omega
  simp only [send, holding, split, List.drop_drop, List.length_drop, List.length_append,
    List.length_singleton, kept]

theorem oldest_holding (capacity : Nat) (items : List α) :
    (holding capacity items).oldest = items.length - capacity := by
  simp only [oldest, holding, List.length_drop]
  omega

end

end Feed

/-- All that an observer can find on a feed of some capacity on which some items were sent: the item
that it waits for, that some are lost to it because more came behind them than are kept, or nothing. -/
inductive Observer.Finds {α : Type} (capacity : Nat) (items : List α) (next : Nat) :
    Delivery α × Observer → Prop
  | item (value : α) (there : items[next]? = some value) (near : items.length ≤ next + capacity) :
      Finds capacity items next (.item value, ⟨next + 1⟩)
  | missed (far : next + capacity < items.length) :
      Finds capacity items next
        (.missed (items.length - capacity - next), ⟨items.length - capacity⟩)
  | nothing (last : next = items.length) : Finds capacity items next (.nothing, ⟨next⟩)

theorem Observer.receive_finds {α : Type} (capacity : Nat) {items : List α} {next : Nat}
    (within : next ≤ items.length) :
    Finds capacity items next (receive ⟨next⟩ (Feed.holding capacity items)) := by
  unfold receive
  rw [Feed.oldest_holding]
  by_cases far : next < items.length - capacity
  · rw [if_pos far]
    exact .missed (by omega)
  · rw [if_neg far]
    have place : items.length - capacity + (next - (items.length - capacity)) = next := by omega
    have there : (Feed.holding capacity items).kept[next - (items.length - capacity)]? =
        items[next]? := by
      rw [Feed.holding, List.getElem?_drop, place]
    simp only [there]
    split
    · next value found => exact .item value found (by omega)
    · next none =>
      have : items.length ≤ next := List.getElem?_eq_none_iff.mp none
      exact .nothing (by omega)

/-! ## Logs -/

inductive LogOp
  | append (html : String)
  | appendLine (line : String)
  | scrollTo (position : Nat)
  | setInput (input : String)
  | clearInput
  | setClock (clock : Timestamp)
  deriving DecidableEq, Repr

namespace Log

def perform (log : Log) : LogOp → Log
  | .append html => log.append html
  | .appendLine line => log.appendLine line
  | .scrollTo position => log.scrollTo position
  | .setInput input => log.setInput input
  | .clearInput => log.clearInput
  | .setClock clock => log.setClock clock

def run (log : Log) (ops : List LogOp) : Log := ops.foldl perform log

@[simp] theorem run_nil (log : Log) : log.run [] = log := rfl

@[simp] theorem run_cons (log : Log) (op : LogOp) (ops : List LogOp) :
    log.run (op :: ops) = (log.perform op).run ops := rfl

/-- The feed of a log was sent its entries, and nothing else. -/
def Carried (log : Log) : Prop := log.feed = Feed.holding log.feed.capacity log.entries

/-- All that an operation can do to the entries of a log and to its feed. -/
inductive Change (log : Log) : Log → Prop
  | adds {after : Log} (entry : Entry) (entries : after.entries = log.entries ++ [entry])
      (feed : after.feed = log.feed.send entry) : Change log after
  | keeps {after : Log} (entries : after.entries = log.entries) (feed : after.feed = log.feed) :
      Change log after

theorem perform_change (log : Log) (op : LogOp) : Change log (log.perform op) := by
  cases op with
  | append html => exact .adds ⟨html, log.clock⟩ rfl rfl
  | appendLine line => exact .adds ⟨line ++ lineBreak, log.clock⟩ rfl rfl
  | scrollTo | setInput | clearInput | setClock => exact .keeps rfl rfl

section
variable {log after : Log}

theorem Change.carried (change : Change log after) (h : log.Carried) :
    after.Carried ∧ after.feed.capacity = log.feed.capacity := by
  unfold Carried at h ⊢
  cases change with
  | adds entry entries feed =>
    have capacity : after.feed.capacity = log.feed.capacity := by rw [feed]; rfl
    refine ⟨?_, capacity⟩
    rw [capacity, entries, feed, ← Feed.send_holding, ← h]
  | keeps entries feed => rw [entries, feed]; exact ⟨h, rfl⟩

/-- A log that was just made is empty, and keeps what it was granted. -/
theorem ofCapacity_ok {capacity : Nat} (h : ofCapacity capacity = .ok log) :
    log = { empty with feed := Feed.holding (Feed.grant (max capacity 1)) [] } := by
  unfold ofCapacity Feed.ofCapacity at h
  split at h
  · cases h
  split at h
  · cases h
  split at h
  · cases h
  · rw [← Except.ok.inj h]
    simp [Feed.holding, empty]

end

end Log

end JobConsole
