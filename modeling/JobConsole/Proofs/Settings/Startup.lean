import JobConsole.Client
import JobConsole.Proofs.Settings.Endpoint

namespace JobConsole

/-! ## Feeds -/

namespace Feed

theorem le_grant (n : Nat) : n ≤ grant n := by
  unfold grant
  split
  · assumption
  · have next := Nat.lt_log2_self (n := n - 1)
    change n ≤ 2 ^ ((n - 1).log2 + 1)
    omega

theorem grant_eq_two_pow (n : Nat) : ∃ k, grant n = Nat.pow 2 k := by
  unfold grant
  split
  · exact ⟨0, rfl⟩
  · exact ⟨_, rfl⟩

theorem grant_le_iff {n k : Nat} : grant n ≤ Nat.pow 2 k ↔ n ≤ Nat.pow 2 k := by
  constructor
  · intro h
    exact Nat.le_trans (le_grant n) h
  · intro h
    unfold grant
    split
    · exact Nat.one_le_two_pow
    · have under : n - 1 < Nat.pow 2 k := by omega
      have below : (n - 1).log2 < k := (Nat.log2_lt (by omega)).mpr under
      exact Nat.pow_le_pow_right (by decide) below

end Feed

/-! ## Logs -/

namespace Log

/-- The most entries that there can be room for. -/
def maxCapacity : Nat := 0x100000000000000

theorem room_iff (n : Nat) : Feed.grant n * entrySize ≤ maxOctets ↔ n ≤ maxCapacity := by
  have whole : maxCapacity = Nat.pow 2 56 := by decide
  rw [whole, ← Feed.grant_le_iff, ← whole]
  obtain ⟨k, power⟩ := Feed.grant_eq_two_pow n
  simp only [entrySize, maxOctets, maxCapacity, power]
  constructor
  · intro fits
    by_cases small : k ≤ 56
    · exact Nat.pow_le_pow_right (by decide) small
    · have large : Nat.pow 2 57 ≤ Nat.pow 2 k := Nat.pow_le_pow_right (by decide) (by omega)
      have limit : Nat.pow 2 57 = 0x200000000000000 := by decide
      omega
  · intro small
    omega

/-- A log is never refused for a feed that keeps nothing. -/
theorem ofCapacity_eq (capacity : Nat) :
    ofCapacity capacity =
      if maxFeed < capacity then .error .feed
      else if maxCapacity < capacity then .error .memory
      else .ok { empty with feed := ⟨Feed.grant (max capacity 1), 0, []⟩ } := by
  have nonempty : max capacity 1 ≠ 0 := by omega
  have asked : maxFeed < max capacity 1 ↔ maxFeed < capacity := by
    unfold maxFeed
    omega
  have room : maxOctets < Feed.grant (max capacity 1) * entrySize ↔ maxCapacity < capacity := by
    rw [← Nat.not_le, room_iff, maxCapacity]
    omega
  simp only [ofCapacity, Feed.ofCapacity, nonempty, asked, room, if_false]
  split
  · rfl
  split
  · rfl
  · rfl

end Log

/-! ## Clients -/

theorem Client.ofSettings_eq (s : Settings) (ids : IdSource) :
    ofSettings s ids =
      if maxFeed < s.logCapacity then .error .feed
      else if Log.maxCapacity < s.logCapacity then .error .memory
      else .ok ⟨s, { Log.empty with feed := ⟨Feed.grant (max s.logCapacity 1), 0, []⟩ }, none,
        ids⟩ := by
  rw [ofSettings, Log.ofCapacity_eq]
  split
  · rfl
  split
  · rfl
  · rfl

namespace Settings

theorem CountOr.cases_said {otherwise n : Nat} {text : Option String} (h : CountOr otherwise text n) :
    n = otherwise ∨ ∃ said, text = some said ∧ IsCount said n ∧ n ≤ maxCount := by
  cases h with
  | unset => exact .inl rfl
  | passedOver => exact .inl rfl
  | said count fits => exact .inr ⟨_, rfl, count, fits⟩

/-- Loaded settings ask for a log that keeps one entry at least. It is had up to `Log.maxCapacity`
entries, and the client then begins with it and without a session. The settings are not kept from
asking for more: they do if their variable says so, and there is no client then. -/
theorem client_starts {env : Environment} {file : Option (List UInt8)} {s : Settings}
    (h : load env file = .ok (.ok s)) (ids : IdSource) :
    (1 ≤ s.logCapacity ∧ s.logCapacity ≤ maxCount) ∧
    (s.logCapacity ≤ Log.maxCapacity → Client.ofSettings s ids =
      .ok ⟨s, { Log.empty with feed := ⟨Feed.grant s.logCapacity, 0, []⟩ }, none, ids⟩) ∧
    (Log.maxCapacity < s.logCapacity → s.logCapacity ≤ maxFeed →
      Client.ofSettings s ids = .error .memory) ∧
    (maxFeed < s.logCapacity → Client.ofSettings s ids = .error .feed) ∧
    ∃ full, completed env file = .ok full ∧ ∀ n, Log.maxCapacity < n →
      (s.logCapacity = n ↔ n ≤ maxCount ∧
        ∃ text, full.text? "CONSOLE_LOG_CAPACITY" = some text ∧ IsCount text n) := by
  obtain ⟨full, completed, given⟩ := load_eq_ok h
  obtain ⟨n, count, capacity⟩ := (ofEnvironment_ok given).2 .logCapacity
  have atLeast : 1 ≤ s.logCapacity := by omega
  have limits : 1024 < Log.maxCapacity ∧ Log.maxCapacity ≤ maxFeed := by decide
  refine ⟨⟨atLeast, ?_⟩, ?_, ?_, ?_, full, completed, ?_⟩
  · rw [capacity, Nat.max_le]
    obtain rfl | ⟨-, -, -, fits⟩ := count.cases_said
    · decide
    · exact ⟨fits, by decide⟩
  · intro fits
    rw [Client.ofSettings_eq, if_neg (by omega), if_neg (by omega), Nat.max_eq_left atLeast]
  · intro large fits
    rw [Client.ofSettings_eq, if_neg (by omega), if_pos large]
  · intro large
    rw [Client.ofSettings_eq, if_pos large]
  · intro m large
    constructor
    · intro asked
      have same : n = m := by omega
      obtain rfl | ⟨text, said, counted, fits⟩ := count.cases_said
      · exact absurd large (by rw [← same]; decide)
      · exact ⟨same ▸ fits, text, said, same ▸ counted⟩
    · rintro ⟨fits, text, said, counted⟩
      rw [Setting.source, said] at count
      cases count with
      | said counted' =>
        have same : n = m := counted'.unique counted
        omega
      | passedOver noCount => exact absurd counted (noCount m fits)

/-- An environment that asks for a log that keeps nothing. -/
def frugalEnvironment : Environment := ⟨[("CONSOLE_LOG_CAPACITY", Utf8.encode "0".toList)]⟩

theorem client_starts_of_frugal :
    let s : Settings := { defaults with logCapacity := 1 }
    load frugalEnvironment none = .ok (.ok s) ∧
      Client.ofSettings s ⟨0, 0⟩ = .ok ⟨s, { Log.empty with feed := ⟨1, 0, []⟩ }, none, ⟨0, 0⟩⟩ := by
  intro s
  have loaded : load frugalEnvironment none = .ok (.ok s) := load_of_toOption (by decide +kernel)
  exact ⟨loaded, (client_starts loaded ⟨0, 0⟩).2.1 (by decide)⟩

/-- An environment that asks for a log that keeps more than a feed can. -/
def greedyEnvironment : Environment :=
  ⟨[("CONSOLE_LOG_CAPACITY", Utf8.encode "9223372036854775808".toList)]⟩

theorem loaded_capacity_fails :
    let s : Settings := { defaults with logCapacity := maxFeed + 1 }
    load greedyEnvironment none = .ok (.ok s) ∧
      ∀ ids, Client.ofSettings s ids = .error .feed := by
  intro s
  refine ⟨load_of_toOption (by decide +kernel), fun ids => ?_⟩
  rw [Client.ofSettings_eq, if_pos (by decide)]

end Settings

end JobConsole
