import JobConsole.Proofs.Settings.Counts
import JobConsole.Proofs.Text.Trimming
import JobConsole.Proofs.Text.Utf8

/-!
# Where settings come from

Every setting has a variable of its own, which is set to a text or not:

* `Environment.text?_eq_some_iff`: what it means that a variable is set to a text;
* `Settings.Wrong`: what can be wrong with the variables, each taken by itself;
* `Settings.Setting.Gives`: what a variable says of its setting;
* `Settings.load_without_file`: an environment is refused if something is wrong, for the first of the
  things that are; else each setting is what its own variable says.
-/

namespace JobConsole

/-- A variable is set to a text if its octets are those of the text. -/
theorem Environment.text?_eq_some_iff (env : Environment) {name : String} (h : '=' ∉ name.toList)
    {text : String} :
    env.text? name = some text ↔ env.bindings.lookup name = some (Utf8.encode text.toList) := by
  rw [text?, env.octets?_of_not_mem h, Option.bind_eq_some_iff]
  simp only [Utf8.text?_eq_some_iff, exists_eq_right]

/-! ## Modes -/

namespace RenderMode

/-- The ways to write a mode: its name in letters of either case, with blanks around it or none. -/
def IsNamed (mode : RenderMode) (text : String) : Prop :=
  ∃ word, Surrounded text.toList word ∧ word.map Char.toLower = mode.name.toList

theorem toLower_of_isBlank {c : Char} (h : isBlank c = true) : c.toLower = c := by
  unfold Char.toLower
  split
  · next upper =>
    have lo : 65 ≤ c.toNat := UInt32.le_iff_toNat_le.mp upper.1
    have hi : c.toNat ≤ 90 := UInt32.le_iff_toNat_le.mp upper.2
    simp only [isBlank, Bool.or_eq_true, Bool.and_eq_true, decide_eq_true_eq, beq_iff_eq] at h
    omega
  · rfl

theorem tight_of_map_toLower {word : List Char} (h : Tight (word.map Char.toLower)) :
    Tight word := by
  constructor
  · intro c first
    rw [← Bool.not_eq_true]
    intro blank
    have := h.head c (by rw [List.head?_map, first, Option.map_some, toLower_of_isBlank blank])
    simp [blank] at this
  · intro c last
    rw [← Bool.not_eq_true]
    intro blank
    have := h.last c (by rw [List.getLast?_map, last, Option.map_some, toLower_of_isBlank blank])
    simp [blank] at this

theorem tight_name (mode : RenderMode) : Tight mode.name.toList := by
  cases mode <;> constructor <;> simp [name] <;> decide

theorem isNamed_iff {mode : RenderMode} {text : String} :
    mode.IsNamed text ↔ lowercase (trim text) = mode.name := by
  constructor
  · rintro ⟨word, around, same⟩
    have tight : Tight word := tight_of_map_toLower (same ▸ mode.tight_name)
    rw [trim_surrounded tight around, lowercase, String.toList_ofList, same, String.ofList_toList]
  · intro same
    refine ⟨(trim text).toList, trim_split text, ?_⟩
    rw [← same, lowercase, String.toList_ofList]

theorem ofName_eq_ok_iff {text : String} {mode : RenderMode} :
    ofName text = .ok mode ↔ mode.IsNamed text := by
  rw [isNamed_iff, ofName]
  cases mode <;> grind [name]

theorem IsNamed.unique {mode mode' : RenderMode} {text : String} (h : mode.IsNamed text)
    (h' : mode'.IsNamed text) : mode = mode' := by
  have same : mode.name = mode'.name := (isNamed_iff.mp h).symm.trans (isNamed_iff.mp h')
  cases mode <;> cases mode' <;> simp_all [name]

theorem ofName_eq_error {text : String} {e : ConsoleError} (h : ofName text = .error e) :
    e = .config (.renderMode (lowercase (trim text))) ∧ ∀ mode, ¬IsNamed mode text := by
  refine ⟨?_, fun mode named => ?_⟩
  · rw [ofName] at h
    grind
  · rw [ofName_eq_ok_iff.mpr named] at h
    cases h

end RenderMode

namespace Settings

/-! ## What can be wrong -/

def hostOf (env : Environment) : String := (env.text? "CONSOLE_HOST").getD defaults.host

/-- What is wrong with the variables of an environment, each taken by itself. -/
inductive Wrong (env : Environment) : SettingsFault → Prop
  | port {text : String} (said : env.text? "CONSOLE_PORT" = some text)
      (noPort : ∀ n ≤ maxPort, ¬IsCount text n) : Wrong env (.port text)
  | renderMode {text name : String} (said : env.text? "CONSOLE_RENDER_MODE" = some text)
      (noMode : ∀ mode, ¬RenderMode.IsNamed mode text) (told : name = lowercase (trim text)) :
      Wrong env (.renderMode name)
  | blankHost (blank : ∀ c ∈ (hostOf env).toList, isBlank c = true) : Wrong env .blankHost
  | hostCharacters (notBlank : ∃ c ∈ (hostOf env).toList, isBlank c = false)
      (breaks : ∃ c ∈ (hostOf env).toList, c ∈ ['/', ' ', '?', '#']) :
      Wrong env (.hostCharacters (hostOf env))

/-- The place of a fault in the order in which faults are told. -/
def rank : SettingsFault → Nat
  | .port _ => 0
  | .renderMode _ => 1
  | .blankHost => 2
  | .hostCharacters _ => 2
  | .described _ => 3

/-- The fault that is told: nothing that comes before it is wrong. -/
def FirstWrong (env : Environment) (fault : SettingsFault) : Prop :=
  Wrong env fault ∧ ∀ other, Wrong env other → rank fault ≤ rank other

section
variable {env : Environment} {fault other : SettingsFault}

/-- At most one fault has each place. -/
theorem Wrong.unique (h : Wrong env fault) (h' : Wrong env other) (same : rank fault = rank other) :
    fault = other := by
  cases h with
  | port said =>
    cases h' with
    | port said' => rw [Option.some.inj (said.symm.trans said')]
    | renderMode | blankHost | hostCharacters => cases same
  | renderMode said _ told =>
    cases h' with
    | renderMode said' _ told' => rw [told, told', Option.some.inj (said.symm.trans said')]
    | port | blankHost | hostCharacters => cases same
  | blankHost blank =>
    cases h' with
    | blankHost => rfl
    | hostCharacters notBlank =>
      obtain ⟨c, hc, plain⟩ := notBlank
      simp [blank c hc] at plain
    | port | renderMode => cases same
  | hostCharacters notBlank =>
    cases h' with
    | hostCharacters => rfl
    | blankHost blank =>
      obtain ⟨c, hc, plain⟩ := notBlank
      simp [blank c hc] at plain
    | port | renderMode => cases same

theorem FirstWrong.unique (h : FirstWrong env fault) (h' : FirstWrong env other) : fault = other :=
  h.1.unique h'.1 (Nat.le_antisymm (h.2 other h'.1) (h'.2 fault h.1))

end

/-! ## Hosts -/

theorem isHostBreak_iff {c : Char} : isHostBreak c = true ↔ c ∈ ['/', ' ', '?', '#'] := by
  simp [isHostBreak, or_assoc]

section
variable {s : Settings} {e : ConsoleError}

theorem breaks_iff (host : String) :
    host.toList.any isHostBreak = true ↔ ∃ c ∈ host.toList, c ∈ ['/', ' ', '?', '#'] := by
  simp only [List.any_eq_true, isHostBreak_iff]

theorem not_blank_iff (host : String) :
    trim host ≠ "" ↔ ∃ c ∈ host.toList, isBlank c = false := by
  simp [trim_eq_empty_iff]

theorem validate_eq_ok_iff :
    s.validate = .ok () ↔ (∃ c ∈ s.host.toList, isBlank c = false) ∧
      ∀ c ∈ s.host.toList, c ∉ ['/', ' ', '?', '#'] := by
  rw [← not_blank_iff]
  unfold validate
  split
  · next blank =>
    constructor
    · nofun
    · rintro ⟨notBlank, -⟩
      exact absurd blank notBlank
  next notBlank =>
  split
  · next breaks =>
    constructor
    · nofun
    · rintro ⟨-, none⟩
      obtain ⟨c, hc, among⟩ := (breaks_iff _).mp breaks
      exact absurd among (none c hc)
  · next unbroken =>
    simp only [true_iff]
    exact ⟨notBlank, fun c hc among => unbroken ((breaks_iff _).mpr ⟨c, hc, among⟩)⟩

theorem validate_eq_error (h : s.validate = .error e) :
    ((∀ c ∈ s.host.toList, isBlank c = true) ∧ e = .config .blankHost) ∨
    ((∃ c ∈ s.host.toList, isBlank c = false) ∧
      (∃ c ∈ s.host.toList, c ∈ ['/', ' ', '?', '#']) ∧ e = .config (.hostCharacters s.host)) := by
  unfold validate at h
  split at h
  · next blank =>
    cases h
    exact .inl ⟨trim_eq_empty_iff.mp blank, rfl⟩
  next notBlank =>
  split at h
  · next breaks =>
    cases h
    exact .inr ⟨(not_blank_iff _).mp notBlank, (breaks_iff _).mp breaks, rfl⟩
  · cases h

end

/-! ## What variables say -/

/-- A count that a variable says; another one if it says none, or none that fits. -/
inductive CountOr (otherwise : Nat) : Option String → Nat → Prop
  | unset : CountOr otherwise none otherwise
  | said {text : String} {n : Nat} (count : IsCount text n) (fits : n ≤ maxCount) :
      CountOr otherwise (some text) n
  | passedOver {text : String} (noCount : ∀ n ≤ maxCount, ¬IsCount text n) :
      CountOr otherwise (some text) otherwise

theorem readCount_eq_none_iff {limit : Nat} {text : String} :
    readCount limit text = none ↔ ∀ n ≤ limit, ¬IsCount text n := by
  constructor
  · intro none n fits count
    rw [readCount_eq_some_iff.mpr ⟨count, fits⟩] at none
    cases none
  · intro noCount
    cases read : readCount limit text with
    | none => rfl
    | some n =>
      obtain ⟨count, fits⟩ := readCount_eq_some_iff.mp read
      exact absurd count (noCount n fits)

theorem countOr_spec (text : Option String) (otherwise : Nat) :
    CountOr otherwise text (countOr text otherwise) := by
  cases text with
  | none => exact .unset
  | some text =>
    simp only [countOr, Option.bind_some]
    cases read : readCount maxCount text with
    | none => exact .passedOver (readCount_eq_none_iff.mp read)
    | some n =>
      obtain ⟨count, fits⟩ := readCount_eq_some_iff.mp read
      exact .said count fits

theorem CountOr.unique {otherwise n m : Nat} {text : Option String} (hn : CountOr otherwise text n)
    (hm : CountOr otherwise text m) : n = m := by
  cases hn with
  | unset => cases hm; rfl
  | said count fits =>
    cases hm with
    | said count' => exact count.unique count'
    | passedOver noCount => exact absurd count (noCount _ fits)
  | passedOver noCount =>
    cases hm with
    | said count fits => exact absurd count (noCount _ fits)
    | passedOver => rfl

inductive Setting
  | host
  | port
  | path
  | connectTimeout
  | maxPayload
  | mode
  | logCapacity
  deriving DecidableEq, Repr

namespace Setting

/-- The variable that a setting is read from. -/
def source : Setting → String
  | .host => "CONSOLE_HOST"
  | .port => "CONSOLE_PORT"
  | .path => "CONSOLE_PATH"
  | .connectTimeout => "CONSOLE_CONNECT_TIMEOUT_SECS"
  | .maxPayload => "CONSOLE_MAX_PAYLOAD_BYTES"
  | .mode => "CONSOLE_RENDER_MODE"
  | .logCapacity => "CONSOLE_LOG_CAPACITY"

/-- What a variable says of its setting: `text` is what it is set to, if it is set to a text. -/
def Gives (s : Settings) (text : Option String) : Setting → Prop
  | .host => s.host = text.getD defaults.host
  | .port =>
    match text with
    | none => s.port = defaults.port
    | some text => IsCount text s.port ∧ s.port ≤ maxPort
  | .path => s.path = normalizePath (text.getD defaults.path)
  | .connectTimeout => CountOr defaults.connectTimeoutSecs text s.connectTimeoutSecs
  | .maxPayload => CountOr defaults.maxPayloadBytes text s.maxPayloadBytes
  | .mode =>
    match text with
    | none => s.mode = defaults.mode
    | some text => s.mode.IsNamed text
  | .logCapacity => ∃ n, CountOr defaults.logCapacity text n ∧ s.logCapacity = max n 1

def Same (s t : Settings) : Setting → Prop
  | .host => s.host = t.host
  | .port => s.port = t.port
  | .path => s.path = t.path
  | .connectTimeout => s.connectTimeoutSecs = t.connectTimeoutSecs
  | .maxPayload => s.maxPayloadBytes = t.maxPayloadBytes
  | .mode => s.mode = t.mode
  | .logCapacity => s.logCapacity = t.logCapacity

/-- The settings that are counts of which one that does not fit is passed over. -/
def isLenient : Setting → Bool
  | .connectTimeout | .maxPayload | .logCapacity => true
  | .host | .port | .path | .mode => false

theorem source_plain (k : Setting) : '=' ∉ k.source.toList := by
  cases k <;> decide

section
variable {s t : Settings} {text : Option String} {k : Setting}

theorem same_settings (h : ∀ k, Same s t k) : s = t := by
  have host := h .host
  have port := h .port
  have path := h .path
  have timeout := h .connectTimeout
  have payload := h .maxPayload
  have mode := h .mode
  have capacity := h .logCapacity
  cases s
  cases t
  simp only [Same] at host port path timeout payload mode capacity
  simp only [host, port, path, timeout, payload, mode, capacity]

/-- A variable says one thing of its setting. -/
theorem Gives.unique (hs : Gives s text k) (ht : Gives t text k) : Same s t k := by
  cases k with
  | host | path => exact hs.trans ht.symm
  | connectTimeout | maxPayload => exact CountOr.unique hs ht
  | logCapacity =>
    obtain ⟨n, count, capacity⟩ := hs
    obtain ⟨m, count', capacity'⟩ := ht
    cases count.unique count'
    exact capacity.trans capacity'.symm
  | port =>
    cases text with
    | none => exact hs.trans ht.symm
    | some text => exact hs.1.unique ht.1
  | mode =>
    cases text with
    | none => exact hs.trans ht.symm
    | some text => exact hs.unique ht

/-- A variable that is not set gives the default. -/
theorem gives_defaults (k : Setting) : Gives defaults none k := by
  cases k with
  | host | port | mode => rfl
  | path =>
    show defaultPath = normalizePath defaultPath
    decide
  | connectTimeout | maxPayload => exact .unset
  | logCapacity => exact ⟨_, .unset, rfl⟩

theorem gives_passedOver {text : String} (lenient : k.isLenient = true)
    (noCount : ∀ n ≤ maxCount, ¬IsCount text n) : Gives defaults (some text) k := by
  cases k with
  | connectTimeout | maxPayload => exact .passedOver noCount
  | logCapacity => exact ⟨_, .passedOver noCount, rfl⟩
  | host | port | path | mode => cases lenient

end

end Setting

/-! ## Loading -/

/-- The settings of an environment with some port and mode. -/
def assembled (env : Environment) (port : Nat) (mode : RenderMode) : Settings where
  host := hostOf env
  port
  path := normalizePath ((env.text? "CONSOLE_PATH").getD defaults.path)
  connectTimeoutSecs :=
    countOr (env.text? "CONSOLE_CONNECT_TIMEOUT_SECS") defaults.connectTimeoutSecs
  maxPayloadBytes := countOr (env.text? "CONSOLE_MAX_PAYLOAD_BYTES") defaults.maxPayloadBytes
  mode
  logCapacity := max (countOr (env.text? "CONSOLE_LOG_CAPACITY") defaults.logCapacity) 1

section
variable {env : Environment}

theorem ofEnvironment_eq (env : Environment) :
    ofEnvironment env =
      match readPort (env.text? "CONSOLE_PORT") with
      | .error e => .error e
      | .ok port =>
        match readMode (env.text? "CONSOLE_RENDER_MODE") with
        | .error e => .error e
        | .ok mode =>
          match (assembled env port mode).validate with
          | .error e => .error e
          | .ok () => .ok (assembled env port mode) := by
  simp only [ofEnvironment, bind, Except.bind, pure, Except.pure, assembled, hostOf]
  cases readPort (env.text? "CONSOLE_PORT") with
  | error e => rfl
  | ok port =>
    cases readMode (env.text? "CONSOLE_RENDER_MODE") with
    | error e => rfl
    | ok mode =>
      dsimp only
      split <;> simp only [*]

theorem readPort_error {text : Option String} {e : ConsoleError} (h : readPort text = .error e) :
    ∃ said, text = some said ∧ (∀ n ≤ maxPort, ¬IsCount said n) ∧ e = .config (.port said) := by
  unfold readPort at h
  split at h
  · cases h
  · next said =>
    split at h
    · cases h
    · next read =>
      cases h
      exact ⟨said, rfl, readCount_eq_none_iff.mp read, rfl⟩

theorem readPort_ok {text : Option String} {port : Nat} (h : readPort text = .ok port) :
    Setting.Gives { defaults with port } text .port := by
  unfold readPort at h
  split at h
  · cases h
    rfl
  · split at h
    · next read =>
      cases h
      exact readCount_eq_some_iff.mp read
    · cases h

theorem readMode_ok {text : Option String} {mode : RenderMode} (h : readMode text = .ok mode) :
    Setting.Gives { defaults with mode } text .mode := by
  unfold readMode at h
  split at h
  · cases h
    rfl
  · exact RenderMode.ofName_eq_ok_iff.mp h

theorem readMode_error {text : Option String} {e : ConsoleError} (h : readMode text = .error e) :
    ∃ said, text = some said ∧ (∀ mode, ¬RenderMode.IsNamed mode said) ∧
      e = .config (.renderMode (lowercase (trim said))) := by
  unfold readMode at h
  split at h
  · cases h
  · next said =>
    obtain ⟨rfl, noMode⟩ := RenderMode.ofName_eq_error h
    exact ⟨said, rfl, noMode, rfl⟩

/-- A variable that says a port is not wrong. -/
theorem not_wrong_port {port : Nat} (h : readPort (env.text? "CONSOLE_PORT") = .ok port)
    (said : String) : ¬Wrong env (.port said) := by
  intro wrong
  cases wrong with
  | port said noPort =>
    have gives := readPort_ok h
    rw [said] at gives
    exact noPort port gives.2 gives.1

theorem not_wrong_mode {mode : RenderMode}
    (h : readMode (env.text? "CONSOLE_RENDER_MODE") = .ok mode) (said : String) :
    ¬Wrong env (.renderMode said) := by
  intro wrong
  cases wrong with
  | renderMode said noMode told =>
    have gives := readMode_ok h
    rw [said] at gives
    exact noMode mode gives

/-- What is refused is refused for the first fault. -/
theorem ofEnvironment_error {e : ConsoleError} (h : ofEnvironment env = .error e) :
    ∃ fault, e = .config fault ∧ FirstWrong env fault := by
  rw [ofEnvironment_eq] at h
  split at h
  · next port =>
    cases h
    obtain ⟨said, text, noPort, rfl⟩ := readPort_error port
    exact ⟨_, rfl, .port text noPort, fun _ _ => Nat.zero_le _⟩
  next port =>
  have port (said : String) := not_wrong_port port said
  split at h
  · next mode =>
    cases h
    obtain ⟨said, text, noMode, rfl⟩ := readMode_error mode
    refine ⟨_, rfl, .renderMode text noMode rfl, fun other wrong => ?_⟩
    cases other with
    | port said => exact absurd wrong (port said)
    | renderMode | blankHost | hostCharacters | described => simp [rank]
  next mode =>
  have mode (said : String) := not_wrong_mode mode said
  have first {fault : SettingsFault} (wrong : Wrong env fault) (last : rank fault = 2) :
      FirstWrong env fault := by
    refine ⟨wrong, fun other wrong => ?_⟩
    rw [last]
    cases other with
    | port said => exact absurd wrong (port said)
    | renderMode said => exact absurd wrong (mode said)
    | blankHost | hostCharacters | described => simp [rank]
  split at h
  · next refused =>
    cases h
    obtain ⟨blank, rfl⟩ | ⟨notBlank, breaks, rfl⟩ := validate_eq_error refused
    · exact ⟨_, rfl, first (.blankHost blank) rfl⟩
    · exact ⟨_, rfl, first (.hostCharacters notBlank breaks) rfl⟩
  · cases h

/-- What there has to be for an environment to give settings. -/
theorem ofEnvironment_eq_ok {s : Settings} (h : ofEnvironment env = .ok s) :
    ∃ port mode, readPort (env.text? "CONSOLE_PORT") = .ok port ∧
      readMode (env.text? "CONSOLE_RENDER_MODE") = .ok mode ∧ s.validate = .ok () ∧
      s = assembled env port mode := by
  rw [ofEnvironment_eq] at h
  split at h
  · cases h
  next port read =>
  split at h
  · cases h
  next mode read' =>
  split at h
  · cases h
  next checked =>
  cases h
  exact ⟨port, mode, read, read', checked, rfl⟩

/-- Where an environment gives settings nothing is wrong, and each is what its variable says. -/
theorem ofEnvironment_ok {s : Settings} (h : ofEnvironment env = .ok s) :
    (∀ fault, ¬Wrong env fault) ∧ ∀ k : Setting, k.Gives s (env.text? k.source) := by
  obtain ⟨port, mode, portRead, modeRead, checked, rfl⟩ := ofEnvironment_eq_ok h
  obtain ⟨⟨c, hc, plain⟩, unbroken⟩ := validate_eq_ok_iff.mp checked
  constructor
  · intro fault wrong
    cases wrong with
    | port said noPort => exact not_wrong_port portRead _ (.port said noPort)
    | renderMode said noMode told => exact not_wrong_mode modeRead _ (.renderMode said noMode told)
    | blankHost blank => simp [blank c hc] at plain
    | hostCharacters _ breaks =>
      obtain ⟨d, hd, among⟩ := breaks
      exact unbroken d hd among
  · intro k
    cases k with
    | host | path => rfl
    | port => exact readPort_ok portRead
    | mode => exact readMode_ok modeRead
    | connectTimeout | maxPayload => exact countOr_spec _ _
    | logCapacity => exact ⟨_, countOr_spec _ _, rfl⟩

theorem ofEnvironment_error_iff {e : ConsoleError} :
    ofEnvironment env = .error e ↔ ∃ fault, e = .config fault ∧ FirstWrong env fault := by
  constructor
  · exact ofEnvironment_error
  · rintro ⟨fault, rfl, first⟩
    cases given : ofEnvironment env with
    | error e =>
      obtain ⟨other, rfl, told⟩ := ofEnvironment_error given
      rw [told.unique first]
    | ok s => exact absurd first.1 ((ofEnvironment_ok given).1 fault)

theorem ofEnvironment_ok_iff {s : Settings} :
    ofEnvironment env = .ok s ↔
      (∀ fault, ¬Wrong env fault) ∧ ∀ k : Setting, k.Gives s (env.text? k.source) := by
  constructor
  · exact ofEnvironment_ok
  · rintro ⟨right, gives⟩
    cases given : ofEnvironment env with
    | error e =>
      obtain ⟨fault, -, first⟩ := ofEnvironment_error given
      exact absurd first.1 (right fault)
    | ok t =>
      have same (k : Setting) : k.Same t s := ((ofEnvironment_ok given).2 k).unique (gives k)
      rw [Setting.same_settings same]

theorem refused_iff : (∃ e, ofEnvironment env = .error e) ↔ ∃ fault, Wrong env fault := by
  constructor
  · rintro ⟨e, given⟩
    obtain ⟨fault, -, first⟩ := ofEnvironment_error given
    exact ⟨fault, first.1⟩
  · rintro ⟨fault, wrong⟩
    cases given : ofEnvironment env with
    | error e => exact ⟨e, rfl⟩
    | ok s => exact absurd wrong ((ofEnvironment_ok given).1 fault)

end

theorem load_none (env : Environment) {r : Except ConsoleError Settings} :
    load env none = .ok r ↔ ofEnvironment env = r := by
  simp [load]

/-- An environment completed by a file, if there is one. -/
def completed (env : Environment) : Option (List UInt8) → Except Unassignable Environment
  | none => .ok env
  | some bytes => EnvFile.load env bytes

theorem load_eq_ok {env : Environment} {file : Option (List UInt8)} {r : Except ConsoleError Settings}
    (h : load env file = .ok r) :
    ∃ full, completed env file = .ok full ∧ ofEnvironment full = r := by
  cases file with
  | none => exact ⟨env, rfl, Except.ok.inj h⟩
  | some bytes =>
    cases read : EnvFile.load env bytes with
    | error u => simp [load, read, Except.map] at h
    | ok full => exact ⟨full, read, by simpa [load, read, Except.map] using h⟩

/-- Without a file, an environment is refused exactly if something is wrong, and for the first of the
things that are. Else it gives the settings of which each is what its own variable says, the log
capacity at least one. So a setting is the default if its variable is not set to a text, or to no
count that fits where counts are passed over, and it stays as it is as long as its own variable
does. -/
theorem load_without_file (env : Environment) :
    (∀ (k : Setting) text, env.text? k.source = some text ↔
      env.bindings.lookup k.source = some (Utf8.encode text.toList)) ∧
    ((∃ e, load env none = .ok (.error e)) ↔ ∃ fault, Wrong env fault) ∧
    (∀ e, load env none = .ok (.error e) ↔ ∃ fault, e = .config fault ∧ FirstWrong env fault) ∧
    (∀ s, load env none = .ok (.ok s) ↔
      (∀ fault, ¬Wrong env fault) ∧ ∀ k : Setting, k.Gives s (env.text? k.source)) ∧
    ∀ s, load env none = .ok (.ok s) → 1 ≤ s.logCapacity ∧ ∀ k : Setting,
      (env.text? k.source = none → k.Same s defaults) ∧
      (∀ text, k.isLenient = true → env.text? k.source = some text →
        (∀ n ≤ maxCount, ¬IsCount text n) → k.Same s defaults) ∧
      ∀ env' s', load env' none = .ok (.ok s') → env'.text? k.source = env.text? k.source →
        k.Same s s' := by
  simp only [load_none]
  refine ⟨fun k text => env.text?_eq_some_iff k.source_plain, refused_iff,
    fun e => ofEnvironment_error_iff, fun s => ofEnvironment_ok_iff, ?_⟩
  intro s h
  have gives := (ofEnvironment_ok h).2
  obtain ⟨n, -, capacity⟩ := gives .logCapacity
  refine ⟨by omega, fun k => ⟨?_, ?_, ?_⟩⟩
  · intro unset
    have given := gives k
    rw [unset] at given
    exact given.unique (Setting.gives_defaults k)
  · intro text lenient said noCount
    have given := gives k
    rw [said] at given
    exact given.unique (Setting.gives_passedOver lenient noCount)
  · intro env' s' h' same
    have given := (ofEnvironment_ok h').2 k
    rw [same] at given
    exact (gives k).unique given

/-- Settings can be compared, the outcomes of loading cannot. -/
theorem load_of_toOption {env : Environment} {s : Settings}
    (h : (ofEnvironment env).toOption = some s) : load env none = .ok (.ok s) := by
  cases given : ofEnvironment env with
  | error e => simp [given, Except.toOption] at h
  | ok t =>
    simp only [given, Except.toOption, Option.some.injEq] at h
    simp only [load, given, h]

/-- An environment whose host is no text, whose port and mode are written unusually, and whose counts
are too small and no count. -/
def mixedEnvironment : Environment :=
  ⟨[("CONSOLE_HOST", [0xFF]), ("CONSOLE_PORT", Utf8.encode "+09091".toList),
    ("CONSOLE_RENDER_MODE", Utf8.encode "\t SumMary".toList),
    ("CONSOLE_MAX_PAYLOAD_BYTES", Utf8.encode "1e3".toList),
    ("CONSOLE_LOG_CAPACITY", Utf8.encode "0".toList)]⟩

theorem load_without_file_of_mixed :
    let s : Settings := { defaults with port := 9091, mode := .summary, logCapacity := 1 }
    load mixedEnvironment none = .ok (.ok s) ∧ (∀ fault, ¬Wrong mixedEnvironment fault) ∧
      1 ≤ s.logCapacity ∧ Setting.host.Same s defaults := by
  intro s
  have loaded : load mixedEnvironment none = .ok (.ok s) := load_of_toOption (by decide +kernel)
  obtain ⟨-, -, -, given, kept⟩ := load_without_file mixedEnvironment
  obtain ⟨capacity, sources⟩ := kept s loaded
  exact ⟨loaded, ((given s).mp loaded).1, capacity, (sources .host).1 (by decide +kernel)⟩

end Settings

end JobConsole
