import JobConsole.Proofs.Settings.FileLines
import JobConsole.Proofs.Settings.Sources

/-!
# Environments completed by a file

Which settings a file can decide, and which it cannot:

* `Environment.Keeps`: an environment has all texts of another one;
* `EnvFile.assignedBy`, `EnvFile.firstText`: the assignments of a file as far as it is read, and
  what the first one of a variable says;
* `EnvFile.Completes`, `EnvFile.load_completes`: how assignments complete an environment, and that a
  file does so by those;
* `EnvFile.Completes.texts`, `EnvFile.Completes.refusal_iff`: that gives the first text to each
  variable that has none, and fails for the one that cannot have it;
* `Settings.environment_wins`: what follows for the settings.
-/

namespace JobConsole

namespace Environment

/-- All variables that are set to a text are still set to it. -/
def Keeps (full env : Environment) : Prop :=
  ∀ name octets, env.bindings.lookup name = some octets → (Utf8.text? octets).isSome = true →
    full.bindings.lookup name = some octets

theorem Keeps.trans {env env' full : Environment} (h : full.Keeps env') (h' : env'.Keeps env) :
    full.Keeps env := by
  intro name octets bound text
  exact h name octets (h' name octets bound text) text

theorem lookup_set (env : Environment) (name text k : String) :
    (env.set name text).bindings.lookup k =
      if k = name then some (Utf8.encode text.toList) else env.bindings.lookup k := by
  by_cases same : k = name
  · simp [set, same]
  · have others (bindings : List (String × List UInt8)) :
        (bindings.filter (·.1 != name)).lookup k = bindings.lookup k := by
      induction bindings with
      | nil => rfl
      | cons binding bindings ih =>
        obtain ⟨other, octets⟩ := binding
        by_cases dropped : other = name
        · subst dropped
          simp [List.lookup_cons, beq_eq_false_iff_ne.mpr same, ih]
        · by_cases found : k = other
          · simp [dropped, found]
          · simp [List.lookup_cons, dropped, beq_eq_false_iff_ne.mpr found, ih]
    simp [set, same, List.lookup_cons, beq_eq_false_iff_ne.mpr same, others]

theorem text?_set (env : Environment) (name text : String) {k : String} (plain : '=' ∉ k.toList) :
    (env.set name text).text? k = if k = name then some text else env.text? k := by
  rw [text?, text?, octets?_of_not_mem _ plain, octets?_of_not_mem _ plain, lookup_set]
  by_cases same : k = name
  · rw [if_pos same, if_pos same, Option.bind_some, Utf8.text?_eq_some_iff]
  · rw [if_neg same, if_neg same]

/-- A variable has its text, else the one it is given; the others have theirs. -/
theorem complete_ok {env env' : Environment} {name text : String} (plain : '=' ∉ name.toList)
    (h : env.complete name text = .ok env') :
    env'.Keeps env ∧ (env.text? name = none → '\x00' ∉ text.toList) ∧
      ∀ k : String, '=' ∉ k.toList →
        env'.text? k = (env.text? k).or (if k = name then some text else none) := by
  unfold complete at h
  split at h
  · next set =>
    obtain rfl : env = env' := Except.ok.inj h
    obtain ⟨said, has⟩ := Option.isSome_iff_exists.mp set
    refine ⟨fun _ _ bound _ => bound, by simp [has], ?_⟩
    intro k _
    by_cases same : k = name
    · simp [same, has]
    · simp [same]
  · next unset =>
    split at h
    · next assignable =>
      obtain rfl : env.set name text = env' := Except.ok.inj h
      have none : env.text? name = none := by simpa using unset
      refine ⟨?_, ?_, ?_⟩
      · intro k octets bound isText
        rw [lookup_set]
        by_cases same : k = name
        · subst same
          rw [text?, octets?_of_not_mem _ plain, bound, Option.bind_some] at none
          simp [none] at isText
        · rw [if_neg same]
          exact bound
      · intro _
        simpa [isAssignable] using assignable
      · intro k plain'
        rw [text?_set env name text plain']
        by_cases same : k = name
        · simp [same, none]
        · simp [same]
    · cases h

theorem complete_error {env : Environment} {name text : String} {u : Unassignable}
    (h : env.complete name text = .error u) :
    u = ⟨name, text⟩ ∧ env.text? name = none ∧ '\x00' ∈ text.toList := by
  unfold complete at h
  split at h
  · cases h
  · next unset =>
    split at h
    · cases h
    · next unassignable =>
      refine ⟨(Except.error.inj h).symm, by simpa using unset, ?_⟩
      simpa [isAssignable] using unassignable

end Environment

namespace EnvFile

/-! ## The assignments of a file -/

def Assignment.text (a : Assignment) : String := a.value.getD ""

/-- The assignments on some lines as far as these are read: up to one that is malformed or no text,
or that assigns what cannot be assigned. -/
def assignments (s : Loading) : List (Option (List Char)) → List Assignment
  | [] => []
  | none :: _ => []
  | some line :: rest =>
    match readLine s.lookup line with
    | .empty => assignments s rest
    | .malformed => []
    | .assignment a =>
      match s.assign a with
      | .ok s => a :: assignments s rest
      | .error _ => [a]

/-- The assignments of a file, as far as it is read to complete an environment. -/
def assignedBy (env : Environment) (file : List UInt8) : List Assignment :=
  assignments ⟨env, []⟩ (linesOf file)

/-- What the first assignment of a variable says. -/
def firstText (made : List Assignment) (name : String) : Option String :=
  (made.find? (·.key == name)).map Assignment.text

theorem firstText_cons (a : Assignment) (made : List Assignment) (name : String) :
    firstText (a :: made) name = if name = a.key then some a.text else firstText made name := by
  by_cases same : name = a.key
  · simp [firstText, same]
  · have other : (a.key == name) = false := beq_eq_false_iff_ne.mpr (Ne.symm same)
    simp [firstText, other, same]

/-- There is no equals sign in a key. -/
theorem readKey_plain {cs rest : List Char} {key : String} (h : readKey cs = some (key, rest)) :
    '=' ∉ key.toList := by
  cases cs with
  | nil => cases h
  | cons c cs =>
    rw [readKey] at h
    split at h
    · next start =>
      obtain ⟨rfl, -⟩ := Prod.mk.inj (Option.some.inj h)
      rw [String.toList_ofList, List.mem_cons, not_or]
      constructor
      · rintro rfl
        revert start
        decide
      · intro inside
        have part : isKeyPart '=' = true := List.all_eq_true.mp List.all_takeWhile _ inside
        revert part
        decide
    · cases h

theorem readAssigned_plain {cs rest : List Char} {key : String}
    (h : readAssigned cs = some (key, rest)) : '=' ∉ key.toList := by
  obtain ⟨⟨first, behind⟩, read, h⟩ := Option.bind_eq_some_iff.mp h
  dsimp only at h
  split at h
  · obtain ⟨rfl, -⟩ := Prod.mk.inj (Option.some.inj h)
    exact readKey_plain read
  split at h
  · obtain ⟨⟨second, behind'⟩, read', h⟩ := Option.bind_eq_some_iff.mp h
    obtain ⟨rest', -, h⟩ := Option.bind_eq_some_iff.mp h
    obtain ⟨rfl, -⟩ := Prod.mk.inj (Option.some.inj h)
    exact readKey_plain read'
  · cases h

theorem readLine_plain {lookup : String → String} {line : List Char} {a : Assignment}
    (h : readLine lookup line = .assignment a) : '=' ∉ a.key.toList := by
  unfold readLine at h
  dsimp only at h
  split at h
  · cases h
  split at h
  · cases h
  next key rest read =>
  split at h
  · cases h
    exact readAssigned_plain read
  split at h
  · cases h
    exact readAssigned_plain read
  · cases h

/-! ## Loading -/

/-- How a run of assignments completes an environment: each gives its variable what it says, unless
the variable has a text, and one that cannot be made is the last. -/
inductive Completes : Environment → List Assignment → Except Unassignable Environment → Prop
  | done (env : Environment) : Completes env [] (.ok env)
  | assigned {env env' : Environment} {a : Assignment} {made : List Assignment}
      {r : Except Unassignable Environment} (plain : '=' ∉ a.key.toList)
      (completed : env.complete a.key a.text = .ok env') (later : Completes env' made r) :
      Completes env (a :: made) r
  | refused {env : Environment} {a : Assignment} {u : Unassignable} (plain : '=' ∉ a.key.toList)
      (refusal : env.complete a.key a.text = .error u) : Completes env [a] (.error u)

theorem loadLines_completes (s : Loading) (lines : List (Option (List Char))) :
    Completes s.env (assignments s lines) ((loadLines s lines).map Loading.env) := by
  induction lines generalizing s with
  | nil => exact .done s.env
  | cons line lines ih =>
    cases line with
    | none => exact .done s.env
    | some line =>
      rw [loadLines, assignments]
      cases read : readLine s.lookup line with
      | empty => exact ih s
      | malformed => exact .done s.env
      | assignment a =>
        have plain := readLine_plain read
        have assign : s.assign a =
            (s.env.complete a.key a.text).map fun env => ⟨env, a :: s.known⟩ := rfl
        cases completed : s.env.complete a.key a.text with
        | error u =>
          rw [completed] at assign
          simp only [assign, Except.map]
          exact .refused plain completed
        | ok env =>
          rw [completed] at assign
          simp only [assign, Except.map]
          exact .assigned plain completed (ih ⟨env, a :: s.known⟩)

namespace Completes

section
variable {env full : Environment} {made : List Assignment} {r : Except Unassignable Environment}

/-- What is assigned is assigned to names without an equals sign. -/
theorem keys_plain (h : Completes env made r) : ∀ a ∈ made, '=' ∉ a.key.toList := by
  induction h with
  | done => simp
  | assigned plain _ _ ih => exact List.forall_mem_cons.mpr ⟨plain, ih⟩
  | refused plain => simpa using plain

theorem name_plain {name text : String} (h : Completes env made r)
    (first : firstText made name = some text) : '=' ∉ name.toList := by
  obtain ⟨a, found, -⟩ := Option.map_eq_some_iff.mp first
  have key : a.key = name := by simpa using List.find?_some found
  rw [← key]
  exact h.keys_plain a (List.mem_of_find?_eq_some found)

/-- Where all assignments can be made, variables have their texts, else what the first assignment
says. -/
theorem texts (h : Completes env made r) (ok : r = .ok full) :
    full.Keeps env ∧ ∀ k : String, '=' ∉ k.toList →
      full.text? k = (env.text? k).or (firstText made k) := by
  induction h with
  | done env =>
    obtain rfl : env = full := Except.ok.inj ok
    refine ⟨fun _ _ bound _ => bound, fun k _ => ?_⟩
    simp [firstText]
  | refused => cases ok
  | @assigned env env' a made r plain completed later ih =>
    obtain ⟨kept, -, step⟩ := Environment.complete_ok plain completed
    obtain ⟨keeps, texts⟩ := ih ok
    refine ⟨keeps.trans kept, fun k plain' => ?_⟩
    rw [texts k plain', step k plain', firstText_cons, Option.or_assoc]
    by_cases same : k = a.key
    · simp [same]
    · simp [same]

/-- What is assigned first to a variable without a text is something it can have, except where the
assignments end because it is not. -/
theorem refusal_iff (h : Completes env made r) (u : Unassignable) :
    r = .error u ↔ env.text? u.name = none ∧ firstText made u.name = some u.text ∧
      '\x00' ∈ u.text.toList := by
  induction h with
  | done => simp [firstText]
  | @refused env a u' plain refusal =>
    obtain ⟨rfl, unset, unassignable⟩ := Environment.complete_error refusal
    constructor
    · intro same
      obtain rfl := Except.error.inj same
      exact ⟨unset, by rw [firstText_cons, if_pos rfl], unassignable⟩
    · rintro ⟨-, first, -⟩
      rw [firstText_cons] at first
      by_cases same : u.name = a.key
      · rw [if_pos same] at first
        rw [Option.some.inj first, ← same]
      · simp [same, firstText] at first
  | @assigned env env' a made r plain completed later ih =>
    obtain ⟨-, assignable, step⟩ := Environment.complete_ok plain completed
    rw [ih, firstText_cons]
    by_cases same : u.name = a.key
    · rw [if_pos same, same]
      constructor
      · rintro ⟨unset, -, -⟩
        simp [step a.key plain] at unset
      · rintro ⟨unset, first, unassignable⟩
        rw [← Option.some.inj first] at unassignable
        exact absurd unassignable (assignable unset)
    · rw [if_neg same]
      -- Only of a name without an equals sign is it known that it stands for the same as before.
      apply and_congr_left
      rintro ⟨first, -⟩
      rw [step u.name (later.name_plain first), if_neg same, Option.or_none]

end

end Completes

section
variable {env : Environment} {file : List UInt8}

theorem load_completes (env : Environment) (file : List UInt8) :
    Completes env (assignedBy env file) (load env file) :=
  loadLines_completes ⟨env, []⟩ (linesOf file)

theorem load_behind (h : BreaksOff file) (more : List UInt8) :
    load env (file ++ more) = load env file :=
  congrArg (Except.map Loading.env) (loadLines_behind h more ⟨env, []⟩)

end

end EnvFile

namespace Settings

/-! ## Settings of an environment and a file -/

/-- The setting that a fault is about. -/
def blamed? : SettingsFault → Option Setting
  | .port _ => some .port
  | .renderMode _ => some .mode
  | .blankHost | .hostCharacters _ => some .host
  | .described _ => none

section
variable {env env' full : Environment} {fault : SettingsFault} {k : Setting}

/-- A host that is wrong was asked for. -/
theorem host_of_wrong (h : hostOf env ≠ defaults.host) :
    (env.text? "CONSOLE_HOST").isSome = true := by
  unfold hostOf at h
  cases said : env.text? "CONSOLE_HOST" with
  | none => simp [said] at h
  | some host => rfl

/-- Something wrong is wrong with a variable that is set to a text. -/
theorem Wrong.blamed (h : Wrong env fault) :
    ∃ k, blamed? fault = some k ∧ (env.text? k.source).isSome = true := by
  cases h with
  | port said => exact ⟨.port, rfl, Option.isSome_of_eq_some said⟩
  | renderMode said => exact ⟨.mode, rfl, Option.isSome_of_eq_some said⟩
  | blankHost blank =>
    refine ⟨.host, rfl, host_of_wrong ?_⟩
    intro same
    rw [same] at blank
    have all : defaults.host.toList.all isBlank = true := List.all_eq_true.mpr blank
    revert all
    decide
  | hostCharacters _ breaks =>
    refine ⟨.host, rfl, host_of_wrong ?_⟩
    intro same
    rw [same] at breaks
    have any : defaults.host.toList.any isHostBreak = true := (breaks_iff _).mpr breaks
    revert any
    decide

/-- What is wrong with a variable is wrong wherever it is set to the same. -/
theorem Wrong.congr (h : Wrong env fault) (blamed : blamed? fault = some k)
    (same : env'.text? k.source = env.text? k.source) : Wrong env' fault := by
  have host (same : env'.text? "CONSOLE_HOST" = env.text? "CONSOLE_HOST") :
      hostOf env' = hostOf env := by rw [hostOf, hostOf, same]
  cases h with
  | port said noPort =>
    obtain rfl : Setting.port = k := Option.some.inj blamed
    exact .port (same.trans said) noPort
  | renderMode said noMode told =>
    obtain rfl : Setting.mode = k := Option.some.inj blamed
    exact .renderMode (same.trans said) noMode told
  | blankHost blank =>
    obtain rfl : Setting.host = k := Option.some.inj blamed
    exact .blankHost (host same ▸ blank)
  | hostCharacters notBlank breaks =>
    obtain rfl : Setting.host = k := Option.some.inj blamed
    rw [← host same] at notBlank breaks ⊢
    exact .hostCharacters notBlank breaks

/-- What there has to be for an environment and a file to be refused or to give settings. -/
theorem load_file_ok {file : List UInt8} {r : Except ConsoleError Settings}
    (h : load env (some file) = .ok r) :
    ∃ full : Environment, full.Keeps env ∧ ofEnvironment full = r ∧ ∀ k : Setting,
      full.text? k.source =
        (env.text? k.source).or (EnvFile.firstText (EnvFile.assignedBy env file) k.source) := by
  obtain ⟨full, completed, given⟩ := load_eq_ok h
  obtain ⟨keeps, texts⟩ := (EnvFile.load_completes env file).texts completed
  exact ⟨full, keeps, given, fun k => texts k.source k.source_plain⟩

theorem load_file_error_iff {file : List UInt8} {u : Unassignable} :
    load env (some file) = .error u ↔ env.text? u.name = none ∧
      EnvFile.firstText (EnvFile.assignedBy env file) u.name = some u.text ∧
        '\x00' ∈ u.text.toList := by
  rw [← (EnvFile.load_completes env file).refusal_iff]
  cases completed : EnvFile.load env file <;> simp [load, completed, Except.map]

/-- Settings can be compared, the outcomes of loading cannot. -/
theorem load_of_toOptions {file : Option (List UInt8)} {s : Settings}
    (h : (load env file).toOption.bind Except.toOption = some s) :
    load env file = .ok (.ok s) := by
  cases loaded : load env file with
  | error u => simp [loaded, Except.toOption] at h
  | ok r =>
    cases r with
    | error e => simp [loaded, Except.toOption] at h
    | ok t =>
      obtain rfl : t = s := by simpa [loaded, Except.toOption] using h
      rfl

/-- A setting whose variable is set to a text is what that says, with any file and without one. -/
theorem load_gives {file : Option (List UInt8)} {s : Settings} {text : String}
    (h : load env file = .ok (.ok s)) (said : env.text? k.source = some text) :
    k.Gives s (some text) := by
  cases file with
  | none =>
    have gives := (ofEnvironment_ok (Except.ok.inj h)).2 k
    rwa [said] at gives
  | some file =>
    obtain ⟨full, -, given, texts⟩ := load_file_ok h
    have gives := (ofEnvironment_ok given).2 k
    rwa [texts k, said, Option.some_or] at gives

end

/-- **The environment wins over the file.** A file is refused only for the first text it assigns to
a variable that has none, if no variable can have that text. Else the settings are those of another
environment without a file, which has all texts of the given one and for the settings without one
what the file assigns first, as far as it is read. So a setting with a text in the environment is
the same with any file, and what is refused is refused for a fault of the environment itself, or for
one of a setting that it leaves to the file; faults of the environment are not mended. Behind a line
that is malformed a file that is closed may go on as it likes. -/
theorem environment_wins (env : Environment) (file : List UInt8) :
    let made := EnvFile.assignedBy env file
    (∀ u, load env (some file) = .error u ↔ env.text? u.name = none ∧
      EnvFile.firstText made u.name = some u.text ∧ '\x00' ∈ u.text.toList) ∧
    (∀ r, load env (some file) = .ok r → ∃ full : Environment, full.Keeps env ∧
      load full none = .ok r ∧ ∀ k : Setting,
        full.text? k.source = (env.text? k.source).or (EnvFile.firstText made k.source)) ∧
    (∀ s, load env (some file) = .ok (.ok s) → ∀ k : Setting,
      k.Gives s ((env.text? k.source).or (EnvFile.firstText made k.source)) ∧
      ((env.text? k.source).isSome = true → ∀ file' s', load env file' = .ok (.ok s') →
        k.Same s s')) ∧
    (∀ e, load env (some file) = .ok (.error e) → ∃ fault, e = .config fault ∧
      (Wrong env fault ∨ ∃ k : Setting, blamed? fault = some k ∧ env.text? k.source = none ∧
        (EnvFile.firstText made k.source).isSome = true)) ∧
    (∀ fault, Wrong env fault → ∀ s, load env (some file) ≠ .ok (.ok s)) ∧
    (EnvFile.BreaksOff file → ∀ more,
      load env (some (file ++ more)) = load env (some file)) := by
  intro made
  refine ⟨?_, ?_, ?_, ?_, ?_, ?_⟩
  · intro u
    exact load_file_error_iff
  · intro r loaded
    obtain ⟨full, keeps, given, texts⟩ := load_file_ok loaded
    exact ⟨full, keeps, (load_none full).mpr given, texts⟩
  · intro s loaded k
    obtain ⟨full, -, given, texts⟩ := load_file_ok loaded
    refine ⟨texts k ▸ (ofEnvironment_ok given).2 k, ?_⟩
    intro set file' s' loaded'
    obtain ⟨text, said⟩ := Option.isSome_iff_exists.mp set
    exact (load_gives loaded said).unique (load_gives loaded' said)
  · intro e refused
    obtain ⟨full, -, given, texts⟩ := load_file_ok refused
    obtain ⟨fault, told, wrong, -⟩ := ofEnvironment_error given
    refine ⟨fault, told, ?_⟩
    obtain ⟨k, blamed, set⟩ := wrong.blamed
    rw [texts k] at set
    cases said : env.text? k.source with
    | some text =>
      left
      apply wrong.congr blamed
      rw [texts k, said, Option.some_or]
    | none =>
      right
      rw [said, Option.none_or] at set
      exact ⟨k, blamed, said, set⟩
  · intro fault wrong s loaded
    obtain ⟨full, -, given, texts⟩ := load_file_ok loaded
    obtain ⟨k, blamed, set⟩ := wrong.blamed
    obtain ⟨text, said⟩ := Option.isSome_iff_exists.mp set
    apply (ofEnvironment_ok given).1 fault
    apply wrong.congr blamed
    rw [texts k, said, Option.some_or]
  · intro broken more
    exact congrArg (Except.map ofEnvironment) (EnvFile.load_behind broken more)

/-- An environment that asks for a host only. -/
def hostedEnvironment : Environment := ⟨[("CONSOLE_HOST", Utf8.encode "jobs".toList)]⟩

/-- A file that assigns a host, two paths of which the first tells the host, and then something that
is no assignment. -/
def brokenFile : List UInt8 :=
  Utf8.encode
    "CONSOLE_HOST=other\nCONSOLE_PATH='/'\"$\x7bCONSOLE_HOST\x7d\"\nCONSOLE_PATH=/x\n=\n".toList

theorem environment_wins_of_broken_file :
    let s : Settings := { defaults with host := "jobs", path := "/jobs" }
    EnvFile.BreaksOff brokenFile ∧
      load hostedEnvironment (some (brokenFile ++ Utf8.encode "CONSOLE_PORT=x\n".toList)) =
        .ok (.ok s) ∧
      ∀ s', load hostedEnvironment none = .ok (.ok s') → Setting.host.Same s s' := by
  intro s
  have broken : EnvFile.BreaksOff brokenFile := by
    constructor
    case closed => decide +kernel
    case fault => exact .inl ⟨['='], by decide +kernel, by decide +kernel⟩
  have loaded : load hostedEnvironment (some brokenFile) = .ok (.ok s) :=
    load_of_toOptions (by decide +kernel)
  obtain ⟨-, -, gives, -, -, behind⟩ := environment_wins hostedEnvironment brokenFile
  refine ⟨broken, (behind broken _).trans loaded, fun s' loaded' => ?_⟩
  exact (gives s loaded .host).2 (by decide +kernel) none s' loaded'

def settledEnvironment : Environment where
  bindings :=
    [("CONSOLE_HOST", Utf8.encode "jobs".toList), ("CONSOLE_PORT", Utf8.encode "81".toList),
      ("CONSOLE_PATH", Utf8.encode "/".toList), ("CONSOLE_RENDER_MODE", Utf8.encode "raw".toList),
      ("CONSOLE_CONNECT_TIMEOUT_SECS", Utf8.encode "1".toList),
      ("CONSOLE_MAX_PAYLOAD_BYTES", Utf8.encode "2".toList),
      ("CONSOLE_LOG_CAPACITY", Utf8.encode "3".toList)]

/-- A file with a note that has the character in it that ends a value. -/
def noteFile : List UInt8 := Utf8.encode "NOTE=a\x00b\n".toList

/-- All settings are in the environment, and the file has an assignment that is about none of them.
Still no settings come of the two, nor a fault, as they do of all environments without a file. -/
theorem file_stops_program :
    (∀ k : Setting, (settledEnvironment.text? k.source).isSome = true) ∧
      load settledEnvironment none = .ok (.ok ⟨"jobs", 81, "/", 1, 2, .raw, 3⟩) ∧
      load settledEnvironment (some noteFile) = .error ⟨"NOTE", "a\x00b"⟩ ∧
      ∀ full, load full none ≠ load settledEnvironment (some noteFile) := by
  have stopped : load settledEnvironment (some noteFile) = .error ⟨"NOTE", "a\x00b"⟩ :=
    load_file_error_iff.mpr ⟨by decide +kernel, by decide +kernel, by decide +kernel⟩
  refine ⟨?_, load_of_toOption (by decide +kernel), stopped, ?_⟩
  · intro k
    cases k <;> decide +kernel
  · intro full
    rw [stopped]
    nofun

end Settings

end JobConsole
