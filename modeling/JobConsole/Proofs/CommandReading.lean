import JobConsole.Command
import JobConsole.Proofs.Json.Skipping
import JobConsole.Proofs.Sentences

/-!
# The command in a message

A text is read as a message, all of it, and as a command, of which only the name is kept:

* `Json.Names`: what stands in a text that is read as a command of a name;
* `Command.decode_iff_names`: no other message is read as a command;
* `readers_agree`: the name is the one that a look into the message finds.
-/

namespace JobConsole

open Json

/-! ## The name in what stands in a text -/

/-- What stands in a text that is read as the command of a name: an object in which only one member
has the key, or a list of the name alone. -/
inductive Json.Names : Json → String → Prop
  | member {pairs : List (String × Json)} {name : String}
      (only : pairs.filter (·.1 = Command.key) = [(Command.key, .string name)]) :
      Names (.object pairs) name
  | element (name : String) : Names (.array [.string name]) name

namespace Command

/-- The name in members of an object, where one may have been found before them. A second name is
refused, and so is one that is no string. -/
def nameAmong : (found : Option String) → List (String × Json) → Option String
  | found, [] => found
  | found, (k, v) :: pairs =>
    if k = key then
      match found, v with
      | none, .string name => nameAmong (some name) pairs
      | _, _ => none
    else nameAmong found pairs

/-- The name in what stands in a text. -/
def nameIn : Json → Option String
  | .object pairs => nameAmong none pairs
  | .array [.string name] => some name
  | _ => none

theorem nameAmong_some {found name : String} {pairs : List (String × Json)} :
    nameAmong (some found) pairs = some name ↔ found = name ∧ pairs.filter (·.1 = key) = [] := by
  induction pairs with
  | nil => simp [nameAmong]
  | cons pair pairs ih =>
    obtain ⟨k, v⟩ := pair
    by_cases same : k = key
    · simp [nameAmong, same]
    · simpa [nameAmong, same] using ih

theorem nameAmong_none {name : String} {pairs : List (String × Json)} :
    nameAmong none pairs = some name ↔ pairs.filter (·.1 = key) = [(key, .string name)] := by
  induction pairs with
  | nil => simp [nameAmong]
  | cons pair pairs ih =>
    obtain ⟨k, v⟩ := pair
    by_cases same : k = key
    · cases v with
      | string s => simpa [nameAmong, same] using nameAmong_some
      | null | bool | integer | float | array | object => simp [nameAmong, same]
    · simpa [nameAmong, same] using ih

theorem nameIn_iff {written : Json} {name : String} :
    nameIn written = some name ↔ written.Names name := by
  constructor
  · intro found
    unfold nameIn at found
    split at found
    · exact .member (nameAmong_none.mp found)
    · obtain rfl := Option.some.inj found
      exact .element _
    · cases found
  · intro names
    cases names with
    | member only => exact nameAmong_none.mpr only
    | element => rfl

end Command

theorem Json.lookup_eq_head? (pairs : List (String × Json)) (k : String) :
    pairs.lookup k = ((pairs.filter (·.1 = k)).head?).map Prod.snd := by
  induction pairs with
  | nil => rfl
  | cons pair pairs ih =>
    obtain ⟨k', v⟩ := pair
    by_cases same : k' = k
    · simp [same]
    · simp [List.lookup_cons, beq_eq_false_iff_ne.mpr (Ne.symm same), same, ih]

/-! ## The two readers side by side -/

namespace Json

/-- A value that is not nested is a string if it begins with a quote, and else it is none. -/
theorem scalar_cases {cs rest : List Char} {v : Json} (h : scalar cs = .ok (v, rest)) :
    (∃ s inside, v = .string s ∧ cs = '"' :: inside ∧ readString inside = .ok (s, rest)) ∨
      (∀ s, v ≠ .string s) ∧ ∀ inside, cs ≠ '"' :: inside := by
  unfold scalar at h
  split at h
  · cases h
  · obtain rfl := (word_ok h).1
    exact .inr ⟨nofun, nofun⟩
  · obtain rfl := (word_ok h).1
    exact .inr ⟨nofun, nofun⟩
  · obtain rfl := (word_ok h).1
    exact .inr ⟨nofun, nofun⟩
  · exact .inr ⟨(number_ok h).2, nofun⟩
  · split at h
    · next read =>
      obtain ⟨rfl, rfl⟩ := Prod.mk.inj (Except.ok.inj h)
      exact .inl ⟨_, _, rfl, rfl, read⟩
    · cases h
  · next c tail _ _ _ _ noQuote =>
    split at h
    · refine .inr ⟨(number_ok h).2, ?_⟩
      rintro inside same
      exact noQuote (List.cons.inj same).1
    · cases h

end Json

namespace Command

section
variable {rounds nesting : Nat} {cs rest : List Char}

/-- A string is read as a name, and nothing else is. -/
theorem readName_of_read {v : Json} (h : scriptValue rounds nesting cs = .ok (v, rest)) :
    (∃ s, v = .string s ∧ readName cs = .ok (s, rest)) ∨
      (∀ s, v ≠ .string s) ∧ ∃ refusal, readName cs = .error refusal := by
  have refused (noQuote : ∀ inside, skipSpace cs ≠ '"' :: inside) :
      ∃ refusal, readName cs = .error refusal := by
    unfold readName
    split
    · next same => exact absurd same (noQuote _)
    · exact ⟨_, rfl⟩
  obtain ⟨inside, list⟩ | ⟨inside, object⟩ | ⟨list, object⟩ := opening_cases (skipSpace cs)
  · refine .inr ⟨?_, refused (by simp [list])⟩
    rintro s rfl
    cases nesting with
    | zero => simp [scriptValue, list] at h
    | succ nesting =>
      simp only [scriptValue, list] at h
      split at h <;> cases h
  · refine .inr ⟨?_, refused (by simp [object])⟩
    rintro s rfl
    cases nesting with
    | zero => simp [scriptValue, object] at h
    | succ nesting =>
      simp only [scriptValue, object] at h
      split at h <;> cases h
  · rw [scriptValue_flat list object] at h
    obtain ⟨s, inside, rfl, quote, read⟩ | ⟨notString, noQuote⟩ := scalar_cases h
    · exact .inl ⟨s, rfl, by simp [readName, quote, read]⟩
    · exact .inr ⟨notString, refused noQuote⟩

/-- Behind a member the decoder goes on with the name that it has then, or it refuses the member, and
then there is no name whatever comes behind. -/
theorem readValue_of_read {limit : Nat} {k : String} {v : Json} {value : List Char}
    (colon : passColon cs = .ok value) (h : scriptValue rounds nesting value = .ok (v, rest))
    (enough : value.length < limit) (found : Option String) :
    (∃ next, readValue limit k found cs = .ok (next, rest) ∧
        ∀ members, nameAmong found ((k, v) :: members) = nameAmong next members) ∨
      (∃ refusal, readValue limit k found cs = .error refusal ∧
        ∀ members, nameAmong found ((k, v) :: members) = none) := by
  by_cases same : k = key
  · cases found with
    | some earlier =>
      refine .inr ⟨.mismatched, by simp [readValue, same], ?_⟩
      intro members
      simp [nameAmong, same]
    | none =>
      obtain ⟨s, rfl, read⟩ | ⟨notString, refusal, refused⟩ := readName_of_read h
      · refine .inl ⟨some s, by simp [readValue, same, colon, read], ?_⟩
        intro members
        simp [nameAmong, same]
      · refine .inr ⟨refusal, by simp [readValue, same, colon, refused], ?_⟩
        intro members
        cases v with
        | string s => exact absurd rfl (notString s)
        | null | bool | integer | float | array | object => simp [nameAmong, same]
  · refine .inl ⟨found, ?_, ?_⟩
    · simp [readValue, same, colon, skipValue_of_read h enough]
    · intro members
      simp [nameAmong, same]

/-- The members that the one reader keeps give the name that the other finds. -/
theorem readMembers_of_read {limit : Nat} {atEnd : Flaw} {rev pairs : List (String × Json)}
    {parts more : Nat} (h : memberPairs (scriptValue rounds nesting) parts atEnd rev cs =
      .ok (pairs, rest)) (enough : cs.length < limit) (within : parts ≤ more) :
    ∃ members, pairs = rev.reverse ++ members ∧ ∀ found,
      (readMembers limit more atEnd found cs).toOption =
        (nameAmong found members).map fun name => (⟨name⟩, rest) := by
  induction parts generalizing atEnd rev cs more with
  | zero => cases h
  | succ parts ih =>
    obtain ⟨more, rfl⟩ : ∃ less, more = less + 1 := ⟨more - 1, by omega⟩
    rw [memberPairs] at h
    split at h
    · cases h
    · next pair after read =>
      obtain ⟨k, v⟩ := pair
      obtain ⟨behindKey, value, keyRead, colon, valueRead⟩ := readMember_ok read
      have shorter := (skipKey_of_read keyRead colon).2
      have shorter' := (scriptValue_passed valueRead).shorter
      have inside : value.length < limit := by omega
      have step (found : Option String) := readValue_of_read (k := k) colon valueRead inside found
      split at h
      · cases h
      · next closes =>
        obtain ⟨rfl, rfl⟩ := Prod.mk.inj (Except.ok.inj h)
        refine ⟨[(k, v)], List.reverse_cons, ?_⟩
        intro found
        obtain ⟨next, goes, names⟩ | ⟨refusal, refused, names⟩ := step found
        · rw [names]
          simp only [readMembers, keyRead, goes, closes, nameAmong]
          cases next <;> rfl
        · rw [names]
          simp only [readMembers, keyRead, refused]
          rfl
      · next behind comma =>
        split at h
        · cases h
        · have le := skipSpace_length after
          have le' := skipSpace_length behind
          rw [comma, List.length_cons] at le
          have inside : (skipSpace behind).length < limit := by omega
          obtain ⟨members, rfl, others⟩ := ih h inside (Nat.le_of_succ_le_succ within)
          refine ⟨(k, v) :: members, by simp, ?_⟩
          intro found
          obtain ⟨next, goes, names⟩ | ⟨refusal, refused, names⟩ := step found
          · rw [names, ← others next]
            simp only [readMembers, keyRead, goes, comma]
          · rw [names]
            simp only [readMembers, keyRead, refused]
            rfl
      · cases h

theorem readObject_of_read {limit parts : Nat} {inside : List Char} {pairs : List (String × Json)}
    (h : objectTail (scriptValue rounds nesting) parts inside = .ok (pairs, rest))
    (enough : inside.length < limit) (within : parts ≤ limit) :
    (readObject limit inside).toOption =
      (nameIn (.object pairs)).map fun name => (⟨name⟩, rest) := by
  unfold objectTail at h
  split at h
  · next closes =>
    obtain ⟨rfl, rfl⟩ := Prod.mk.inj (Except.ok.inj h)
    simp only [readObject, closes]
    rfl
  · have le := skipSpace_length inside
    have within' : (skipSpace inside).length < limit := by omega
    obtain ⟨members, rfl, names⟩ := readMembers_of_read h within' within
    simp only [readObject]
    exact names none

/-- The elements of a list are one value and its end, or one behind the other. -/
theorem elements_cases {item : List Char → Scan Json} {parts : Nat} {rev items : List Json}
    (h : elements item parts rev cs = .ok (items, rest)) :
    ∃ v after, item cs = .ok (v, after) ∧
      ((skipSpace after = ']' :: rest ∧ items = rev.reverse ++ [v]) ∨
        ∃ behind w more, skipSpace after = ',' :: behind ∧ items = rev.reverse ++ v :: w :: more) := by
  induction parts generalizing rev cs with
  | zero => cases h
  | succ parts ih =>
    rw [elements] at h
    split at h
    · cases h
    · next v after read =>
      refine ⟨v, after, read, ?_⟩
      split at h
      · cases h
      · next closes =>
        obtain ⟨rfl, rfl⟩ := Prod.mk.inj (Except.ok.inj h)
        exact .inl ⟨closes, List.reverse_cons⟩
      · next behind comma =>
        split at h
        · cases h
        · obtain ⟨w, after', -, ⟨-, rfl⟩ | ⟨behind', w', more, -, rfl⟩⟩ := ih h
          · exact .inr ⟨behind, w, [], comma, by simp⟩
          · exact .inr ⟨behind, w, w' :: more, comma, by simp⟩
      · cases h

theorem readList_of_read {parts : Nat} {inside : List Char} {items : List Json}
    (h : listTail (scriptValue rounds nesting) parts inside = .ok (items, rest)) :
    (readList inside).toOption = (nameIn (.array items)).map fun name => (⟨name⟩, rest) := by
  unfold listTail at h
  split at h
  · cases h
  · next closes =>
    obtain ⟨rfl, rfl⟩ := Prod.mk.inj (Except.ok.inj h)
    simp only [readList, closes]
    rfl
  · next =>
    obtain ⟨v, after, read, rest⟩ := elements_cases h
    obtain ⟨s, rfl, name⟩ | ⟨notString, refusal, refused⟩ := readName_of_read read
    · obtain ⟨closes, rfl⟩ | ⟨behind, w, more, comma, rfl⟩ := rest
      · simp only [readList, name, closes]
        rfl
      · simp only [readList, name, comma]
        rfl
    · have none : nameIn (.array items) = none := by
        obtain ⟨-, rfl⟩ | ⟨behind, w, more, -, rfl⟩ := rest
        · cases v with
          | string s => exact absurd rfl (notString s)
          | null | bool | integer | float | array | object => rfl
        · cases v <;> rfl
      simp only [readList, refused, none]
      rfl

theorem read_of_script {limit : Nat} {written : Json}
    (h : scriptValue rounds (nesting + 1) cs = .ok (written, rest)) (enough : cs.length < limit)
    (within : rounds ≤ limit) :
    (read limit cs).toOption = (nameIn written).map fun name => (⟨name⟩, rest) := by
  have le := skipSpace_length cs
  obtain ⟨inside, list⟩ | ⟨inside, object⟩ | ⟨list, object⟩ := opening_cases (skipSpace cs)
  · simp only [scriptValue, list] at h
    split at h
    · next items =>
      obtain ⟨rfl, rfl⟩ := Prod.mk.inj (Except.ok.inj h)
      simp only [read, list]
      exact readList_of_read items
    · cases h
  · simp only [scriptValue, object] at h
    rw [object, List.length_cons] at le
    split at h
    · next members =>
      obtain ⟨rfl, rfl⟩ := Prod.mk.inj (Except.ok.inj h)
      simp only [read, object]
      exact readObject_of_read members (by omega) within
    · cases h
  · rw [scriptValue_flat list object] at h
    have flat : Readable 0 written := scalar_readable h
    have none : nameIn written = none := by
      cases flat <;> rfl
    rw [none]
    unfold read
    split
    · next same => exact absurd same (object _)
    · next same => exact absurd same (list _)
    · split <;> rfl
    · rfl

/-- A message is read as a command if it is an object with one member of the key, which is a string,
or a list of one string; the name is that string. -/
theorem decode_iff_names {text : String} {written : Json} (h : script text = some written)
    {name : String} : decode text = .ok ⟨name⟩ ↔ written.Names name := by
  unfold script at h
  split at h
  · next value rest found =>
    split at h
    · next finished =>
      obtain rfl : value = written := Option.some.inj h
      have enough : text.toList.length < text.toList.length + 1 := Nat.lt_succ_self _
      have read := read_of_script found enough (Nat.le_of_lt enough)
      rw [← nameIn_iff]
      unfold decode
      cases name' : nameIn value with
      | none =>
        rw [name'] at read
        cases result : Command.read (text.toList.length + 1) text.toList with
        | error refusal => simp [result]
        | ok found => rw [result] at read; cases read
      | some n =>
        rw [name'] at read
        cases result : Command.read (text.toList.length + 1) text.toList with
        | error refusal => rw [result] at read; cases read
        | ok found =>
          obtain rfl : found = (⟨n⟩, rest) := by simpa [result, Except.toOption] using read
          simp [result, finished]
    · cases h
  · cases h

end

end Command

/-- **The two readers agree on commands.** A text that is read as a message is read as the command of
a name if what stands in it is an object in which exactly one member has the key `command`, and this
member is the name, or a list of the name alone; and then the name is what stands in the message
under this key, or is its only element. -/
theorem readers_agree {text : String} {message : Json} (h : parseMessage text = .ok message) :
    ∃ written, Json.script text = some written ∧ written.resolve = message ∧ ∀ name,
      (Command.decode text = .ok ⟨name⟩ ↔
        (∃ pairs, written = .object pairs ∧
          pairs.filter (·.1 = "command") = [("command", .string name)]) ∨
        written = .array [.string name]) ∧
      (Command.decode text = .ok ⟨name⟩ →
        (message.isObject = true ∧ message.get? "command" = some (.string name)) ∨
          message = .array [.string name]) := by
  obtain ⟨written, stands, rfl⟩ := parseMessage_iff_script.mp h
  refine ⟨written, stands, rfl, ?_⟩
  intro name
  rw [Command.decode_iff_names stands]
  constructor
  · constructor
    · intro names
      cases names with
      | member only => exact .inl ⟨_, rfl, only⟩
      | element => exact .inr rfl
    · rintro (⟨pairs, rfl, only⟩ | rfl)
      · exact .member only
      · exact .element name
  · intro names
    cases names with
    | @member pairs _ only =>
      refine .inl ⟨rfl, ?_⟩
      rw [Json.get?_resolve, Json.last?, Json.lookup_eq_head?, List.filter_reverse,
        show pairs.filter (·.1 = "command") = [("command", .string name)] from only]
      rfl
    | element => exact .inr rfl

/-- A command among members of no concern, with escapes in its key and in its name. -/
def knottyCommand : String :=
  "\x7b\"by\": \x7b\"command\": [\"\\ud83e\\udd80\", \x7b\x7d]\x7d, " ++
    "\"\\u0063ommand\":\"l\\u0069st\", \"n\":-5\x7d"

theorem readers_agree_of_knotty :
    ∃ message, parseMessage knottyCommand = .ok message ∧
      Command.decode knottyCommand = .ok ⟨"list"⟩ ∧
      message.get? "command" = some (.string "list") := by
  let pairs : List (String × Json) :=
    [("by", .object [("command", .array [.string "🦀", .object []])]), ("command", .string "list"),
      ("n", .integer (-5))]
  have stands : Json.script knottyCommand = some (.object pairs) := rfl
  have parsed := parseMessage_iff_script.mpr ⟨_, stands, rfl⟩
  obtain ⟨written, stands', -, agree⟩ := readers_agree parsed
  obtain rfl : Json.object pairs = written := Option.some.inj (stands.symm.trans stands')
  have decoded := (agree "list").1.mpr (.inl ⟨pairs, rfl, rfl⟩)
  obtain ⟨-, looked⟩ | other := (agree "list").2 decoded
  · exact ⟨_, parsed, decoded, looked⟩
  · cases other

end JobConsole
