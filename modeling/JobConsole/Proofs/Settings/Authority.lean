import JobConsole.Proofs.Settings.Endpoint
import JobConsole.Socket.Connection

/-!
# Authorities

The authority of an address is the text between its scheme and its path. It is read by the rule
`[userinfo@]host[:port]`:

* `Authority.Reading.text_injective`: in one way at most;
* `Settings.authority_readings`: with the port of the settings whenever it can be read, but with their
  host only if that host could stand in an authority by itself;
* `Settings.authority_hides_user`: which the check of the host does not see to.
-/

namespace JobConsole

namespace Authority

/-! ## The rule -/

/-- The characters that stand for themselves. -/
def isUnreserved (c : Char) : Bool := c.isAlphanum || "-._~".toList.contains c

/-- The characters that may divide the text of a part. -/
def isDelimiter (c : Char) : Bool := "!$&'()*+,;=".toList.contains c

def isPartChar (c : Char) : Bool := isUnreserved c || isDelimiter c || c == ':'

def isHexDigit (c : Char) : Bool := c.isDigit || "abcdefABCDEF".toList.contains c

def isControl (c : Char) : Bool := c.toNat < 0x20 || (0x7F ≤ c.toNat && c.toNat < 0xA0)

/-- The text before the at sign. -/
def isUser : List Char → Bool
  | [] => true
  | '%' :: high :: low :: rest => isHexDigit high && isHexDigit low && isUser rest
  | c :: rest => isPartChar c && isUser rest

/-- Sixteen bits. -/
structure IsPiece (cs : List Char) : Prop where
  some : cs ≠ []
  few : cs.length ≤ 4
  digits : ∀ c ∈ cs, isHexDigit c = true

/-- Thirty-two bits, eight at a time. -/
inductive IsQuad : List Char → Prop
  | mk {a b c d : Nat} (small : a < 256 ∧ b < 256 ∧ c < 256 ∧ d < 256) :
    IsQuad ((toString a).toList ++ '.' :: ((toString b).toList ++ '.' ::
      ((toString c).toList ++ '.' :: (toString d).toList)))

/-- So many pieces with colons between them. The last two may be a quad where `quad` says so. -/
inductive Pieces (quad : Bool) : Nat → List Char → Prop
  | one {cs : List Char} (piece : IsPiece cs) : Pieces quad 1 cs
  | two {cs : List Char} (allowed : quad = true) (four : IsQuad cs) : Pieces quad 2 cs
  | more {n : Nat} {cs rest : List Char} (piece : IsPiece cs) (others : Pieces quad n rest) :
    Pieces quad (n + 1) (cs ++ ':' :: rest)

/-- So many pieces, or nothing. -/
inductive MaybePieces (quad : Bool) : Nat → List Char → Prop
  | none : MaybePieces quad 0 []
  | some {n : Nat} {cs : List Char} (pieces : Pieces quad n cs) : MaybePieces quad n cs

/-- What may stand in brackets: an address of eight pieces, of which some in a row may be left out,
or one of a version to come. -/
inductive IsBracketed : List Char → Prop
  | whole {cs : List Char} (pieces : Pieces true 8 cs) : IsBracketed cs
  | short {n m : Nat} {front back : List Char} (before : MaybePieces false n front)
    (after : MaybePieces true m back) (room : n + m ≤ 7) : IsBracketed (front ++ ':' :: ':' :: back)
  | future {v : Char} {version address : List Char} (letter : v = 'v' ∨ v = 'V')
    (numbered : version ≠ [] ∧ ∀ c ∈ version, isHexDigit c = true)
    (said : address ≠ [] ∧ ∀ c ∈ address, isPartChar c = true) :
    IsBracketed (v :: (version ++ '.' :: address))

inductive IsLiteral : List Char → Prop
  | mk {cs : List Char} (inside : IsBracketed cs) : IsLiteral ('[' :: (cs ++ [']']))

def isNameChar (c : Char) : Bool := c != ':' && c != '@' && !isBlank c && !isControl c

/-- A host is an address in brackets or a name. A name may be empty. -/
def IsHost (cs : List Char) : Prop := IsLiteral cs ∨ ∀ c ∈ cs, isNameChar c = true

@[ext]
structure Reading where
  user : Option (List Char)
  host : List Char
  port : Option (List Char)
  deriving DecidableEq, Repr

namespace Reading

/-- The text before the port. -/
def place (r : Reading) : List Char :=
  match r.user with
  | none => r.host
  | some user => user ++ '@' :: r.host

def text (r : Reading) : List Char :=
  match r.port with
  | none => r.place
  | some port => r.place ++ ':' :: port

structure WellFormed (r : Reading) : Prop where
  user : ∀ user, r.user = some user → isUser user = true
  host : IsHost r.host
  port : ∀ port, r.port = some port → ∀ c ∈ port, c.isDigit = true

structure Of (r : Reading) (authority : List Char) : Prop where
  wellFormed : r.WellFormed
  text : r.text = authority

end Reading

/-! ## Characters -/

theorem isPartChar_of_isDigit {c : Char} (h : c.isDigit = true) : isPartChar c = true := by
  simp [isPartChar, isUnreserved, Char.isAlphanum, h]

theorem isPartChar_of_isHexDigit {c : Char} (h : isHexDigit c = true) : isPartChar c = true := by
  rw [isHexDigit, Bool.or_eq_true] at h
  obtain digit | letter := h
  · exact isPartChar_of_isDigit digit
  · have all : "abcdefABCDEF".toList.all isPartChar = true := by decide
    exact List.all_eq_true.mp all c (List.contains_iff_mem.mp letter)

theorem IsQuad.chars {cs : List Char} (h : IsQuad cs) : ∀ c ∈ cs, isPartChar c = true := by
  obtain ⟨-⟩ := h
  have number : ∀ n : Nat, ∀ c ∈ (toString n).toList, isPartChar c = true := fun n c hc =>
    isPartChar_of_isDigit (Settings.digits_toString n c hc)
  have dot : isPartChar '.' = true := by decide
  simp only [List.forall_mem_append, List.forall_mem_cons]
  exact ⟨number _, dot, number _, dot, number _, dot, number _⟩

theorem IsPiece.chars {cs : List Char} (h : IsPiece cs) : ∀ c ∈ cs, isPartChar c = true :=
  fun c hc => isPartChar_of_isHexDigit (h.digits c hc)

theorem Pieces.chars {quad : Bool} {n : Nat} {cs : List Char} (h : Pieces quad n cs) :
    ∀ c ∈ cs, isPartChar c = true := by
  induction h with
  | one piece => exact piece.chars
  | two _ four => exact four.chars
  | more piece _ ih =>
    simp only [List.forall_mem_append, List.forall_mem_cons]
    exact ⟨piece.chars, rfl, ih⟩

theorem MaybePieces.chars {quad : Bool} {n : Nat} {cs : List Char} (h : MaybePieces quad n cs) :
    ∀ c ∈ cs, isPartChar c = true := by
  cases h with
  | none => nofun
  | some pieces => exact pieces.chars

theorem IsBracketed.chars {cs : List Char} (h : IsBracketed cs) : ∀ c ∈ cs, isPartChar c = true := by
  cases h with
  | whole pieces => exact pieces.chars
  | short before after _ =>
    simp only [List.forall_mem_append, List.forall_mem_cons]
    exact ⟨before.chars, rfl, rfl, after.chars⟩
  | future letter numbered said =>
    have first : ∀ v : Char, v = 'v' ∨ v = 'V' → isPartChar v = true := by
      rintro v (rfl | rfl) <;> decide
    simp only [List.forall_mem_append, List.forall_mem_cons]
    exact ⟨first _ letter, fun c hc => isPartChar_of_isHexDigit (numbered.2 c hc), by decide, said.2⟩

/-- No host has an at sign. -/
theorem IsHost.atSign {cs : List Char} (h : IsHost cs) : '@' ∉ cs := by
  intro mem
  cases h with
  | inl literal =>
    obtain @⟨inner, inside⟩ := literal
    have mem : '@' ∈ inner := by simpa using mem
    cases inside.chars '@' mem
  | inr name => cases name '@' mem

theorem IsHost.beq_atSign {cs : List Char} (h : IsHost cs) : ∀ c ∈ cs, (c == '@') = false := by
  intro c hc
  rw [beq_eq_false_iff_ne]
  rintro rfl
  exact h.atSign hc

section
variable {p : Char → Bool} {before before' after after' : List Char} {c c' : Char}

/-- A text is divided at its last hit in one way. -/
theorem last_split_unique (hit : p c = true) (hit' : p c' = true)
    (outside : ∀ d ∈ after, p d = false) (outside' : ∀ d ∈ after', p d = false)
    (same : before ++ c :: after = before' ++ c' :: after') :
    before = before' ∧ c = c' ∧ after = after' := by
  obtain ⟨first, last⟩ := Settings.last_split before hit outside
  obtain ⟨first', last'⟩ := Settings.last_split before' hit' outside'
  have front : before = before' := by rw [← first, same, first']
  have back : after = after' := by rw [← last, same, last']
  rw [front, back] at same
  have middle := List.append_cancel_left same
  exact ⟨front, (List.cons.inj middle).1, back⟩

theorem behindLast_eq_self (outside : ∀ d ∈ after, p d = false) :
    Address.behindLast p after = after := by
  have passed : ∀ d ∈ after.reverse, (!p d) = true := fun d hd => by
    simp [outside d (List.mem_reverse.mp hd)]
  have all : (after.reverse ++ []).takeWhile (fun d => !p d) = after.reverse ++ [] :=
    List.takeWhile_append_of_pos passed
  rw [List.append_nil] at all
  rw [Address.behindLast, all, List.reverse_reverse]

end

/-! ## One reading -/

namespace Reading
variable {r r' : Reading} {before port : List Char}

theorem notColon (digits : ∀ c ∈ port, c.isDigit = true) : ∀ c ∈ port, (c == ':') = false :=
  fun c hc => Settings.beq_of_isDigit (digits c hc) rfl

theorem place_literal {cs : List Char} (h : r.host = '[' :: (cs ++ [']'])) :
    r.place.getLast? = some ']' := by
  rw [List.getLast?_eq_some_iff]
  cases user : r.user with
  | none => exact ⟨'[' :: cs, by simp [place, user, h]⟩
  | some u => exact ⟨u ++ '@' :: '[' :: cs, by simp [place, user, h]⟩

/-- The text before the port has no port itself: behind its last colon there is the end of an address
in brackets, or an at sign. -/
theorem WellFormed.place_ne (h : r.WellFormed) (digits : ∀ c ∈ port, c.isDigit = true) :
    r.place ≠ before ++ ':' :: port := by
  intro same
  generalize whole : r.host = host
  cases whole ▸ h.host with
  | inl literal =>
    obtain ⟨-⟩ := literal
    -- the bracket would be a digit or the colon
    have last := place_literal whole
    rw [same, List.getLast?_append, List.getLast?_cons, Option.some_or, ← List.getLast?_cons] at last
    obtain mem | mem := List.mem_cons.mp (List.mem_of_getLast? last)
    · cases mem
    · cases digits ']' mem
  | inr name =>
    cases user : r.user with
    | none =>
      rw [place, user, whole] at same
      have mem : ':' ∈ host := by simp [same]
      cases name ':' mem
    | some u =>
      rw [place, user, whole] at same
      have behind : ∀ c ∈ host, (c == ':' || c == '@') = false := by
        intro c hc
        have inName := name c hc
        simp only [isNameChar, Bool.and_eq_true, bne_iff_ne] at inName
        simp [inName]
      have behind' : ∀ c ∈ port, (c == ':' || c == '@') = false := by
        intro c hc
        rw [notColon digits c hc, Bool.false_or]
        exact Settings.beq_of_isDigit (digits c hc) rfl
      -- of colons and at signs the last is an at sign on the left, and a colon on the right
      obtain ⟨-, sign, -⟩ :=
        last_split_unique (p := fun c => c == ':' || c == '@') rfl rfl behind behind' same
      cases sign

/-- A text that ends with a colon and digits is read with these as the port. -/
theorem WellFormed.text_eq_iff (h : r.WellFormed) (digits : ∀ c ∈ port, c.isDigit = true) :
    r.text = before ++ ':' :: port ↔ r.port = some port ∧ r.place = before := by
  cases said : r.port with
  | none =>
    rw [text, said]
    constructor
    · intro same
      exact absurd same (h.place_ne digits)
    · rintro ⟨none, -⟩
      cases none
  | some port' =>
    rw [text, said]
    constructor
    · intro same
      obtain ⟨front, -, back⟩ := last_split_unique (p := (· == ':')) rfl rfl
        (notColon (h.port port' said)) (notColon digits) same
      exact ⟨congrArg some back, front⟩
    · rintro ⟨back, front⟩
      rw [front, Option.some.inj back]

/-- A host is divided from its user in one way. -/
theorem place_injective (h : IsHost r.host) (h' : IsHost r'.host) (same : r.place = r'.place) :
    r.user = r'.user ∧ r.host = r'.host := by
  cases user : r.user with
  | none =>
    cases user' : r'.user with
    | none => simpa [place, user, user'] using same
    | some u' =>
      rw [place, place, user, user'] at same
      exact absurd (by simp [same]) h.atSign
  | some u =>
    cases user' : r'.user with
    | none =>
      rw [place, place, user, user'] at same
      exact absurd (by simp [← same]) h'.atSign
    | some u' =>
      rw [place, place, user, user'] at same
      obtain ⟨front, -, back⟩ :=
        last_split_unique (p := (· == '@')) rfl rfl h.beq_atSign h'.beq_atSign same
      exact ⟨congrArg some front, back⟩

/-- A text is read in one way at most. -/
theorem text_injective (h : r.WellFormed) (h' : r'.WellFormed) (same : r.text = r'.text) :
    r = r' := by
  have parts : r.port = r'.port ∧ r.place = r'.place := by
    cases said' : r'.port with
    | some port' =>
      have whole : r'.text = r'.place ++ ':' :: port' := by rw [text, said']
      exact (h.text_eq_iff (h'.port port' said')).mp (same.trans whole)
    | none =>
      have whole' : r'.text = r'.place := by rw [text, said']
      cases said : r.port with
      | none =>
        have whole : r.text = r.place := by rw [text, said]
        exact ⟨rfl, whole ▸ whole' ▸ same⟩
      | some port =>
        have whole : r.text = r.place ++ ':' :: port := by rw [text, said]
        exact absurd (whole' ▸ whole ▸ same.symm) (h'.place_ne (h.port port said))
  obtain ⟨user, host⟩ := place_injective h.host h'.host parts.2
  exact Reading.ext user host parts.1

/-- Behind the user of a reading stand its host and its port. -/
theorem WellFormed.behindLast_text (h : r.WellFormed) (said : r.port = some port) :
    Address.behindLast (· == '@') r.text = r.host ++ ':' :: port := by
  have behind : ∀ c ∈ r.host ++ ':' :: port, (c == '@') = false := by
    simp only [List.forall_mem_append, List.forall_mem_cons]
    exact ⟨h.host.beq_atSign, rfl, fun c hc => Settings.beq_of_isDigit (h.port port said c hc) rfl⟩
  cases user : r.user with
  | none =>
    have whole : r.text = r.host ++ ':' :: port := by simp [text, said, place, user]
    rw [whole]
    exact behindLast_eq_self behind
  | some u =>
    have whole : r.text = u ++ '@' :: (r.host ++ ':' :: port) := by simp [text, said, place, user]
    rw [whole]
    exact (Settings.last_split u rfl behind).2

end Reading

end Authority

/-! ## Endpoints -/

namespace Settings
open Authority

/-- The text between the scheme of an endpoint and its path. -/
def authority (s : Settings) : List Char :=
  (s.endpoint.toList.drop Connection.schemeLength).takeWhile fun c => !Address.endsAuthority c

/-- The host and the port of settings, without a user. -/
def reading (s : Settings) : Reading := ⟨none, s.host.toList, some (toString s.port).toList⟩

variable {s : Settings}

theorem endsAuthority_eq_false {c : Char} (h : c ∉ ['/', ' ', '?', '#']) :
    Address.endsAuthority c = false := by
  simp only [List.mem_cons, List.not_mem_nil, or_false, not_or] at h
  simp [Address.endsAuthority, h]

theorem authority_eq (valid : s.validate = .ok ()) (rooted : s.path.toList.head? = some '/') :
    s.authority = s.host.toList ++ ':' :: (toString s.port).toList := by
  obtain ⟨tail, path⟩ := List.head?_eq_some_iff.mp rooted
  have inside : ∀ c ∈ s.host.toList ++ ':' :: (toString s.port).toList,
      Address.endsAuthority c = false := by
    have others : ['/', ' ', '?', '#'].all (fun d => !d.isDigit) = true := by decide
    simp only [List.forall_mem_append, List.forall_mem_cons]
    refine ⟨fun c hc => endsAuthority_eq_false ((validate_eq_ok_iff.mp valid).2 c hc), rfl, ?_⟩
    intro c hc
    apply endsAuthority_eq_false
    intro mem
    have other := List.all_eq_true.mp others c mem
    rw [digits_toString s.port c hc] at other
    cases other
  have whole : s.endpoint.toList.drop Connection.schemeLength =
      s.host.toList ++ ':' :: (toString s.port).toList ++ '/' :: tail := by
    have scheme : Connection.schemeLength = 5 := by decide
    rw [endpoint_toList, path, scheme]
    simp [join]
  rw [authority, whole]
  exact (span_split tail rfl inside).1

theorem reading_of_iff (valid : s.validate = .ok ()) (rooted : s.path.toList.head? = some '/') :
    s.reading.Of s.authority ↔ IsHost s.host.toList := by
  constructor
  · rintro ⟨wellFormed, -⟩
    exact wellFormed.host
  · intro host
    refine ⟨⟨nofun, host, ?_⟩, ?_⟩
    · intro port said
      exact Option.some.inj said ▸ digits_toString s.port
    · rw [authority_eq valid rooted]
      rfl

/-- What an address asks for in place of a host: what is between its brackets, if it has any. -/
def bare : List Char → List Char
  | '[' :: cs => cs.dropLast
  | cs => cs

theorem splitHost_join {host port : List Char} (h : IsHost host)
    (usual : host.head? = some '[' → IsLiteral host) :
    Address.splitHost (host ++ ':' :: port) = (bare host, port) := by
  by_cases bracket : host.head? = some '['
  · obtain @⟨inner, inside⟩ := usual bracket
    have plain : ∀ c ∈ inner, (c == ']') = false := by
      intro c hc
      rw [beq_eq_false_iff_ne]
      rintro rfl
      cases inside.chars ']' hc
    obtain ⟨taken, dropped⟩ := span_split (p := (· == ']')) (c := ']') (':' :: port) rfl plain
    have split : '[' :: (inner ++ [']']) ++ ':' :: port = '[' :: (inner ++ ']' :: ':' :: port) := by
      simp
    rw [split, Address.splitHost]
    simp [bne, taken, dropped, bare]
  · cases h with
    | inl literal =>
      obtain ⟨-⟩ := literal
      exact absurd rfl bracket
    | inr name =>
      have plain : ∀ c ∈ host, (c == ':') = false := by
        intro c hc
        rw [beq_eq_false_iff_ne]
        rintro rfl
        cases name ':' hc
      obtain ⟨taken, dropped⟩ := span_split (p := (· == ':')) (c := ':') port rfl plain
      have same : bare host = host := by
        unfold bare
        split
        · exact absurd rfl bracket
        · rfl
      unfold Address.splitHost
      split
      · next cs first =>
        have head := congrArg List.head? first
        cases host with
        | nil => cases head
        | cons c host => exact absurd head bracket
      · simp [bne, taken, dropped, same]

/-- Where the authority of an endpoint is read, its host is what the endpoint asks for. -/
theorem parts_of_reading (valid : s.validate = .ok ()) (rooted : s.path.toList.head? = some '/')
    {r : Reading} (h : r.Of s.authority) (usual : r.host.head? = some '[' → IsLiteral r.host) :
    (Address.parts Connection.schemeLength s.endpoint).host = String.ofList (bare r.host) := by
  obtain ⟨port, -⟩ :=
    (h.wellFormed.text_eq_iff (digits_toString s.port)).mp (h.text.trans (authority_eq valid rooted))
  have asked : (Address.splitHost (Address.behindLast (· == '@') s.authority)).1 = bare r.host := by
    rw [← h.text, h.wellFormed.behindLast_text port, splitHost_join h.wellFormed.host usual]
  rw [authority] at asked
  simp only [Address.parts, asked]

/-- The authority of an endpoint whose host passed the check is read in one way at most: with the port
of the settings, and with a host that is their host, or what is behind a user in it. So it is read
with their host and no user if and only if that is an address in brackets or a name, which not every
host is that passes the check. Unless a name begins with a bracket, what the endpoint asks for is the
host that is read. -/
theorem authority_readings (valid : s.validate = .ok ())
    (rooted : s.path.toList.head? = some '/') :
    s.endpoint.toList = "ws://".toList ++ s.authority ++ s.path.toList ∧
    (∀ r : Reading, r.Of s.authority ↔
      r.WellFormed ∧ r.port = some (toString s.port).toList ∧ r.place = s.host.toList) ∧
    (∀ r r' : Reading, r.Of s.authority → r'.Of s.authority → r = r') ∧
    (s.reading.Of s.authority ↔ IsHost s.host.toList) ∧
    ∀ r : Reading, r.Of s.authority → (r.host.head? = some '[' → IsLiteral r.host) →
      (Address.parts Connection.schemeLength s.endpoint).host = String.ofList (bare r.host) := by
  have whole := authority_eq valid rooted
  have parts : ∀ r : Reading, r.WellFormed → (r.text = s.authority ↔
      r.port = some (toString s.port).toList ∧ r.place = s.host.toList) := by
    intro r wellFormed
    rw [whole]
    exact wellFormed.text_eq_iff (digits_toString s.port)
  refine ⟨?_, ?_, ?_, reading_of_iff valid rooted, fun r => parts_of_reading valid rooted⟩
  · rw [whole, endpoint_toList]
    simp [join]
  · intro r
    constructor
    · rintro ⟨wellFormed, text⟩
      exact ⟨wellFormed, (parts r wellFormed).mp text⟩
    · rintro ⟨wellFormed, said⟩
      exact ⟨wellFormed, (parts r wellFormed).mpr said⟩
  · intro r r' h h'
    exact Reading.text_injective h.wellFormed h'.wellFormed (h.text.trans h'.text.symm)

theorem isLiteral_loopback : IsLiteral "[::1]".toList := by
  have one : IsPiece ['1'] := ⟨nofun, by decide, List.all_eq_true.mp (by decide)⟩
  exact .mk (.short .none (.some (.one one)) (by decide))

theorem authority_readings_of_loopback :
    let s : Settings := { defaults with host := "[::1]", port := 7 }
    s.validate = .ok () ∧ s.path.toList.head? = some '/' ∧ s.reading.Of s.authority ∧
      (Address.parts Connection.schemeLength s.endpoint).host = "::1" := by
  intro s
  have valid : s.validate = .ok () := by rw [validate, if_neg (by decide), if_neg (by decide)]
  have rooted : s.path.toList.head? = some '/' := by decide
  obtain ⟨-, -, -, read, asked⟩ := authority_readings valid rooted
  have reading := read.mpr (.inl isLiteral_loopback)
  have bracketless : String.ofList (bare s.reading.host) = "::1" := by decide
  have literal : IsLiteral s.host.toList := isLiteral_loopback
  exact ⟨valid, rooted, reading, (asked s.reading reading fun _ => literal).trans bracketless⟩

/-- A host with a user in front of it passes the check. It is not the host that is asked for. -/
theorem authority_hides_user :
    let s : Settings := { defaults with host := "user@example.com" }
    let r : Reading := ⟨some "user".toList, "example.com".toList, some "9090".toList⟩
    s.validate = .ok () ∧ s.path.toList.head? = some '/' ∧ r.Of s.authority ∧
      ¬s.reading.Of s.authority ∧
      (Address.parts Connection.schemeLength s.endpoint).host = "example.com" := by
  intro s r
  have valid : s.validate = .ok () := by rw [validate, if_neg (by decide), if_neg (by decide)]
  have rooted : s.path.toList.head? = some '/' := by decide
  have wellFormed : r.WellFormed := by
    refine ⟨?_, .inr (List.all_eq_true.mp (by decide)), ?_⟩
    · intro user said
      rw [← Option.some.inj said]
      decide
    · intro port said
      rw [← Option.some.inj said]
      exact List.all_eq_true.mp (by decide)
  have text : r.text = s.authority := by decide
  refine ⟨valid, rooted, ⟨wellFormed, text⟩, ?_, by decide⟩
  intro reading
  exact reading.wellFormed.host.atSign (by decide)

end Settings

end JobConsole
