import JobConsole.Text.Utf8

namespace JobConsole.Utf8

/-! ## The octets of a character -/

theorem toNat_charOfNat {v : Nat} (h : v < 0xD800 ∨ (0xDFFF < v ∧ v < 0x110000)) :
    (Char.ofNat v).val.toNat = v := by
  have valid : v.isValidChar := h
  rw [Char.ofNat, dif_pos valid]
  rfl

section
variable {v : Nat}

theorem encodeChar_one (h : v ≤ 0x7F) : String.utf8EncodeChar (Char.ofNat v) = [.ofNat v] := by
  have value := toNat_charOfNat (v := v) (by omega)
  simp only [String.utf8EncodeChar, value, h, ↓reduceIte]

theorem encodeChar_two (lo : 0x80 ≤ v) (hi : v ≤ 0x7FF) :
    String.utf8EncodeChar (Char.ofNat v) = [.ofNat (v / 64 + 0xC0), .ofNat (v % 64 + 0x80)] := by
  have value := toNat_charOfNat (v := v) (by omega)
  have first : v / 64 % 32 = v / 64 := by omega
  simp only [String.utf8EncodeChar, value, first]
  rw [if_neg (by omega), if_pos hi]

theorem encodeChar_three (lo : 0x800 ≤ v) (hi : v ≤ 0xFFFF) (scalar : v < 0xD800 ∨ 0xDFFF < v) :
    String.utf8EncodeChar (Char.ofNat v) =
      [.ofNat (v / 4096 + 0xE0), .ofNat (v / 64 % 64 + 0x80), .ofNat (v % 64 + 0x80)] := by
  have value := toNat_charOfNat (v := v) (by omega)
  have first : v / 4096 % 16 = v / 4096 := by omega
  simp only [String.utf8EncodeChar, value, first]
  rw [if_neg (by omega), if_neg (by omega), if_pos hi]

theorem encodeChar_four (lo : 0x10000 ≤ v) (hi : v < 0x110000) :
    String.utf8EncodeChar (Char.ofNat v) =
      [.ofNat (v / 262144 + 0xF0), .ofNat (v / 4096 % 64 + 0x80), .ofNat (v / 64 % 64 + 0x80),
        .ofNat (v % 64 + 0x80)] := by
  have value := toNat_charOfNat (v := v) (by omega)
  have first : v / 262144 % 8 = v / 262144 := by omega
  simp only [String.utf8EncodeChar, value, first]
  rw [if_neg (by omega), if_neg (by omega), if_neg (by omega)]

end

/-! ## Reading one character -/

/-- The octets that are due behind a character begun, and the code they give it. -/
inductive Partial.Takes : Partial → List UInt8 → Nat → Prop
  | done {p : Partial} (owed : p.owed = 0) : p.Takes [] p.code
  | more {p : Partial} {b : UInt8} {bytes : List UInt8} {v : Nat} (owed : p.owed ≠ 0)
      (lo : p.low ≤ b.toNat) (hi : b.toNat ≤ p.high) (rest : (p.extend b.toNat).Takes bytes v) :
      p.Takes (b :: bytes) v

/-- Reading goes on with a character begun, which may be whole by now. -/
def resume (index : Nat) (p : Partial) (rev : List Char) (bytes : List UInt8) :
    Except Fault (List Char) :=
  if p.owed = 0 then decodeFrom index none (Char.ofNat p.code :: rev) bytes
  else decodeFrom index (some p) rev bytes

section
variable {index : Nat} {p : Partial} {rev cs : List Char} {b : UInt8} {bytes rest : List UInt8}

theorem decodeFrom_begin (begins : begin? index b.toNat = some p) :
    decodeFrom index none rev (b :: rest) = resume (index + 1) p rev rest := by
  by_cases owed : p.owed = 0 <;> simp [decodeFrom, step, begins, resume, owed]

theorem resume_more (owed : p.owed ≠ 0) (lo : p.low ≤ b.toNat) (hi : b.toNat ≤ p.high) :
    resume index p rev (b :: rest) = resume (index + 1) (p.extend b.toNat) rev rest := by
  by_cases last : (p.extend b.toNat).owed = 0 <;>
    simp [resume, owed, decodeFrom, step, lo, hi, last]

theorem Partial.Takes.resume {v : Nat} (h : p.Takes bytes v) (index : Nat) (rev : List Char)
    (rest : List UInt8) :
    ∃ next, Utf8.resume index p rev (bytes ++ rest) =
      decodeFrom next none (Char.ofNat v :: rev) rest := by
  induction h generalizing index with
  | done owed => exact ⟨index, by simp [Utf8.resume, owed]⟩
  | more owed lo hi _ ih =>
    obtain ⟨next, same⟩ := ih (index + 1)
    exact ⟨next, (resume_more owed lo hi).trans same⟩

/-- Reading goes on to the end of the character that was begun. -/
theorem takes_of_resume {count : Nat} (owed : p.owed = count)
    (h : resume index p rev bytes = .ok cs) :
    ∃ taken v rest next, bytes = taken ++ rest ∧ p.Takes taken v ∧
      decodeFrom next none (Char.ofNat v :: rev) rest = .ok cs := by
  induction count generalizing index p bytes with
  | zero =>
    simp only [resume, owed, ↓reduceIte] at h
    exact ⟨[], p.code, bytes, index, rfl, .done owed, h⟩
  | succ count ih =>
    have due : p.owed ≠ 0 := by omega
    cases bytes with
    | nil => simp [resume, due, decodeFrom] at h
    | cons b rest =>
      by_cases inside : p.low ≤ b.toNat ∧ b.toNat ≤ p.high
      · rw [resume_more due inside.1 inside.2] at h
        obtain ⟨taken, v, behind, next, rfl, takes, read⟩ := ih (by simp [Partial.extend, owed]) h
        exact ⟨b :: taken, v, behind, next, rfl, .more due inside.1 inside.2 takes, read⟩
      · simp [resume, due, decodeFrom, step, inside] at h

end

/-! ## The codes that octets give -/

theorem toNat_ofNat {n : Nat} (h : n < 256) : (UInt8.ofNat n).toNat = n :=
  UInt8.toNat_ofNat_of_lt' h

theorem eq_ofNat {b : UInt8} {n : Nat} (h : b.toNat = n) : b = .ofNat n := by
  rw [← h, UInt8.ofNat_toNat]

/-- What an octet that begins a character stands for, and which octets it wants behind it. -/
theorem begin?_eq_some {index b : Nat} {p : Partial} (h : begin? index b = some p) :
    (p.owed = 0 ∧ b < 0x80 ∧ p.code = b) ∨
    (p.owed = 1 ∧ 0xC2 ≤ b ∧ b < 0xE0 ∧ p.code + 0xC0 = b ∧ p.low = 0x80 ∧ p.high = 0xBF) ∨
    (p.owed = 2 ∧ 0xE0 ≤ b ∧ b < 0xF0 ∧ p.code + 0xE0 = b ∧
      p.low = (if b = 0xE0 then 0xA0 else 0x80) ∧ p.high = if b = 0xED then 0x9F else 0xBF) ∨
    (p.owed = 3 ∧ 0xF0 ≤ b ∧ b < 0xF5 ∧ p.code + 0xF0 = b ∧
      p.low = (if b = 0xF0 then 0x90 else 0x80) ∧ p.high = if b = 0xF4 then 0x8F else 0xBF) := by
  unfold begin? at h
  repeat' split at h
  all_goals cases h
  all_goals simp
  all_goals omega

theorem begin?_isSome {b : Nat} (h : b < 0x80 ∨ (0xC2 ≤ b ∧ b < 0xF5)) (index : Nat) :
    ∃ p, begin? index b = some p := by
  unfold begin?
  repeat' split
  all_goals first
    | exact ⟨_, rfl⟩
    | omega

section
variable {p : Partial} {bytes : List UInt8} {v : Nat}

theorem Partial.takes_zero (owed : p.owed = 0) : p.Takes bytes v ↔ bytes = [] ∧ v = p.code := by
  constructor
  · intro h
    cases h with
    | done => exact ⟨rfl, rfl⟩
    | more due => exact absurd owed due
  · rintro ⟨rfl, rfl⟩
    exact .done owed

theorem Partial.takes_succ {count : Nat} (owed : p.owed = count + 1) :
    p.Takes bytes v ↔ ∃ b rest, bytes = b :: rest ∧ (p.low ≤ b.toNat ∧ b.toNat ≤ p.high) ∧
      (p.extend b.toNat).Takes rest v := by
  constructor
  · intro h
    cases h with
    | done none => omega
    | more _ lo hi rest => exact ⟨_, _, rfl, ⟨lo, hi⟩, rest⟩
  · rintro ⟨b, rest, rfl, ⟨lo, hi⟩, takes⟩
    exact .more (by omega) lo hi takes

theorem Partial.takes_one (owed : p.owed = 1) :
    p.Takes bytes v ↔ ∃ b : UInt8, bytes = [b] ∧ (p.low ≤ b.toNat ∧ b.toNat ≤ p.high) ∧
      v = p.code * 64 + (b.toNat - 0x80) := by
  have whole (b : UInt8) : (p.extend b.toNat).owed = 0 := by simp [Partial.extend, owed]
  simp only [takes_succ owed, takes_zero (whole _)]
  constructor
  · rintro ⟨b, rest, rfl, inside, rfl, value⟩
    exact ⟨b, rfl, inside, value⟩
  · rintro ⟨b, rfl, inside, value⟩
    exact ⟨b, [], rfl, inside, rfl, value⟩

/-- What completes a character begun is the rest of its octets. -/
theorem encodeChar_of_takes {index : Nat} {b : UInt8} (begins : begin? index b.toNat = some p)
    (h : p.Takes bytes v) : b :: bytes = String.utf8EncodeChar (Char.ofNat v) := by
  obtain ⟨owed, small, code⟩ | ⟨owed, lo, hi, code, low, high⟩ | ⟨owed, lo, hi, code, low, high⟩ |
    ⟨owed, lo, hi, code, low, high⟩ := begin?_eq_some begins
  · obtain ⟨rfl, value⟩ := (Partial.takes_zero owed).mp h
    rw [encodeChar_one (by omega), ← eq_ofNat (b := b) (by omega)]
  · obtain ⟨b₂, rfl, inside, value⟩ := (Partial.takes_one owed).mp h
    rw [low, high] at inside
    rw [encodeChar_two (by omega) (by omega), ← eq_ofNat (b := b) (by omega),
      ← eq_ofNat (b := b₂) (by omega)]
  · obtain ⟨b₂, rest, rfl, inside, h⟩ := (Partial.takes_succ owed).mp h
    obtain ⟨b₃, rfl, inside₃, value⟩ :=
      (Partial.takes_one (p := p.extend b₂.toNat) (by simp [Partial.extend, owed])).mp h
    simp only [Partial.extend] at inside₃ value
    rw [low, high] at inside
    rw [encodeChar_three (by grind) (by grind) (by grind), ← eq_ofNat (b := b) (by grind),
      ← eq_ofNat (b := b₂) (by grind), ← eq_ofNat (b := b₃) (by grind)]
  · obtain ⟨b₂, rest, rfl, inside, h⟩ := (Partial.takes_succ owed).mp h
    have two : (p.extend b₂.toNat).owed = 1 + 1 := by simp [Partial.extend, owed]
    obtain ⟨b₃, rest, rfl, inside₃, h⟩ := (Partial.takes_succ two).mp h
    obtain ⟨b₄, rfl, inside₄, value⟩ :=
      (Partial.takes_one (p := (p.extend b₂.toNat).extend b₃.toNat)
        (by simp [Partial.extend, owed])).mp h
    simp only [Partial.extend] at inside₃ inside₄ value
    rw [low, high] at inside
    rw [encodeChar_four (by grind) (by grind), ← eq_ofNat (b := b) (by grind),
      ← eq_ofNat (b := b₂) (by grind), ← eq_ofNat (b := b₃) (by grind),
      ← eq_ofNat (b := b₄) (by grind)]

/-- The first octet of a character begins it, and the others complete it. -/
def Begun (index v : Nat) : Prop :=
  ∃ b rest p, String.utf8EncodeChar (Char.ofNat v) = b :: rest ∧
    begin? index b.toNat = some p ∧ p.Takes rest v

theorem toNat_last (v : Nat) : (UInt8.ofNat (v % 64 + 0x80)).toNat = v % 64 + 0x80 :=
  toNat_ofNat (by omega)

theorem begun_one (index : Nat) (hi : v ≤ 0x7F) : Begun index v := by
  have first : (UInt8.ofNat v).toNat = v := toNat_ofNat (by omega)
  obtain ⟨p, begins⟩ := begin?_isSome (b := (UInt8.ofNat v).toNat) (by omega) index
  obtain ⟨owed, -, code⟩ | more | more | more := begin?_eq_some begins
  · exact ⟨_, _, p, encodeChar_one hi, begins, (Partial.takes_zero owed).mpr ⟨rfl, by omega⟩⟩
  all_goals omega

theorem begun_two (index : Nat) (lo : 0x80 ≤ v) (hi : v ≤ 0x7FF) : Begun index v := by
  have first : (UInt8.ofNat (v / 64 + 0xC0)).toNat = v / 64 + 0xC0 := toNat_ofNat (by omega)
  have last := toNat_last v
  obtain ⟨p, begins⟩ := begin?_isSome (b := (UInt8.ofNat (v / 64 + 0xC0)).toNat) (by omega) index
  obtain more | ⟨owed, -, -, code, low, high⟩ | more | more := begin?_eq_some begins
  · omega
  · refine ⟨_, _, p, encodeChar_two lo hi, begins, ?_⟩
    exact (Partial.takes_one owed).mpr ⟨_, rfl, by omega, by omega⟩
  all_goals omega

theorem begun_three (index : Nat) (lo : 0x800 ≤ v) (hi : v ≤ 0xFFFF)
    (scalar : v < 0xD800 ∨ 0xDFFF < v) : Begun index v := by
  have first : (UInt8.ofNat (v / 4096 + 0xE0)).toNat = v / 4096 + 0xE0 := toNat_ofNat (by omega)
  have second := toNat_last (v / 64)
  have last := toNat_last v
  obtain ⟨p, begins⟩ := begin?_isSome (b := (UInt8.ofNat (v / 4096 + 0xE0)).toNat) (by omega) index
  obtain more | more | ⟨owed, -, -, code, low, high⟩ | more := begin?_eq_some begins
  · omega
  · omega
  · refine ⟨_, _, p, encodeChar_three lo hi scalar, begins, ?_⟩
    refine (Partial.takes_succ owed).mpr ⟨_, _, rfl, by grind, ?_⟩
    refine (Partial.takes_one (by simp [Partial.extend, owed])).mpr ⟨_, rfl, ?_⟩
    simp only [Partial.extend]
    omega
  · omega

theorem begun_four (index : Nat) (lo : 0x10000 ≤ v) (hi : v < 0x110000) : Begun index v := by
  have first : (UInt8.ofNat (v / 262144 + 0xF0)).toNat = v / 262144 + 0xF0 :=
    toNat_ofNat (by omega)
  have second := toNat_last (v / 4096)
  have third := toNat_last (v / 64)
  have last := toNat_last v
  obtain ⟨p, begins⟩ :=
    begin?_isSome (b := (UInt8.ofNat (v / 262144 + 0xF0)).toNat) (by omega) index
  obtain more | more | more | ⟨owed, -, -, code, low, high⟩ := begin?_eq_some begins
  · omega
  · omega
  · omega
  · refine ⟨_, _, p, encodeChar_four lo hi, begins, ?_⟩
    refine (Partial.takes_succ owed).mpr ⟨_, _, rfl, by grind, ?_⟩
    have two : (p.extend (UInt8.ofNat (v / 4096 % 64 + 0x80)).toNat).owed = 1 + 1 := by
      simp [Partial.extend, owed]
    refine (Partial.takes_succ two).mpr ⟨_, _, rfl, ?_, ?_⟩
    · simp only [Partial.extend]
      omega
    refine (Partial.takes_one (by simp [Partial.extend, owed])).mpr ⟨_, rfl, ?_⟩
    simp only [Partial.extend]
    omega

theorem begun (index : Nat) (scalar : v < 0xD800 ∨ (0xDFFF < v ∧ v < 0x110000)) :
    Begun index v := by
  by_cases one : v ≤ 0x7F
  · exact begun_one index one
  by_cases two : v ≤ 0x7FF
  · exact begun_two index (by omega) two
  by_cases three : v ≤ 0xFFFF
  · exact begun_three index (by omega) three (by omega)
  · exact begun_four index (by omega) (by omega)

end

/-! ## Texts -/

/-- The octets of a character are read as that character. -/
theorem decodeFrom_encodeChar (index : Nat) (rev : List Char) (c : Char) (rest : List UInt8) :
    ∃ next, decodeFrom index none rev (String.utf8EncodeChar c ++ rest) =
      decodeFrom next none (c :: rev) rest := by
  obtain ⟨b, taken, p, octets, begins, takes⟩ := begun (v := c.toNat) index c.valid
  obtain ⟨next, same⟩ := takes.resume (index + 1) rev rest
  rw [Char.ofNat_toNat] at octets same
  exact ⟨next, by rw [octets, List.cons_append, decodeFrom_begin begins, same]⟩

/-- What is read begins with the octets of a character. -/
theorem decodeFrom_char {index : Nat} {rev cs : List Char} {b : UInt8} {bytes : List UInt8}
    (h : decodeFrom index none rev (b :: bytes) = .ok cs) :
    ∃ c rest next, b :: bytes = String.utf8EncodeChar c ++ rest ∧
      decodeFrom next none (c :: rev) rest = .ok cs := by
  cases begins : begin? index b.toNat with
  | none => simp [decodeFrom, step, begins] at h
  | some p =>
    rw [decodeFrom_begin begins] at h
    obtain ⟨taken, v, rest, next, rfl, takes, read⟩ := takes_of_resume rfl h
    refine ⟨Char.ofNat v, rest, next, ?_, read⟩
    rw [← encodeChar_of_takes begins takes, List.cons_append]

theorem decodeFrom_encode (index : Nat) (rev cs : List Char) :
    decodeFrom index none rev (encode cs) = .ok (rev.reverse ++ cs) := by
  induction cs generalizing index rev with
  | nil => simp [encode, decodeFrom]
  | cons c cs ih =>
    obtain ⟨next, same⟩ := decodeFrom_encodeChar index rev c (encode cs)
    calc decodeFrom index none rev (encode (c :: cs))
        = decodeFrom next none (c :: rev) (encode cs) := same
      _ = .ok ((c :: rev).reverse ++ cs) := ih next (c :: rev)
      _ = .ok (rev.reverse ++ c :: cs) := by simp

theorem eq_encode_of_decodeFrom {index : Nat} {rev cs : List Char} {bytes : List UInt8}
    (h : decodeFrom index none rev bytes = .ok cs) :
    ∃ tail, cs = rev.reverse ++ tail ∧ bytes = encode tail := by
  induction length : bytes.length using Nat.strongRecOn generalizing index rev bytes with
  | ind n ih =>
    cases bytes with
    | nil => exact ⟨[], by simpa [decodeFrom] using h.symm, rfl⟩
    | cons b bytes =>
      obtain ⟨c, rest, next, octets, read⟩ := decodeFrom_char h
      have shorter : rest.length < n := by
        have taken := congrArg List.length octets
        have := String.length_utf8EncodeChar c
        have := c.utf8Size_pos
        simp at taken length
        omega
      obtain ⟨tail, rfl, rfl⟩ := ih rest.length shorter read rfl
      exact ⟨c :: tail, by simp, by rw [octets]; rfl⟩

/-- Octets are read as the characters that they are the octets of. -/
theorem decode_eq_ok_iff {bytes : List UInt8} {cs : List Char} :
    decode bytes = .ok cs ↔ bytes = encode cs := by
  constructor
  · intro h
    obtain ⟨tail, rfl, rfl⟩ := eq_encode_of_decodeFrom h
    rfl
  · rintro rfl
    exact decodeFrom_encode 0 [] cs

/-- Octets are read as a text if and only if they are the octets of that text. -/
theorem text?_eq_some_iff {bytes : List UInt8} {s : String} :
    text? bytes = some s ↔ bytes = encode s.toList := by
  rw [← decode_eq_ok_iff, text?]
  cases decode bytes with
  | error => simp
  | ok cs =>
    constructor
    · intro h
      rw [← Option.some.inj h, String.toList_ofList]
    · intro h
      simp [Except.ok.inj h]

end JobConsole.Utf8
