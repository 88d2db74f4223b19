import JobConsole.Proofs.Settings.Sources
import JobConsole.Socket.Address

namespace JobConsole.Settings

/-! ## Paths -/

/-- The form of a path: one slash in front, no blank behind. -/
structure IsNormal (path : String) : Prop where
  rooted : path.toList.head? = some '/'
  single : path.toList[1]? ≠ some '/'
  ended : ∀ c, path.toList.getLast? = some c → isBlank c = false

theorem normalizePath_isNormal (path : String) : IsNormal (normalizePath path) := by
  have tight := tight_trim path
  rw [normalizePath]
  generalize (trim path).toList = cs at tight
  refine ⟨by simp, ?_, ?_⟩
  · intro second
    have first : (cs.dropWhile (· == '/')).head? = some '/' := by
      simpa [List.head?_eq_getElem?] using second
    have := List.head?_dropWhile_not (· == '/') cs
    simp [first] at this
  · intro c last
    rw [String.toList_ofList, List.getLast?_cons] at last
    cases rest : (cs.dropWhile (· == '/')).getLast? with
    | none =>
      simp only [rest, Option.getD_none, Option.some.injEq] at last
      rw [← last]
      decide
    | some d =>
      simp only [rest, Option.getD_some, Option.some.injEq] at last
      obtain ⟨front, split⟩ := List.dropWhile_suffix (l := cs) (· == '/')
      refine tight.last c ?_
      rw [← split, List.getLast?_append, rest, last]
      rfl

/-- A path that has its form keeps it. -/
theorem normalizePath_eq_self {path : String} (h : IsNormal path) : normalizePath path = path := by
  obtain ⟨rooted, single, ended⟩ := h
  obtain ⟨rest, whole⟩ := List.head?_eq_some_iff.mp rooted
  have tight : Tight path.toList := by
    refine ⟨fun c first => ?_, ended⟩
    rw [rooted, Option.some.injEq] at first
    rw [← first]
    decide
  have trimmed : trim path = path :=
    (trim_surrounded tight ⟨[], [], by simp, nofun, nofun⟩).trans (String.ofList_toList)
  have kept : rest.dropWhile (· == '/') = rest := by
    cases rest with
    | nil => rfl
    | cons c rest =>
      have other : c ≠ '/' := by simpa [whole] using single
      simp [other]
  rw [normalizePath, trimmed, whole, List.dropWhile_cons_of_pos (by decide), kept, ← whole,
    String.ofList_toList]

/-! ## Taking apart -/

/-- The characters before the last one that satisfies `p`, if any does; else none. -/
def beforeLast (p : Char → Bool) (cs : List Char) : List Char :=
  ((cs.reverse.dropWhile fun c => !p c).drop 1).reverse

structure Cut where
  host : List Char
  port : List Char
  path : List Char
  deriving DecidableEq, Repr

/-- An endpoint cut at the first slash behind the scheme, and what is before that at its last
colon. -/
def cut? : List Char → Option Cut
  | 'w' :: 's' :: ':' :: '/' :: '/' :: rest =>
    let authority := rest.takeWhile (· != '/')
    some ⟨beforeLast (· == ':') authority, Address.behindLast (· == ':') authority,
      rest.dropWhile (· != '/')⟩
  | _ => none

section
variable {p : Char → Bool} {before after : List Char} {c : Char}

theorem span_split (after : List Char) (hit : p c = true) (inside : ∀ d ∈ before, p d = false) :
    ((before ++ c :: after).takeWhile fun d => !p d) = before ∧
      ((before ++ c :: after).dropWhile fun d => !p d) = c :: after := by
  have passed : ∀ d ∈ before, (!p d) = true := fun d hd => by simp [inside d hd]
  rw [List.takeWhile_append_of_pos passed, List.dropWhile_append_of_pos passed]
  simp [hit]

/-- The last hit divides characters into what is before it and what is behind it. -/
theorem last_split (before : List Char) (hit : p c = true) (outside : ∀ d ∈ after, p d = false) :
    beforeLast p (before ++ c :: after) = before ∧
      Address.behindLast p (before ++ c :: after) = after := by
  have reversed : (before ++ c :: after).reverse = after.reverse ++ c :: before.reverse := by simp
  have behind : ∀ d ∈ after.reverse, p d = false := fun d hd => outside d (List.mem_reverse.mp hd)
  obtain ⟨taken, dropped⟩ := span_split before.reverse hit behind
  rw [beforeLast, Address.behindLast, reversed, taken, dropped]
  simp

end

def join (host port path : List Char) : List Char :=
  ['w', 's', ':', '/', '/'] ++ host ++ ':' :: (port ++ path)

theorem endpoint_toList (s : Settings) :
    s.endpoint.toList = join s.host.toList (toString s.port).toList s.path.toList := by
  simp [endpoint, join, String.toList_append]

/-- The parts of an endpoint are found again. -/
theorem cut?_join {host port path : List Char} (plain : '/' ∉ host)
    (digits : ∀ c ∈ port, c.isDigit = true) (rooted : path.head? = some '/') :
    cut? (join host port path) = some ⟨host, port, path⟩ := by
  obtain ⟨tail, rfl⟩ := List.head?_eq_some_iff.mp rooted
  have notSlash : ∀ c ∈ host ++ ':' :: port, (c == '/') = false := by
    simp only [List.forall_mem_append, List.forall_mem_cons]
    refine ⟨?_, rfl, fun c hc => beq_of_isDigit (digits c hc) rfl⟩
    intro c hc
    rw [beq_eq_false_iff_ne]
    rintro rfl
    exact plain hc
  have notColon : ∀ c ∈ port, (c == ':') = false := fun c hc => beq_of_isDigit (digits c hc) rfl
  obtain ⟨taken, dropped⟩ := span_split (p := (· == '/')) (c := '/') tail rfl notSlash
  obtain ⟨first, last⟩ := last_split (p := (· == ':')) (c := ':') host rfl notColon
  have whole : join host port ('/' :: tail) =
      'w' :: 's' :: ':' :: '/' :: '/' :: (host ++ ':' :: port ++ '/' :: tail) := by
    simp [join]
  simp only [whole, cut?, bne, taken, dropped, first, last]

/-- What settings are like that were loaded, with a file or without one. -/
theorem load_shape {env : Environment} {file : Option (List UInt8)} {s : Settings}
    (h : load env file = .ok (.ok s)) : s.validate = .ok () ∧ IsNormal s.path := by
  obtain ⟨full, -, given⟩ := load_eq_ok h
  obtain ⟨port, mode, -, -, valid, rfl⟩ := ofEnvironment_eq_ok given
  exact ⟨valid, normalizePath_isNormal _⟩

theorem cut?_endpoint {s : Settings} (valid : s.validate = .ok ())
    (rooted : s.path.toList.head? = some '/') :
    cut? s.endpoint.toList = some ⟨s.host.toList, (toString s.port).toList, s.path.toList⟩ := by
  have plain : '/' ∉ s.host.toList := fun slash =>
    (validate_eq_ok_iff.mp valid).2 '/' slash List.mem_cons_self
  rw [endpoint_toList]
  exact cut?_join plain (digits_toString s.port) rooted

theorem toString_injective {n m : Nat} (h : toString n = toString m) : n = m :=
  (isCount_toString n).unique (h ▸ isCount_toString m)

/-- The path of settings that were loaded begins with one slash, does not end with a blank, and is
not changed by giving it the form of a path again. Their endpoint is cut into its host, its port in
decimal digits and its path at the first slash behind the scheme and the last colon before that. So
two consoles have the same endpoint if and only if they have the same host, port and path. -/
theorem endpoint_tells_parts {env : Environment} {file : Option (List UInt8)} {s : Settings}
    (h : load env file = .ok (.ok s)) :
    IsNormal s.path ∧ normalizePath s.path = s.path ∧
    cut? s.endpoint.toList = some ⟨s.host.toList, (toString s.port).toList, s.path.toList⟩ ∧
    ∀ env' file' s', load env' file' = .ok (.ok s') →
      (s.endpoint = s'.endpoint ↔ s.host = s'.host ∧ s.port = s'.port ∧ s.path = s'.path) := by
  obtain ⟨valid, normal⟩ := load_shape h
  refine ⟨normal, normalizePath_eq_self normal, cut?_endpoint valid normal.rooted, ?_⟩
  intro env' file' s' h'
  obtain ⟨valid', normal'⟩ := load_shape h'
  constructor
  · intro same
    have parts := cut?_endpoint valid normal.rooted
    rw [same, cut?_endpoint valid' normal'.rooted, Option.some.injEq, Cut.mk.injEq] at parts
    obtain ⟨host, port, path⟩ := parts
    exact ⟨String.toList_injective host.symm, toString_injective (String.toList_injective port.symm),
      String.toList_injective path.symm⟩
  · rintro ⟨host, port, path⟩
    rw [endpoint, endpoint, host, port, path]

/-- An environment whose host holds colons and a blank that is no space, and whose path has slashes
and blanks around it and between. -/
def knottyEnvironment : Environment :=
  ⟨[("CONSOLE_HOST", Utf8.encode "a:1@\u3000:".toList), ("CONSOLE_PORT", Utf8.encode "007".toList),
    ("CONSOLE_PATH", Utf8.encode " //\u3000/a:8/ \t".toList)]⟩

theorem endpoint_tells_parts_of_knotty :
    let s : Settings := { defaults with host := "a:1@\u3000:", port := 7, path := "/\u3000/a:8/" }
    load knottyEnvironment none = .ok (.ok s) ∧
      cut? s.endpoint.toList = some ⟨"a:1@\u3000:".toList, ['7'], "/\u3000/a:8/".toList⟩ := by
  intro s
  have loaded : load knottyEnvironment none = .ok (.ok s) := load_of_toOption (by decide +kernel)
  have port : (toString s.port).toList = ['7'] := by decide
  exact ⟨loaded, port ▸ (endpoint_tells_parts loaded).2.2.1⟩

end JobConsole.Settings
