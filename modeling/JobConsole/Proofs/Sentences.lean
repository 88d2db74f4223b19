import JobConsole.Proofs.Json.RepeatedKeys
import JobConsole.Proofs.RenderModes
import JobConsole.Proofs.Text.Entities

namespace JobConsole

/-! ## What is said -/

/-- How a field is shown that may be absent. -/
inductive ShownAs : Option Json → String → Prop
  | absent : ShownAs none "null"
  | null : ShownAs (some .null) "null"
  | string (s : String) : ShownAs (some (.string s)) s
  | other {v : Json} (notNull : v ≠ .null) (notString : ∀ s, v ≠ .string s) :
      ShownAs (some v) v.render

/-- What is said of a job, by the event that happened to it. -/
inductive Details (job : Json) : (event : String) → String → Prop
  | started {time command : String} (timed : ShownAs (job.get? "started") time)
      (run : ShownAs (job.get? "cmd") command) :
      Details job "started" (time ++ " cmd=" ++ command)
  | scheduled {time command : String} (timed : ShownAs (job.get? "scheduled") time)
      (run : ShownAs (job.get? "cmd") command) :
      Details job "scheduled" (time ++ " cmd=" ++ command)
  | finished {time result url : String} (timed : ShownAs (job.get? "finished") time)
      (ended : ShownAs (job.get? "result") result) (reported : ShownAs (job.get? "url") url) :
      Details job "finished" (time ++ " result=" ++ result ++ " url=" ++ url)
  | other {event : String} (unknown : event ∉ ["started", "scheduled", "finished"]) :
      Details job event "unknown event(error)"

/-- What is said of an event. Only a job that is an object is told of. -/
inductive Sentence (message : Json) (event : String) : String → Prop
  | bare (noJob : ∀ members, message.get? "job" ≠ some (.object members)) :
      Sentence message event ("event: " ++ event)
  | ofJob {job : Json} {id app details : String} (found : message.get? "job" = some job)
      (object : job.isObject = true) (named : ShownAs (job.get? "id") id)
      (placed : ShownAs (job.get? "appid") app) (told : Details job event details) :
      Sentence message event
        ("event: " ++ event ++ " Job " ++ id ++ " (app=" ++ app ++ ") has " ++ event ++ " at " ++
          details)

theorem shownAs_iff {job : Json} {key text : String} :
    ShownAs (job.get? key) text ↔ text = jobField job key := by
  unfold jobField
  generalize job.get? key = field
  constructor
  · intro shown
    cases shown with
    | absent | null | string => rfl
    | other notNull notString =>
      split
      · next missing => cases missing
      · next s same => exact absurd (Option.some.inj same) (notString s)
      · next same => rw [Option.some.inj same]
  · rintro rfl
    cases field with
    | none => exact .absent
    | some v =>
      cases v with
      | null => exact .null
      | string s => exact .string s
      | bool | integer | float | array | object =>
        apply ShownAs.other
        · simp
        · simp

theorem details_iff {job : Json} {event text : String} :
    Details job event text ↔ text = jobDetails event job := by
  constructor
  · intro told
    cases told with
    | started timed run | scheduled timed run =>
      rw [shownAs_iff.mp timed, shownAs_iff.mp run]
      rfl
    | finished timed ended reported =>
      rw [shownAs_iff.mp timed, shownAs_iff.mp ended, shownAs_iff.mp reported]
      rfl
    | other unknown =>
      simp only [List.mem_cons, List.not_mem_nil, or_false, not_or] at unknown
      obtain ⟨started, scheduled, finished⟩ := unknown
      rw [jobDetails, if_neg started, if_neg scheduled, if_neg finished]
  · rintro rfl
    unfold jobDetails
    split
    · next same =>
      subst same
      exact .started (shownAs_iff.mpr rfl) (shownAs_iff.mpr rfl)
    split
    · next same =>
      subst same
      exact .scheduled (shownAs_iff.mpr rfl) (shownAs_iff.mpr rfl)
    split
    · next same =>
      subst same
      exact .finished (shownAs_iff.mpr rfl) (shownAs_iff.mpr rfl) (shownAs_iff.mpr rfl)
    · next started scheduled finished =>
      apply Details.other
      simp only [List.mem_cons, List.not_mem_nil, or_false, not_or]
      exact ⟨started, scheduled, finished⟩

theorem sentence_iff {message : Json} {event line : String} :
    Sentence message event line ↔ line = eventSummary event message := by
  constructor
  · intro said
    cases said with
    | bare noJob =>
      have dropped : (message.get? "job").filter Json.isObject = none := by
        cases found : message.get? "job" with
        | none => rfl
        | some v =>
          cases v with
          | object members => exact absurd found (noJob members)
          | null | bool | integer | float | string | array => rfl
      simp only [eventSummary, dropped]
    | ofJob found object named placed told =>
      rw [shownAs_iff.mp named, shownAs_iff.mp placed, details_iff.mp told]
      simp only [eventSummary, found, Option.filter_some, object, if_true]
  · rintro rfl
    unfold eventSummary
    split
    · next dropped =>
      apply Sentence.bare
      intro members found
      simp [found, Json.isObject] at dropped
    · next job kept =>
      obtain ⟨found, object⟩ := Option.filter_eq_some_iff.mp kept
      exact .ofJob found object (shownAs_iff.mpr rfl) (shownAs_iff.mpr rfl) (details_iff.mpr rfl)

/-! ## What it depends on -/

/-- What stands under some keys of a value, one inside the other: null also where nothing does. -/
def Json.found (message : Json) (path : List String) : Json :=
  (message.follow Json.get? path).getD .null

/-- What is meant under some keys, one inside the other, by what stands in a text. Of the members
with one key the last one counts, and nothing is as good as null. -/
def Json.meant (written : Json) (path : List String) : Json :=
  ((written.follow Json.last? path).map Json.resolve).getD .null

theorem Json.found_resolve (written : Json) : written.resolve.found = written.meant := by
  funext path
  rw [Json.found, Json.follow_resolve, Json.meant]

/-- What stands under some keys is the same as far as an event of the watched queue is reported by
it. -/
structure SameReport (event : String) (found found' : List String → Json) : Prop where
  command : found ["command"] = found' ["command"]
  named : found ["event"] = found' ["event"]
  job : (found ["job"]).isObject = (found' ["job"]).isObject
  fields : ∀ key ∈ "id" :: "appid" :: detailKeys event, found ["job", key] = found' ["job", key]

section
variable {event : String} {message message' : Json}

theorem found_one (message : Json) (key : String) :
    message.found [key] = (message.get? key).getD .null := by
  rw [Json.found, Json.follow]
  cases message.get? key <;> rfl

theorem found_two (message : Json) (key key' : String) :
    message.found [key, key'] = ((message.found [key]).get? key').getD .null := by
  rw [found_one, Json.found, Json.follow]
  cases message.get? key with
  | none => rfl
  | some v => exact found_one v key'

theorem isWatchEvent_iff_found :
    message.IsWatchEvent event ↔
      message.found ["command"] = .string "watch" ∧ message.found ["event"] = .string event := by
  have string (v : Option Json) (s : String) :
      v.getD .null = .string s ↔ v = some (.string s) := by
    cases v <;> simp
  rw [found_one, found_one, string, string]
  cases message with
  | object members => simp [Json.IsWatchEvent, Json.get?]
  | null | bool | integer | float | string | array => simp [Json.IsWatchEvent, Json.get?]

/-- An absent field is shown as one that is null. -/
theorem jobField_congr {job job' : Json} {key : String}
    (h : (job.get? key).getD .null = (job'.get? key).getD .null) :
    jobField job key = jobField job' key := by
  have alone (job : Json) :
      jobField job key = jobField (.object [(key, (job.get? key).getD .null)]) key := by
    have found (v : Json) : (Json.object [(key, v)]).get? key = some v := List.lookup_cons_self
    unfold jobField
    rw [found]
    cases job.get? key <;> rfl
  rw [alone job, alone job', h]

theorem jobDetails_congr {job job' : Json}
    (h : ∀ key ∈ detailKeys event, jobField job key = jobField job' key) :
    jobDetails event job = jobDetails event job' := by
  unfold jobDetails
  unfold detailKeys at h
  split
  · next started =>
    rw [if_pos started] at h
    rw [h "started" (by simp), h "cmd" (by simp)]
  split
  · next started scheduled =>
    rw [if_neg started, if_pos scheduled] at h
    rw [h "scheduled" (by simp), h "cmd" (by simp)]
  split
  · next started scheduled finished =>
    rw [if_neg started, if_neg scheduled, if_pos finished] at h
    rw [h "finished" (by simp), h "result" (by simp), h "url" (by simp)]
  · rfl

/-- The message of a payload is the one that is meant by what stands in it. -/
theorem parseMessage_iff_script {payload : String} {message : Json} :
    parseMessage payload = .ok message ↔
      ∃ written, Json.script payload = some written ∧ written.resolve = message := by
  rw [parseMessage_eq_ok, ← Option.map_eq_some_iff, ← Json.parse_eq_resolve]
  cases Json.parse payload <;> simp [Except.toOption]

theorem eventSummary_eq (event : String) (message : Json) :
    eventSummary event message =
      let job := message.found ["job"]
      if job.isObject then
        "event: " ++ event ++ " Job " ++ jobField job "id" ++ " (app=" ++ jobField job "appid" ++
          ") has " ++ event ++ " at " ++ jobDetails event job
      else "event: " ++ event := by
  rw [found_one, eventSummary]
  cases message.get? "job" with
  | none => rfl
  | some v => cases v <;> rfl

theorem eventSummary_congr (same : SameReport event message.found message'.found) :
    eventSummary event message = eventSummary event message' := by
  have fields : ∀ key ∈ "id" :: "appid" :: detailKeys event,
      jobField (message.found ["job"]) key = jobField (message'.found ["job"]) key := by
    intro key shown
    apply jobField_congr
    rw [← found_two, ← found_two]
    exact same.fields key shown
  have details : jobDetails event (message.found ["job"]) =
      jobDetails event (message'.found ["job"]) := by
    apply jobDetails_congr
    intro key shown
    exact fields key (List.mem_cons_of_mem _ (List.mem_cons_of_mem _ shown))
  simp only [eventSummary_eq, same.job, details, fields "id" (by simp), fields "appid" (by simp)]

end

/-- **A sentence says what its lookups say, and depends on nothing else.** Of a message that is an
event of the watched queue one sentence is true, and its line is that sentence, made safe for
markup. Any other message is shown as its compact text. What is looked up in the message of a
payload is what the last members with those keys mean in it. Any two payloads that agree on the
lookups of one event both hold a message, and these are shown as the same line. -/
theorem sentence_depends_on_lookups :
    (∀ message event, message.IsWatchEvent event →
      ∃ sentence, (∀ text, Sentence message event text ↔ text = sentence) ∧
        renderMessage .summary message = Markup.escape sentence) ∧
      (∀ message, (∀ event, ¬message.IsWatchEvent event) →
        renderMessage .summary message = renderMessage .raw message) ∧
      (∀ payload message, parseMessage payload = .ok message →
        ∃ written, Json.script payload = some written ∧
          ∀ path, message.follow Json.get? path =
            (written.follow Json.last? path).map Json.resolve) ∧
      ∀ event payload payload' written written',
        Json.script payload = some written → Json.script payload' = some written' →
        written.meant ["command"] = .string "watch" → written.meant ["event"] = .string event →
        SameReport event written.meant written'.meant →
          ∃ message message', parseMessage payload = .ok message ∧
            parseMessage payload' = .ok message' ∧ message.IsWatchEvent event ∧
            renderMessage .summary message = renderMessage .summary message' := by
  refine ⟨?_, ?_, ?_, ?_⟩
  · intro message event watched
    exact ⟨eventSummary event message, fun text => sentence_iff, renderMessage_event watched⟩
  · intro message other
    exact renderMessage_other other
  · intro payload message parsed
    obtain ⟨written, stands, rfl⟩ := parseMessage_iff_script.mp parsed
    exact ⟨written, stands, fun path => Json.follow_resolve path written⟩
  · intro event payload payload' written written' stands stands' command named same
    rw [← Json.found_resolve] at command named
    rw [← Json.found_resolve, ← Json.found_resolve] at same
    have watched : written.resolve.IsWatchEvent event := isWatchEvent_iff_found.mpr ⟨command, named⟩
    have watched' : written'.resolve.IsWatchEvent event :=
      isWatchEvent_iff_found.mpr ⟨same.command ▸ command, same.named ▸ named⟩
    refine ⟨_, _, parseMessage_iff_script.mpr ⟨written, stands, rfl⟩,
      parseMessage_iff_script.mpr ⟨written', stands', rfl⟩, watched, ?_⟩
    rw [renderMessage_event watched, renderMessage_event watched', eventSummary_congr same]

def plainReport : String :=
  "\x7b\"command\":\"watch\",\"event\":\"started\",\"job\":\x7b\"id\":7,\"appid\":null," ++
    "\"started\":\"9:00\",\"cmd\":\"ls\"\x7d\x7d"

/-- The report in another order, with keys that stand twice, a member of no concern, and one left
out that was null. -/
def knottyReport : String :=
  "\x7b\"job\":\x7b\"cmd\":\"rm\",\"by\":[\x7b\x7d],\"cmd\":\"ls\"," ++
    "\"started\":\"9:00\",\"id\":7\x7d,\"event\":0,\"event\":\"started\",\"command\":\"watch\"\x7d"

theorem sentence_depends_on_lookups_of_reports :
    ∃ message message', parseMessage plainReport = .ok message ∧
      parseMessage knottyReport = .ok message' ∧ message.IsWatchEvent "started" ∧
      renderMessage .summary message = renderMessage .summary message' := by
  obtain ⟨-, -, -, same⟩ := sentence_depends_on_lookups
  apply same
  case written =>
    exact .object [("command", .string "watch"), ("event", .string "started"),
      ("job", .object [("id", .integer 7), ("appid", .null), ("started", .string "9:00"),
        ("cmd", .string "ls")])]
  case written' =>
    exact .object [("job", .object [("cmd", .string "rm"), ("by", .array [.object []]),
        ("cmd", .string "ls"), ("started", .string "9:00"), ("id", .integer 7)]),
      ("event", .integer 0), ("event", .string "started"), ("command", .string "watch")]
  · rfl
  · rfl
  · rfl
  · rfl
  · constructor
    case command => rfl
    case named => rfl
    case job => rfl
    case fields =>
      intro key shown
      simp only [detailKeys, if_true, List.mem_cons, List.not_mem_nil, or_false] at shown
      obtain rfl | rfl | rfl | rfl := shown <;> rfl

end JobConsole
