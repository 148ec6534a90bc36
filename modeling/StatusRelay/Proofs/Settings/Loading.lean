/-
# Settings loaded from what is printed of them

The document of settings is a value like that of their JSON, and of this the settings are read
again, section by section. So a file with the bytes that are printed of settings holds the same
settings.

| value | read as |
| --- | --- |
| a number | itself, since a document holds none of more than 63 bits |
| a missing capacity, a missing token | its absence |
| the names and texts of headers | the headers, in their order |
-/

import StatusRelay.Program
import StatusRelay.Proofs.Settings.Document
import StatusRelay.Proofs.Text.Utf8

namespace StatusRelay
namespace Settings

open Toml

/-! ### The settings of a document -/

/-- The JSON member of an entry. -/
def member (f : Field) : String × Json := (f.name, f.value.toJson)

/-- The JSON object of a webhook in the document. -/
def webhookJson (w : Webhook) : Json :=
  .obj ((webhookFields w).map member ++
    [("headers", .obj (w.headers.map fun h => (h.1, .str h.2)))])

theorem entriesToJson_tomlEntries_append (es es' : Entries) :
    entriesToJson (tomlEntries (es ++ es')) =
      entriesToJson (tomlEntries es) ++ entriesToJson (tomlEntries es') := by
  induction es with
  | nil => rfl
  | cons e es ih => simp [tomlEntries, entriesToJson, ih]

theorem entriesToJson_fields (fields : List Field) :
    entriesToJson (tomlEntries (fields.map Field.entry)) = fields.map member := by
  induction fields with
  | nil => rfl
  | cons f fields ih => simp [tomlEntries, entriesToJson, ih, Field.entry, Entry.toToml, member]

theorem toJson_webhookTable (w : Webhook) :
    (Toml.table (tomlEntries (webhookTable w))).toJson = webhookJson w := by
  have hheaders : (w.headers.map headerField).map member =
      w.headers.map fun h => (h.1, Json.str h.2) := by
    rw [List.map_map]
    rfl
  simp only [webhookTable, webhookJson, Toml.toJson, entriesToJson_tomlEntries_append,
    entriesToJson_fields, tomlEntries, Entry.toToml, entriesToJson, hheaders]

theorem itemsToJson_webhooks (ws : List Webhook) :
    itemsToJson (tomlItems (ws.map webhookTable)) = ws.map webhookJson := by
  induction ws with
  | nil => rfl
  | cons w ws ih =>
    rw [List.map_cons, tomlItems, itemsToJson, ih, toJson_webhookTable, List.map_cons]

theorem entriesToJson_consumers (s : Settings) :
    entriesToJson (tomlEntries ((consumersFields s).map Field.entry ++
        several "webhooks" (s.webhooks.map webhookTable))) =
      [("console", .bool s.console), ("webhooks", .arr (s.webhooks.map webhookJson))] := by
  rw [entriesToJson_tomlEntries_append, entriesToJson_fields]
  cases hws : s.webhooks with
  | nil => simp [consumersFields, hws, several_nil, member, boolField, emptyField, Toml.toJson,
      itemsToJson, tomlEntries, entriesToJson]
  | cons w ws =>
    have hseveral : several "webhooks" ((w :: ws).map webhookTable) =
        [("webhooks", .tables ((w :: ws).map webhookTable))] := if_neg (by simp)
    rw [hseveral, consumersFields, hws]
    simp only [tomlEntries, Entry.toToml, entriesToJson, Toml.toJson, itemsToJson_webhooks]
    rfl

/-- The JSON value of the document. -/
theorem toJson_document (s : Settings) :
    (Toml.table (tomlEntries (document s))).toJson = .obj [
      ("scheduler", .obj ((schedulerFields s).map member)),
      ("bus", .obj ((busFields s).map member)), ("http", .obj ((httpFields s).map member)),
      ("logging", .obj ((loggingFields s).map member)),
      ("consumers", .obj [("console", .bool s.console),
        ("webhooks", .arr (s.webhooks.map webhookJson))])] := by
  simp only [document, sectionEntry, tomlEntries, Entry.toToml, entriesToJson, Toml.toJson,
    entriesToJson_fields, entriesToJson_consumers]

/-! ### The settings that are read -/

/-- A number that a document can hold is one of 64 bits. -/
theorem lt_of_le_maxInt {n : Nat} (h : n ≤ maxInt) : n < 2 ^ 64 :=
  Nat.lt_of_le_of_lt h (by decide)

theorem readWord_int {bits n : Nat} (h : n < 2 ^ bits) : readWord bits (.int n) = some n := by
  rw [readWord, if_pos ⟨Int.natCast_nonneg n, Int.ofNat_lt.2 h⟩]
  rfl

theorem orElse_word {bits n : Nat} (h : n < 2 ^ bits) (otherwise : Nat) :
    orElse otherwise (readWord bits) (some (.int n)) = some n := by
  rw [orElse, readWord_int h]

theorem readHeaders_map (hs : List (String × String)) :
    readHeaders (.obj (hs.map fun h => (h.1, .str h.2))) = some hs := by
  rw [readHeaders]
  induction hs with
  | nil => rfl
  | cons h hs ih =>
    rw [List.map_cons, List.mapM_cons, ih]
    rfl

theorem fields?_webhookJson (w : Webhook) : fields? false webhookNames (webhookJson w) =
    some [some (.str w.url), w.token.map Json.str,
      some (.obj (w.headers.map fun h => (h.1, .str h.2))), some (.int w.timeoutSecs),
      some (.int w.maxRetries), some (.int w.retryBaseDelayMs)] := by
  obtain ⟨url, token, headers, timeout, retries, delay⟩ := w
  cases token with
  | none => rfl
  | some t => rfl

theorem orNull_text (t : Option String) : orNull readText (t.map Json.str) = some t := by
  cases t with
  | none => rfl
  | some t => rfl

/-- **A webhook is read back from its object.** -/
theorem readWebhook_webhookJson {w : Webhook} (h : Fits w) (hretries : w.maxRetries < 2 ^ 32) :
    readWebhook false (webhookJson w) = some w := by
  obtain ⟨htimeout, -, hdelay⟩ := h
  have htimeout := orElse_word (lt_of_le_maxInt htimeout)
  have hdelay := orElse_word (lt_of_le_maxInt hdelay)
  -- One setting after another: as a whole, the bounds of the words would be computed.
  rw [readWebhook, fields?_webhookJson]
  refine Option.bind_eq_some_iff.2 ⟨_, rfl, ?_⟩
  refine Option.bind_eq_some_iff.2 ⟨w.url, rfl, ?_⟩
  refine Option.bind_eq_some_iff.2 ⟨w.token, orNull_text w.token, ?_⟩
  refine Option.bind_eq_some_iff.2 ⟨w.headers, readHeaders_map w.headers, ?_⟩
  refine Option.bind_eq_some_iff.2 ⟨w.timeoutSecs, htimeout _, ?_⟩
  refine Option.bind_eq_some_iff.2 ⟨w.maxRetries, orElse_word hretries _, ?_⟩
  exact Option.bind_eq_some_iff.2 ⟨w.retryBaseDelayMs, hdelay _, rfl⟩

theorem readWebhooks_map {ws : List Webhook} (h : ∀ w ∈ ws, Fits w)
    (hretries : ∀ w ∈ ws, w.maxRetries < 2 ^ 32) :
    readWebhooks false (.arr (ws.map webhookJson)) = some ws := by
  rw [readWebhooks]
  induction ws with
  | nil => rfl
  | cons w ws ih =>
    obtain ⟨hw, hws⟩ := List.forall_mem_cons.1 h
    obtain ⟨hretry, hretries⟩ := List.forall_mem_cons.1 hretries
    rw [List.map_cons, List.mapM_cons, readWebhook_webhookJson hw hretry, ih hws hretries]
    rfl

/-! ### Sections -/

theorem readScheduler_members {s : Settings} (h : Bounded s) (t : Settings) :
    readScheduler false (.obj ((schedulerFields s).map member)) t =
      some { t with concurrencyLimit := s.concurrencyLimit } := by
  have hfields : fields? false ["concurrency_limit"] (.obj ((schedulerFields s).map member)) =
      some [some (.int s.concurrencyLimit)] := rfl
  rw [readScheduler, hfields]
  refine Option.bind_eq_some_iff.2 ⟨_, rfl, ?_⟩
  exact Option.bind_eq_some_iff.2 ⟨_, orElse_word (lt_of_le_maxInt h.concurrency) _, rfl⟩

theorem readBus_members {s : Settings} (h : Bounded s) (t : Settings) :
    readBus false (.obj ((busFields s).map member)) t =
      some { t with queueCapacity := s.queueCapacity } := by
  have hfields : fields? false ["queue_capacity"] (.obj ((busFields s).map member)) =
      some [s.queueCapacity.map fun n : Nat => .int n] := by
    unfold busFields
    cases s.queueCapacity <;> rfl
  have hcapacity : orNull (readWord 64) (s.queueCapacity.map fun n : Nat => .int n) =
      some s.queueCapacity := by
    cases hq : s.queueCapacity with
    | none => rfl
    | some n =>
      have hword := readWord_int (lt_of_le_maxInt (h.capacity n hq))
      simp only [Option.map_some, orNull, hword]
  rw [readBus, hfields]
  refine Option.bind_eq_some_iff.2 ⟨_, rfl, ?_⟩
  exact Option.bind_eq_some_iff.2 ⟨_, hcapacity, rfl⟩

theorem readHttp_members {s : Settings} (h : Bounded s) (t : Settings) :
    readHttp false (.obj ((httpFields s).map member)) t =
      some { t with requestTimeoutSecs := s.requestTimeoutSecs, userAgent := s.userAgent } := by
  have hfields : fields? false ["request_timeout_secs", "user_agent"]
      (.obj ((httpFields s).map member)) =
      some [some (.int s.requestTimeoutSecs), some (.str s.userAgent)] := rfl
  rw [readHttp, hfields]
  refine Option.bind_eq_some_iff.2 ⟨_, rfl, ?_⟩
  exact Option.bind_eq_some_iff.2 ⟨_, orElse_word (lt_of_le_maxInt h.timeout) _, rfl⟩

theorem readLogging_members (s t : Settings) :
    readLogging false (.obj ((loggingFields s).map member)) t =
      some { t with logLevel := s.logLevel, logFormat := s.logFormat } := rfl

theorem readConsumers_members {s : Settings} (h : Bounded s)
    (hretries : ∀ w ∈ s.webhooks, w.maxRetries < 2 ^ 32) (t : Settings) :
    readConsumers false (.obj [("console", .bool s.console),
        ("webhooks", .arr (s.webhooks.map webhookJson))]) t =
      some { t with console := s.console, webhooks := s.webhooks } := by
  have hfields : fields? false ["console", "webhooks"] (.obj [("console", .bool s.console),
      ("webhooks", .arr (s.webhooks.map webhookJson))]) =
      some [some (.bool s.console), some (.arr (s.webhooks.map webhookJson))] := rfl
  have hwebhooks : orElse [] (readWebhooks false) (some (.arr (s.webhooks.map webhookJson))) =
      some s.webhooks := readWebhooks_map h.webhooks hretries
  rw [readConsumers, hfields]
  refine Option.bind_eq_some_iff.2 ⟨_, rfl, ?_⟩
  refine Option.bind_eq_some_iff.2 ⟨s.console, rfl, ?_⟩
  exact Option.bind_eq_some_iff.2 ⟨_, hwebhooks, rfl⟩

/-- **The settings are read back from their document**, section by section. -/
theorem ofJson?_document {s : Settings} (h : Bounded s)
    (hretries : ∀ w ∈ s.webhooks, w.maxRetries < 2 ^ 32) :
    ofJson? false (Toml.table (tomlEntries (document s))).toJson = some s := by
  have hvalues : fields? false ((sections false).map (·.1))
      (Toml.table (tomlEntries (document s))).toJson =
      some [some (.obj ((schedulerFields s).map member)), some (.obj ((busFields s).map member)),
        some (.obj ((httpFields s).map member)), some (.obj ((loggingFields s).map member)),
        some (.obj [("console", .bool s.console),
          ("webhooks", .arr (s.webhooks.map webhookJson))])] := by
    rw [toJson_document]
    rfl
  rw [ofJson?, hvalues]
  refine Option.bind_eq_some_iff.2 ⟨_, rfl, ?_⟩
  simp only [sections, List.zip_cons_cons, List.zip_nil_right, List.foldlM_cons, List.foldlM_nil,
    orElse]
  refine Option.bind_eq_some_iff.2 ⟨_, readScheduler_members h _, ?_⟩
  refine Option.bind_eq_some_iff.2 ⟨_, readBus_members h _, ?_⟩
  refine Option.bind_eq_some_iff.2 ⟨_, readHttp_members h _, ?_⟩
  refine Option.bind_eq_some_iff.2 ⟨_, readLogging_members s _, ?_⟩
  exact Option.bind_eq_some_iff.2 ⟨_, readConsumers_members h hretries _, rfl⟩

/-! ### Files -/

/-- **The text of the settings denotes them.** -/
theorem ofToml?_text {s : Settings} (h : Bounded s)
    (hws : ∀ w ∈ s.webhooks, w.maxRetries < 2 ^ 32 ∧ (w.headers.map Prod.fst).Nodup) :
    ofToml? s.text = some s := by
  rw [ofToml?, read?_text h fun w hw => (hws w hw).2, Option.bind_some]
  exact ofJson?_document h fun w hw => (hws w hw).1

theorem toToml?_of_le {s : Settings} (h : ∀ n ∈ s.numbers, n ≤ maxInt) :
    s.toToml? = some (String.ofList s.text) :=
  if_pos (by simpa using h)

theorem toToml?_of_lt {s : Settings} (h : ∃ n ∈ s.numbers, maxInt < n) : s.toToml? = none := by
  obtain ⟨n, hn, hlarge⟩ := h
  refine if_neg fun hall => ?_
  have hle : ∀ n ∈ s.numbers, n ≤ maxInt := by simpa using hall
  exact absurd hlarge (Nat.not_lt_of_ge (hle n hn))

/-- The check prints settings that are in order and have a text. -/
theorem check_of_text {s : Settings} {text : String} (hcheck : s.check = .ok ())
    (h : s.toToml? = some text) :
    Program.check s = .ok { code := 0, out := "Configuration OK\n\n" ++ text ++ "\n" } := by
  rw [Program.check, Program.checkSettings, hcheck, h]
  rfl

/-- The check prints nothing of settings that have no text. -/
theorem check_of_none {s : Settings} (h : s.toToml? = none) :
    ∃ e, Program.check s = .error e ∧ e.code = 1 ∧ e.out = "" := by
  rw [Program.check, Program.checkSettings, h]
  cases s.check with
  | error fault => exact ⟨_, rfl, rfl, rfl⟩
  | ok _ => exact ⟨_, rfl, rfl, rfl⟩

/-- **What the check prints of settings loads back**, and what cannot load back is not printed. The
number of retries has 32 bits, and no webhook has two headers of one name.

* If no number exceeds the largest integer of a document, the settings have a text, and a file with
  the bytes of that text holds these settings. The check prints the text if it finds no fault.
* If a number exceeds it, there is no text, and the check fails and prints nothing. -/
theorem loads_back (s : Settings)
    (hws : ∀ w ∈ s.webhooks, w.maxRetries < 2 ^ 32 ∧ (w.headers.map Prod.fst).Nodup) :
    ((∀ n ∈ s.numbers, n ≤ maxInt) →
      ∃ text, s.toToml? = some text ∧ ofFile (some (Text.encode text.toList)) = .ok s ∧
        (s.check = .ok () →
          Program.check s = .ok { code := 0, out := "Configuration OK\n\n" ++ text ++ "\n" })) ∧
    ((∃ n ∈ s.numbers, maxInt < n) →
      s.toToml? = none ∧ ∃ e, Program.check s = .error e ∧ e.code = 1 ∧ e.out = "") := by
  constructor
  · intro h
    have htext := toToml?_of_le h
    refine ⟨_, htext, ?_, fun hcheck => check_of_text hcheck htext⟩
    simp only [ofFile, String.toList_ofList, Text.decode?_encode,
      ofToml?_text (bounded_of_numbers h) hws]
  · intro h
    have hnone := toToml?_of_lt h
    exact ⟨hnone, check_of_none hnone⟩

/-- Settings with texts that need each way of writing, and with two webhooks. -/
def assorted : Settings where
  concurrencyLimit := 7
  queueCapacity := some 32
  userAgent := "a \"name\" in marks"
  logLevel := "\"\"\" and \x27\x27\x27\n\\"
  webhooks := [
    { url := "http://127.0.0.1/", token := some "\"\"\n\"\"",
      headers := [("X-Key", "\t"), ("", "\x27"), ("a.\"b\"", "\\")] },
    { url := "http://127.0.0.2/" }]

/-- These settings load back, and with a larger limit nothing is printed. -/
theorem assorted_loads_back :
    (∃ text, assorted.toToml? = some text ∧
      ofFile (some (Text.encode text.toList)) = .ok assorted) ∧
    { assorted with concurrencyLimit := maxInt + 1 }.toToml? = none := by
  have hws : ∀ w ∈ assorted.webhooks, w.maxRetries < 2 ^ 32 ∧ (w.headers.map Prod.fst).Nodup := by
    decide
  obtain ⟨text, htext, hload, -⟩ := (loads_back assorted hws).1 (by decide)
  have hlarge := (loads_back { assorted with concurrencyLimit := maxInt + 1 } hws).2
    ⟨maxInt + 1, by simp [numbers], Nat.lt_succ_self _⟩
  exact ⟨⟨text, htext, hload⟩, hlarge.1⟩

end Settings
end StatusRelay
