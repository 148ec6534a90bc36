/-
# The document of settings

What is written of settings are the lines of a document with one table for each section. A setting
that may be absent is left out when it is. The webhooks are tables of their own, each with the table
of its headers inside; where there are none, an empty array stands in their place.

| section | entries | tables inside |
| --- | --- | --- |
| scheduler | the limit | |
| bus | the capacity, if there is one | |
| http | the timeout, the name of the agent | |
| logging | the level, the format | |
| consumers | the console, the empty array if there are no webhooks | the webhooks, their headers |
-/

import StatusRelay.Proofs.Toml.Lines

namespace StatusRelay
namespace Settings

open Toml

variable {name : String} {cs : List Char} {header : List String} {es r : Entries}

/-! ### Entries -/

/-- The entry of a number. -/
def numberField (name : String) (n : Nat) : Field :=
  ⟨name.toList, name, (toString n).toList, .int n⟩

/-- The entry of a text. -/
def textField (name : String) (s : String) : Field :=
  ⟨name.toList, name, writeString s.toList, .str s⟩

/-- The entry of a truth value. -/
def boolField (name : String) (b : Bool) : Field :=
  ⟨name.toList, name, (toString b).toList, .bool b⟩

/-- The entry of an array of nothing. -/
def emptyField (name : String) : Field := ⟨name.toList, name, ['[', ']'], .arr []⟩

/-- The entry of a header, whose name is any text. -/
def headerField (h : String × String) : Field :=
  ⟨writeName h.1.toList, h.1, writeString h.2.toList, .str h.2⟩

/-- Whether a name can stand without quotes. -/
def isBareName (name : String) : Bool := !name.toList.isEmpty && name.toList.all isBare

theorem names_isBareName (h : isBareName name = true) : Names name.toList name.toList := by
  obtain ⟨hne, hall⟩ : name.toList ≠ [] ∧ ∀ c ∈ name.toList, isBare c = true := by
    simpa [isBareName] using h
  exact names_bare hne hall

theorem writes_text (s : String) : Writes (writeString s.toList) (.str s) := by
  have hwrites := writes_string s.toList
  rwa [String.ofList_toList] at hwrites

theorem faithful_number (hname : isBareName name = true) {n : Nat} (hn : n ≤ maxInt) :
    (numberField name n).Faithful :=
  ⟨names_isBareName hname, writes_number hn⟩

theorem faithful_text (hname : isBareName name = true) (s : String) :
    (textField name s).Faithful :=
  ⟨names_isBareName hname, writes_text s⟩

theorem faithful_bool (hname : isBareName name = true) (b : Bool) : (boolField name b).Faithful :=
  ⟨names_isBareName hname, writes_bool b⟩

theorem faithful_empty (hname : isBareName name = true) : (emptyField name).Faithful :=
  ⟨names_isBareName hname, writes_nothing⟩

theorem faithful_header (h : String × String) : (headerField h).Faithful :=
  ⟨names_writeName h.1.toList, writes_text h.2⟩

@[simp] theorem line_number (name : String) (n : Nat) :
    (numberField name n).line = numberLine name n := rfl

@[simp] theorem line_text (name s : String) : (textField name s).line = textLine name s := rfl

/-! ### Webhooks -/

/-- The entries of a webhook. -/
def webhookFields (w : Webhook) : List Field :=
  textField "url" w.url :: ((w.token.map (textField "auth_token")).toList ++
    [numberField "timeout_secs" w.timeoutSecs, numberField "max_retries" w.maxRetries,
      numberField "retry_base_delay_ms" w.retryBaseDelayMs])

/-- The table of a webhook, with that of its headers. -/
def webhookTable (w : Webhook) : Entries :=
  (webhookFields w).map Field.entry ++
    [("headers", .table .defined ((w.headers.map headerField).map Field.entry))]

/-- The numbers of a webhook fit into a document. -/
def Fits (w : Webhook) : Prop :=
  w.timeoutSecs ≤ maxInt ∧ w.maxRetries ≤ maxInt ∧ w.retryBaseDelayMs ≤ maxInt

theorem names_webhook (w : Webhook) : ((webhookFields w).map Field.name).Sublist
    ["url", "auth_token", "timeout_secs", "max_retries", "retry_base_delay_ms"] := by
  unfold webhookFields
  cases w.token with
  | none => exact (List.sublist_cons_self _ _).cons_cons "url"
  | some t => exact List.Sublist.refl _

theorem headers_not_mem (w : Webhook) :
    "headers" ∉ ((webhookFields w).map Field.entry).map Prod.fst := by
  rw [List.map_map]
  intro hmem
  exact absurd ((names_webhook w).subset hmem) (by decide)

theorem isTable_webhook {w : Webhook} (h : Fits w) : IsTable (webhookFields w) := by
  obtain ⟨htimeout, hretries, hdelay⟩ := h
  have htoken : ∀ f ∈ (w.token.map (textField "auth_token")).toList, f.Faithful := by
    cases w.token with
    | none => exact nofun
    | some t => simpa using faithful_text (by decide) t
  constructor
  · simp only [webhookFields, List.forall_mem_cons, List.forall_mem_append]
    exact ⟨faithful_text (by decide) w.url, htoken, faithful_number (by decide) htimeout,
      faithful_number (by decide) hretries, faithful_number (by decide) hdelay, nofun⟩
  · exact (names_webhook w).nodup (by decide)

theorem isTable_headers {w : Webhook} (h : (w.headers.map Prod.fst).Nodup) :
    IsTable (w.headers.map headerField) := by
  constructor
  · exact List.forall_mem_map.2 fun h _ => faithful_header h
  · rw [List.map_map]
    exact h

theorem webhookText_append (w : Webhook) (cs : List Char) :
    webhookText w ++ cs = '\n' :: '[' :: ("[consumers.webhooks]]\n".toList ++
      ((webhookFields w).flatMap Field.line ++ '\n' :: '[' ::
        ("consumers.webhooks.headers]\n".toList ++
          ((w.headers.map headerField).flatMap Field.line ++ cs)))) := by
  have htoken : (w.token.map (textField "auth_token")).toList.flatMap Field.line =
      (w.token.map (textLine "auth_token")).getD [] := by
    cases w.token <;> simp
  have hheaders : (w.headers.map headerField).flatMap Field.line = w.headers.flatMap fun h =>
      writeName h.1.toList ++ " = ".toList ++ writeString h.2.toList ++ ['\n'] := by
    rw [List.flatMap_map]
    rfl
  have hitem : "\n[[consumers.webhooks]]\n".toList =
      '\n' :: '[' :: "[consumers.webhooks]]\n".toList := rfl
  have htable : "\n[consumers.webhooks.headers]\n".toList =
      '\n' :: '[' :: "consumers.webhooks.headers]\n".toList := rfl
  unfold webhookText webhookFields
  rw [hitem, htable, hheaders]
  simp only [List.flatMap_cons, List.flatMap_append, List.flatMap_nil, htoken, line_number,
    line_text, List.append_assoc, List.append_nil, List.cons_append]

/-- **The lines of a webhook put its table behind those of the webhooks before it.** -/
theorem reads_webhook {p : Place} (hp : p.path = ["consumers"])
    {before : Entries} (hbefore : "webhooks" ∉ before.map Prod.fst) {w : Webhook} (hw : Fits w)
    (hheaders : (w.headers.map Prod.fst).Nodup) (items : List Entries)
    (h : ∀ header, Reads header
      (p.plug (before ++ several "webhooks" (items ++ [webhookTable w]))) cs r) :
    Reads header (p.plug (before ++ several "webhooks" items)) (webhookText w ++ cs) r := by
  let f : Frame := ⟨before, "webhooks", .tables items, hbefore⟩
  have hpath : Place.path (p ++ [f]) = ["consumers", "webhooks"] := by rw [path_concat, hp]; rfl
  have hplug : ∀ es, p.plug (before ++ several "webhooks" (items ++ [es])) =
      Place.plug (p ++ [f]) es := fun es => by rw [several_concat, plug_concat]; rfl
  simp only [hplug] at h
  rw [webhookText_append]
  refine reads_blank (reads_item p items hbefore ?_ (isTable_webhook hw) (reads_blank ?_))
  · rw [hp]
    exact fun _ => rfl
  rw [hplug]
  refine reads_table (p ++ [f]) (headers_not_mem w) ?_ (isTable_headers hheaders) (h _)
  rw [hpath]
  exact fun _ => rfl

theorem reads_webhooks {p : Place} (hp : p.path = ["consumers"])
    {before : Entries} (hbefore : "webhooks" ∉ before.map Prod.fst) {ws : List Webhook}
    (hws : ∀ w ∈ ws, Fits w ∧ (w.headers.map Prod.fst).Nodup) (items : List Entries) :
    Reads header (p.plug (before ++ several "webhooks" items)) (ws.flatMap webhookText)
      (p.plug (before ++ several "webhooks" (items ++ ws.map webhookTable))) := by
  induction ws generalizing items header with
  | nil => simpa using reads_end header (p.plug (before ++ several "webhooks" items))
  | cons w ws ih =>
    obtain ⟨⟨hw, hheaders⟩, hws⟩ := List.forall_mem_cons.1 hws
    rw [List.flatMap_cons]
    refine reads_webhook hp hbefore hw hheaders items fun header => ?_
    simpa using @ih header hws (items ++ [webhookTable w])

/-! ### The document -/

/-- The entries of the scheduler. -/
def schedulerFields (s : Settings) : List Field :=
  [numberField "concurrency_limit" s.concurrencyLimit]

/-- The entries of the bus. -/
def busFields (s : Settings) : List Field :=
  (s.queueCapacity.map (numberField "queue_capacity")).toList

/-- The entries of requests. -/
def httpFields (s : Settings) : List Field :=
  [numberField "request_timeout_secs" s.requestTimeoutSecs, textField "user_agent" s.userAgent]

/-- The entries of the log. -/
def loggingFields (s : Settings) : List Field :=
  [textField "level" s.logLevel, textField "format" s.logFormat]

/-- The entries of the consumers. -/
def consumersFields (s : Settings) : List Field :=
  boolField "console" s.console :: if s.webhooks.isEmpty then [emptyField "webhooks"] else []

/-- The section with some entries. -/
def sectionEntry (name : String) (es : Entries) : String × Entry := (name, .table .defined es)

/-- The document of the settings. -/
def document (s : Settings) : Entries := [
  sectionEntry "scheduler" ((schedulerFields s).map Field.entry),
  sectionEntry "bus" ((busFields s).map Field.entry),
  sectionEntry "http" ((httpFields s).map Field.entry),
  sectionEntry "logging" ((loggingFields s).map Field.entry),
  sectionEntry "consumers" ((consumersFields s).map Field.entry ++
    several "webhooks" (s.webhooks.map webhookTable))]

/-- The text of the settings, section by section. -/
theorem text_eq (s : Settings) :
    s.text = '[' :: ("scheduler]\n".toList ++ ((schedulerFields s).flatMap Field.line ++
      '\n' :: '[' :: ("bus]\n".toList ++ ((busFields s).flatMap Field.line ++
      '\n' :: '[' :: ("http]\n".toList ++ ((httpFields s).flatMap Field.line ++
      '\n' :: '[' :: ("logging]\n".toList ++ ((loggingFields s).flatMap Field.line ++
      '\n' :: '[' :: ("consumers]\n".toList ++ ((consumersFields s).flatMap Field.line ++
        s.webhooks.flatMap webhookText)))))))))) := by
  have hbus : (busFields s).flatMap Field.line =
      (s.queueCapacity.map (numberLine "queue_capacity")).getD [] := by
    unfold busFields
    cases s.queueCapacity <;> simp
  have hconsumers : (consumersFields s).flatMap Field.line ++ s.webhooks.flatMap webhookText =
      line "console" (toString s.console).toList ++
        if s.webhooks.isEmpty then line "webhooks" ['[', ']']
        else s.webhooks.flatMap webhookText := by
    unfold consumersFields
    cases hws : s.webhooks with
    | nil => simp [boolField, emptyField, Field.line, line]
    | cons w ws => simp [boolField, Field.line, line]
  rw [hconsumers, hbus]
  unfold text schedulerFields httpFields loggingFields
  have hscheduler : "[scheduler]\n".toList = '[' :: "scheduler]\n".toList := rfl
  have hbusHead : "\n[bus]\n".toList = '\n' :: '[' :: "bus]\n".toList := rfl
  have hhttp : "\n[http]\n".toList = '\n' :: '[' :: "http]\n".toList := rfl
  have hlogging : "\n[logging]\n".toList = '\n' :: '[' :: "logging]\n".toList := rfl
  have hconsumersHead : "\n[consumers]\n".toList = '\n' :: '[' :: "consumers]\n".toList := rfl
  rw [hscheduler, hbusHead, hhttp, hlogging, hconsumersHead]
  simp only [List.flatMap_cons, List.flatMap_nil, line_number, line_text, List.append_assoc,
    List.append_nil, List.cons_append]

/-! ### The document is read -/

/-- The numbers of the settings fit into a document. -/
structure Bounded (s : Settings) : Prop where
  concurrency : s.concurrencyLimit ≤ maxInt
  capacity : ∀ n ∈ s.queueCapacity, n ≤ maxInt
  timeout : s.requestTimeoutSecs ≤ maxInt
  webhooks : ∀ w ∈ s.webhooks, Fits w

theorem bounded_of_numbers {s : Settings} (h : ∀ n ∈ s.numbers, n ≤ maxInt) : Bounded s := by
  constructor
  · exact h _ (by simp [numbers])
  · intro n hn
    exact h n (by simp [numbers, Option.mem_def.1 hn])
  · exact h _ (by simp [numbers])
  · intro w hw
    have hmem : ∀ n ∈ [w.timeoutSecs, w.maxRetries, w.retryBaseDelayMs], n ≤ maxInt :=
      fun n hn => h n (List.mem_append_right _ (List.mem_flatMap.2 ⟨w, hw, hn⟩))
    exact ⟨hmem _ (by simp), hmem _ (by simp), hmem _ (by simp)⟩

theorem isTable_scheduler {s : Settings} (h : Bounded s) : IsTable (schedulerFields s) := by
  constructor
  · exact List.forall_mem_singleton.2 (faithful_number (by decide) h.concurrency)
  · exact (show ["concurrency_limit"].Nodup by decide)

theorem isTable_bus {s : Settings} (h : Bounded s) : IsTable (busFields s) := by
  have hcapacity := h.capacity
  unfold busFields
  cases hq : s.queueCapacity with
  | none => exact ⟨nofun, List.nodup_nil⟩
  | some n =>
    constructor
    · exact List.forall_mem_singleton.2 (faithful_number (by decide) (hcapacity n hq))
    · exact (show ["queue_capacity"].Nodup by decide)

theorem isTable_http {s : Settings} (h : Bounded s) : IsTable (httpFields s) := by
  constructor
  · simp only [httpFields, List.forall_mem_cons]
    exact ⟨faithful_number (by decide) h.timeout, faithful_text (by decide) s.userAgent, nofun⟩
  · exact (show ["request_timeout_secs", "user_agent"].Nodup by decide)

theorem isTable_logging (s : Settings) : IsTable (loggingFields s) := by
  constructor
  · simp only [loggingFields, List.forall_mem_cons]
    exact ⟨faithful_text (by decide) s.logLevel, faithful_text (by decide) s.logFormat, nofun⟩
  · exact (show ["level", "format"].Nodup by decide)

theorem isTable_consumers (s : Settings) : IsTable (consumersFields s) := by
  have hconsole : (boolField "console" s.console).Faithful := faithful_bool (by decide) s.console
  unfold consumersFields
  split
  · constructor
    · exact List.forall_mem_cons.2
        ⟨hconsole, List.forall_mem_singleton.2 (faithful_empty (by decide))⟩
    · exact (show ["console", "webhooks"].Nodup by decide)
  · constructor
    · exact List.forall_mem_singleton.2 hconsole
    · exact (show ["console"].Nodup by decide)

/-- A section goes behind those before it. -/
theorem reads_section (name : String) {text : List Char} (hhead : Heads text false [] name)
    (names : List String) (hes : es.map Prod.fst = names) (hname : name ∉ names)
    {fields : List Field} (hfields : IsTable fields)
    (h : Reads [name] (es ++ [sectionEntry name (fields.map Field.entry)]) cs r) :
    Reads header es ('[' :: (text ++ (fields.flatMap Field.line ++ cs))) r :=
  reads_table [] (hes ▸ hname) hhead hfields h

/-- The webhooks go behind the entries of the consumers. -/
theorem reads_consumers {s : Settings} (h : Bounded s)
    (hheaders : ∀ w ∈ s.webhooks, (w.headers.map Prod.fst).Nodup)
    (hes : "consumers" ∉ es.map Prod.fst) :
    Reads header (es ++ [sectionEntry "consumers" ((consumersFields s).map Field.entry)])
      (s.webhooks.flatMap webhookText)
      (es ++ [sectionEntry "consumers" ((consumersFields s).map Field.entry ++
        several "webhooks" (s.webhooks.map webhookTable))]) := by
  let f : Frame := ⟨es, "consumers", .table .defined, hes⟩
  cases hnil : s.webhooks with
  | nil =>
    rw [List.map_nil, several_nil, List.append_nil]
    exact reads_end header _
  | cons w ws =>
    have hbefore : "webhooks" ∉ ((consumersFields s).map Field.entry).map Prod.fst := by
      rw [consumersFields, hnil, List.map_map]
      exact (show "webhooks" ∉ ["console"] by decide)
    have hread := @reads_webhooks header [f] rfl _ hbefore s.webhooks
      (fun w hw => ⟨h.webhooks w hw, hheaders w hw⟩) []
    rw [several_nil, List.append_nil] at hread
    rw [← hnil]
    exact hread

/-- **The lines of the settings make up their document**, if no number is too large for one. -/
theorem reads_text {s : Settings} (h : Bounded s)
    (hheaders : ∀ w ∈ s.webhooks, (w.headers.map Prod.fst).Nodup) :
    Reads [] [] s.text (document s) := by
  rw [text_eq]
  refine reads_section "scheduler" (fun _ => rfl) [] rfl (by decide) (isTable_scheduler h)
    (reads_blank ?_)
  refine reads_section "bus" (fun _ => rfl) ["scheduler"] rfl (by decide) (isTable_bus h)
    (reads_blank ?_)
  refine reads_section "http" (fun _ => rfl) ["scheduler", "bus"] rfl (by decide)
    (isTable_http h) (reads_blank ?_)
  refine reads_section "logging" (fun _ => rfl) ["scheduler", "bus", "http"] rfl (by decide)
    (isTable_logging s) (reads_blank ?_)
  refine reads_section "consumers" (fun _ => rfl) ["scheduler", "bus", "http", "logging"] rfl
    (by decide) (isTable_consumers s) ?_
  exact reads_consumers h hheaders
    (show "consumers" ∉ ["scheduler", "bus", "http", "logging"] by decide)

/-- **The text of the settings reads back as their document.** -/
theorem read?_text {s : Settings} (h : Bounded s)
    (hheaders : ∀ w ∈ s.webhooks, (w.headers.map Prod.fst).Nodup) :
    Toml.read? s.text = some (.table (tomlEntries (document s))) := by
  have hlines : lines? [] [] s.text (s.text.length + 1) = some (document s) :=
    reads_text h hheaders _ (Nat.lt_succ_self _)
  have hmark : ∀ cs : List Char, Toml.read? ('[' :: cs) =
      (lines? [] [] ('[' :: cs) (('[' :: cs).length + 1)).map fun es => .table (tomlEntries es) :=
    fun cs => rfl
  rw [text_eq] at hlines ⊢
  rw [hmark, hlines]
  rfl

end Settings
end StatusRelay
