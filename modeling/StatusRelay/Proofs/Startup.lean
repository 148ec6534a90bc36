/-
# What it takes to begin

A monitor is set up from its settings, and begins its run if nothing is in the way. Two numbers in
the settings are numbers of permits in the end, and are looked at in three places:

| number | the settings | the scheduler | the bus |
| --- | --- | --- | --- |
| fetches at once | refuse zero | refuses zero, and more than there can be permits | |
| events in a queue | refuse zero | | takes zero for one; cannot make larger queues |

So valid settings are good for everything up to the beginning of a run, and for the run itself if
both numbers are small enough. `Monitor.begins_within_bounds` says so, and what happens otherwise.
-/

import StatusRelay.Proofs.World.Roster
import StatusRelay.Monitor

namespace StatusRelay

/-! ### Valid settings -/

namespace Settings

theorem checkWebhooks_eq_ok {ws : List Webhook} :
    checkWebhooks ws = .ok () ↔ ∀ w ∈ ws, ∃ url, w.check = .ok url := by
  induction ws with
  | nil => simp [checkWebhooks]
  | cons w ws ih =>
    rw [List.forall_mem_cons, ← ih, checkWebhooks]
    cases h : w.check with
    | error fault => simp
    | ok url => simp

/-- What the check of settings looks at. -/
theorem check_eq_ok {s : Settings} : s.check = .ok () ↔
    s.concurrencyLimit ≠ 0 ∧ s.queueCapacity ≠ some 0 ∧ s.requestTimeoutSecs ≠ 0 ∧
      (s.logFormat = "text" ∨ s.logFormat = "json") ∧
      ∀ w ∈ s.webhooks, ∃ url, w.check = .ok url := by
  rw [← checkWebhooks_eq_ok, check]
  split_ifs with hlimit hcapacity htimeout hformat
  · simp [hlimit]
  · simp [hcapacity]
  · simp [htimeout]
  · simp [hformat]
  · simp only [hlimit, hcapacity, htimeout, ne_eq, not_false_eq_true, true_and]
    tauto

/-- The sinks that settings name, given the replies that each webhook will get. -/
def sinks (s : Settings) (reply : Nat → Nat → Nat → Http.Reply) : List Sink :=
  (if s.console then [.console] else []) ++ s.webhooks.zipIdx.map fun w => .webhook w.1 (reply w.2)

end Settings

/-! ### Setting up -/

namespace Registry

variable {α : Type}

theorem register_of_notMem {r : Registry α} {name : String} (value : α) (h : name ∉ r.names) :
    ∃ r', r.register name value = .ok r' ∧ r'.entries = r.entries ++ [(name, value)] :=
  ⟨_, dif_neg h, rfl⟩

end Registry

namespace Monitor

/-- **Providers of different names** can be registered one after the other. -/
theorem register_all (m : Monitor) {providers : List Provider}
    (h : (m.registry.names ++ providers.map Provider.name).Nodup) :
    ∃ registry, providers.foldlM register m = .ok { m with registry := registry } ∧
      registry.entries = m.registry.entries ++ providers.map fun p => (p.name, p) := by
  induction providers generalizing m with
  | nil => exact ⟨m.registry, rfl, (List.append_nil _).symm⟩
  | cons p providers ih =>
    have hp : p.name ∉ m.registry.names := fun hp =>
      (List.nodup_append.1 h).2.2 p.name hp p.name (by simp) rfl
    obtain ⟨r, hr, hentries⟩ := Registry.register_of_notMem p hp
    have hm : m.register p = .ok { m with registry := r } := by
      rw [register, hr]
      rfl
    have hnames : r.names = m.registry.names ++ [p.name] := by
      unfold Registry.names
      rw [hentries, List.map_append]
      rfl
    obtain ⟨registry, hall, hmore⟩ := ih { m with registry := r } (by
      rw [hnames, List.append_assoc]
      exact h)
    refine ⟨registry, ?_, ?_⟩
    · rw [List.foldlM_cons, hm]
      exact hall
    · rw [hmore, hentries, List.append_assoc]
      rfl

/-- Every webhook that is valid gets its sink. -/
theorem addWebhooks_eq (m : Monitor) (reply : Nat → Nat → Nat → Http.Reply) (number : Nat)
    {ws : List Webhook} (h : ∀ w ∈ ws, ∃ url, w.check = .ok url) :
    m.addWebhooks reply number ws = (none, { m with
      sinks := m.sinks ++ (ws.zipIdx number).map fun w => .webhook w.1 (reply w.2) }) := by
  induction ws generalizing m number with
  | nil => simp [addWebhooks]
  | cons w ws ih =>
    obtain ⟨⟨url, hurl⟩, hws⟩ := List.forall_mem_cons.1 h
    rw [addWebhooks, hurl]
    simp only [ih _ _ hws, addSink, List.zipIdx_cons, List.map_cons, List.append_assoc,
      List.singleton_append]

theorem addConfigured_eq {m : Monitor} (reply : Nat → Nat → Nat → Http.Reply)
    (h : m.settings.check = .ok ()) : m.addConfigured reply =
      (none, { m with sinks := m.sinks ++ m.settings.sinks reply }) := by
  obtain ⟨-, -, -, -, hws⟩ := Settings.check_eq_ok.1 h
  unfold addConfigured Settings.sinks
  cases m.settings.console with
  | true =>
    refine (addWebhooks_eq (m.addSink .console) reply 0 hws).trans ?_
    rw [addSink, List.append_assoc]
    rfl
  | false => exact addWebhooks_eq m reply 0 hws

end Monitor

/-! ### Subscribing -/

namespace Bus

/-- The bus with so many more queues, in which there is nothing yet. -/
def widened (b : Bus) (n : Nat) : Bus := { b with
  queues := b.queues ++ (List.range' b.nextId n).map fun id => ⟨id, true, [], 0⟩
  nextId := b.nextId + n }

theorem widened_zero (b : Bus) : b.widened 0 = b := by
  simp [widened]

theorem widened_widened_one (b : Bus) (n : Nat) :
    (b.widened 1).widened n = b.widened (n + 1) := by
  simp [widened, List.range'_succ, Nat.add_assoc, Nat.add_comm 1 n]

theorem subscribe?_eq_some {b : Bus} (h : b.capacity.getD 0 ≤ maxCapacity) :
    b.subscribe? = some (b.nextId, b.widened 1) := if_pos h

/-- A limit of zero counts as one, and a queue of one can be made. -/
theorem fits_new (capacity : Option Nat) :
    (new capacity).capacity.getD 0 ≤ maxCapacity ↔ capacity.getD 0 ≤ maxCapacity := by
  cases capacity with
  | none => rfl
  | some n =>
    change max 1 n ≤ 2305843009213693951 ↔ n ≤ 2305843009213693951
    omega

end Bus

/-- The consumer of a sink at a queue, before it has been polled. -/
def Task.ofSink (now : Nat) (s : Sink × Nat) : Task :=
  .consumer { sink := s.1, queue := s.2, started := now }

namespace World

/-- To add a task has nothing to do with the bus. -/
theorem spawn_withBus (w : World) (bus : Bus) (t : Task) :
    ({ w with bus := bus } : World).spawn t = { w.spawn t with bus := bus } := by
  unfold spawn wake
  split <;> rfl

theorem now_spawn (w : World) (t : Task) : (w.spawn t).now = w.now := by
  obtain ⟨more, hw, -⟩ := spawn_eq w t
  rw [hw]

theorem recruits_eq_zipIdx (w : World) :
    w.recruits = w.providers.zipIdx.map fun p => .ofProvider w.runs p.2 p.1 := by
  refine List.ext_getElem (by simp [recruits]) fun i hi hj => ?_
  simp [recruits]

/-- Tasks are added, and then the workers. All of them are to be polled. -/
theorem start_foldl_eq (w : World) (ts : List Task) : ∃ more, (ts.foldl spawn w).start = { w with
      runs := w.runs + 1
      tasks := w.tasks ++ ts ++ w.recruits.map .worker
      ready := w.ready ++ more } ∧
    ∀ j, w.tasks.length ≤ j → j < (w.tasks ++ ts ++ w.recruits.map Task.worker).length →
      j ∈ w.ready ++ more := by
  obtain ⟨more, hw, hmem⟩ := spawn_foldl_eq w ts
  obtain ⟨more', hstart, hmem'⟩ := start_eq (ts.foldl spawn w)
  rw [hw] at hstart hmem'
  refine ⟨more ++ more', ?_, fun j hj hlt => ?_⟩
  · rw [hw, hstart, ← List.append_assoc]
    rfl
  · rw [← List.append_assoc]
    rw [List.length_append, List.length_map] at hlt
    by_cases hts : j < (w.tasks ++ ts).length
    · rw [List.length_append] at hts
      exact List.mem_append_left _ (hmem j hj hts)
    · exact hmem' j (Nat.le_of_not_lt hts) hlt

end World

namespace Monitor

/-- **Where queues can be made,** or none is needed, every sink gets a consumer and a queue. -/
theorem consumeAll_eq (w : World) {sinks : List Sink}
    (h : sinks ≠ [] → w.bus.capacity.getD 0 ≤ Bus.maxCapacity) : consumeAll w sinks =
      some (((sinks.zipIdx w.bus.nextId).map (Task.ofSink w.now)).foldl World.spawn
        { w with bus := w.bus.widened sinks.length }) := by
  induction sinks generalizing w with
  | nil => simp [consumeAll, Bus.widened_zero]
  | cons sink sinks ih =>
    have hfits := h (List.cons_ne_nil sink sinks)
    let t := Task.ofSink w.now (sink, w.bus.nextId)
    have hs : w.subscribe? = some (w.bus.nextId, { w with bus := w.bus.widened 1 }) := by
      rw [World.subscribe?, Bus.subscribe?_eq_some hfits]
      rfl
    have hconsume : ({ w with bus := w.bus.widened 1 } : World).consume sink w.bus.nextId =
        { w.spawn t with bus := w.bus.widened 1 } := World.spawn_withBus w _ t
    -- the rest is done with one queue more, and then the two steps of widening are one
    calc consumeAll w (sink :: sinks)
        = consumeAll { w.spawn t with bus := w.bus.widened 1 } sinks := by
          rw [consumeAll, hs, ← hconsume]
          rfl
      _ = some (((sinks.zipIdx (w.bus.nextId + 1)).map
            (Task.ofSink (w.spawn t).now)).foldl World.spawn
              { w.spawn t with bus := (w.bus.widened 1).widened sinks.length }) :=
          ih { w.spawn t with bus := w.bus.widened 1 } fun _ => hfits
      _ = _ := by
          rw [World.now_spawn, Bus.widened_widened_one, ← World.spawn_withBus]
          rfl

/-- **Where queues cannot be made,** this is found out with the first sink. -/
theorem consumeAll_eq_none {w : World} {sinks : List Sink}
    (h : Bus.maxCapacity < w.bus.capacity.getD 0) (hsinks : sinks ≠ []) :
    consumeAll w sinks = none := by
  obtain ⟨sink, sinks, rfl⟩ := List.exists_cons_of_ne_nil hsinks
  rw [consumeAll, World.subscribe?, Bus.subscribe?, if_neg (Nat.not_le.2 h)]
  rfl

/-! ### Beginning -/

/-- **A run has begun:** every sink has a consumer and a queue of its own, every provider has a
worker, all of them are to be polled, and nothing has happened yet. -/
structure Begun (m : Monitor) (w : World) : Prop where
  tasks : w.tasks = m.sinks.zipIdx.map (Task.ofSink 0) ++
    (m.registry.entries.map (·.2)).zipIdx.map fun p => .worker (.ofProvider 0 p.2 p.1)
  ready : ∀ i < w.tasks.length, i ∈ w.ready
  bus : w.bus = (Bus.new m.settings.queueCapacity).widened m.sinks.length
  permits : w.permits = .new m.settings.concurrencyLimit
  log : w.log = []

section Open

variable {m : Monitor} (h : m.settings.check = .ok ())

include h

theorem open?_of_limit_le (hlimit : m.settings.concurrencyLimit ≤ Permits.maxCount) :
    m.open? = (consumeAll (.new m.settings.concurrencyLimit m.settings.queueCapacity
      (m.registry.entries.map (·.2))) m.sinks).elim (.error .queueTooLarge) (.ok ·.start) := by
  obtain ⟨hzero, -⟩ := Settings.check_eq_ok.1 h
  rw [open?, h]
  simp only [Scheduler.new, if_neg (not_or.2 ⟨hzero, Nat.not_lt.2 hlimit⟩)]
  generalize consumeAll _ _ = gathered
  cases gathered <;> rfl

theorem open?_of_lt_limit (hlimit : Permits.maxCount < m.settings.concurrencyLimit) : m.open? =
    .error (.failed (.scheduler (.invalidConcurrency m.settings.concurrencyLimit))) := by
  rw [open?, h]
  simp only [Scheduler.new, if_pos (Or.inr hlimit)]

theorem open?_of_lt_capacity (hlimit : m.settings.concurrencyLimit ≤ Permits.maxCount)
    (hsinks : m.sinks ≠ []) (hqueue : Bus.maxCapacity < m.settings.queueCapacity.getD 0) :
    m.open? = .error .queueTooLarge := by
  have hlarge : Bus.maxCapacity < (Bus.new m.settings.queueCapacity).capacity.getD 0 :=
    Nat.not_le.1 fun hle => Nat.not_le.2 hqueue ((Bus.fits_new _).1 hle)
  rw [open?_of_limit_le h hlimit, consumeAll_eq_none hlarge hsinks]
  rfl

/-- **What is needed to begin** besides valid settings. -/
theorem exists_begun (hlimit : m.settings.concurrencyLimit ≤ Permits.maxCount)
    (hqueue : m.sinks ≠ [] → m.settings.queueCapacity.getD 0 ≤ Bus.maxCapacity) :
    ∃ w, m.open? = .ok w ∧ Begun m w := by
  let providers := m.registry.entries.map (·.2)
  let first := World.new m.settings.concurrencyLimit m.settings.queueCapacity providers
  let consumers := m.sinks.zipIdx.map (Task.ofSink 0)
  let ours : World := { first with bus := first.bus.widened m.sinks.length }
  have hconsume : consumeAll first m.sinks = some (consumers.foldl World.spawn ours) :=
    consumeAll_eq first fun hm => (Bus.fits_new _).2 (hqueue hm)
  obtain ⟨more, hstart, hready⟩ := World.start_foldl_eq ours consumers
  have hrecruits : ours.recruits = providers.zipIdx.map fun p => .ofProvider 0 p.2 p.1 :=
    World.recruits_eq_zipIdx ours
  refine ⟨(consumers.foldl World.spawn ours).start, ?_, ?_, fun i hi => ?_, ?_, ?_, ?_⟩
  · rw [open?_of_limit_le h hlimit, show consumeAll _ m.sinks = _ from hconsume]
    rfl
  · rw [hstart, hrecruits, List.map_map]
    rfl
  · rw [hstart] at hi ⊢
    exact hready i (Nat.zero_le i) hi
  · rw [hstart]
    rfl
  · rw [hstart]
    rfl
  · rw [hstart]
    rfl

end Open

/-- **Valid settings, and what they do not say.** With valid settings every provider is registered,
if no two have one name, and every webhook gets its sink, after the console if that is wanted.

* The run begins, with nothing left out, if there are no more fetches at once than there can be
  permits, and if queues, where there is a sink to need one, are not larger than they can be made.
* The settings do not exclude more fetches. The scheduler does, and the run fails before it begins.
* The settings do not exclude larger queues either, and nothing else does. The first subscription
  then brings the monitor down. -/
theorem begins_within_bounds {s : Settings} (h : s.check = .ok ()) {providers : List Provider}
    (hnames : (providers.map Provider.name).Nodup) (reply : Nat → Nat → Nat → Http.Reply) :
    ∃ m₀ m : Monitor,
      providers.foldlM register { settings := s } = .ok m₀ ∧
      m₀.addConfigured reply = (none, m) ∧
      m.settings = s ∧ m.registry.entries = providers.map (fun p => (p.name, p)) ∧
      m.sinks = s.sinks reply ∧
      (s.concurrencyLimit ≤ Permits.maxCount →
        (m.sinks ≠ [] → s.queueCapacity.getD 0 ≤ Bus.maxCapacity) →
          ∃ w, m.open? = .ok w ∧ Begun m w) ∧
      (Permits.maxCount < s.concurrencyLimit →
        m.open? = .error (.failed (.scheduler (.invalidConcurrency s.concurrencyLimit)))) ∧
      (s.concurrencyLimit ≤ Permits.maxCount → m.sinks ≠ [] →
        Bus.maxCapacity < s.queueCapacity.getD 0 → m.open? = .error .queueTooLarge) := by
  obtain ⟨registry, hregister, hentries⟩ := register_all { settings := s }
    (show ([] ++ providers.map Provider.name).Nodup from hnames)
  let m : Monitor := ⟨s, registry, s.sinks reply⟩
  refine ⟨{ settings := s, registry := registry }, m, hregister, addConfigured_eq reply h, rfl,
    hentries, rfl, ?_, ?_, ?_⟩
  · exact exists_begun (m := m) h
  · exact open?_of_lt_limit (m := m) h
  · exact open?_of_lt_capacity (m := m) h

/-- Two providers, a webhook beside the console, and queues for sixteen events: all of them are
there when the run begins. -/
theorem begins_within_bounds_of_two :
    let s : Settings := { queueCapacity := some 16, webhooks := [{ url := "http://[::1]/" }] }
    let provider := fun name => ({ name := name, interval := 5, fetch := fun _ => {} } : Provider)
    let providers := [provider "a", provider "b"]
    (s.check = .ok () ∧ (providers.map Provider.name).Nodup) ∧
      ∃ (m : Monitor) (w : World), m.settings = s ∧ m.open? = .ok w ∧
        w.consumers.map (·.sink.name) = ["console", "webhook"] ∧
        (w.workers 0).map Worker.name = ["a", "b"] := by
  intro s provider providers
  have hcheck : s.check = .ok () := by decide +kernel
  have hnames : (providers.map Provider.name).Nodup := by decide
  obtain ⟨-, m, -, -, hsettings, hentries, hsinks, hbegins, -⟩ :=
    begins_within_bounds hcheck hnames fun _ _ _ => .lost
  obtain ⟨w, hopen, hbegun⟩ := hbegins (by decide) fun _ => by decide
  refine ⟨⟨hcheck, hnames⟩, m, w, hsettings, hopen, ?_, ?_⟩
  · rw [World.consumers, hbegun.tasks, hsinks, hentries]
    rfl
  · rw [World.workers, hbegun.tasks, hsinks, hentries]
    rfl

/-- Valid settings with queues that are larger by one than they can be made, and valid settings
with one fetch more than there can be permits. -/
theorem valid_settings_not_enough :
    let begun := fun s : Settings =>
      (({ settings := s } : Monitor).addConfigured fun _ _ _ => .lost).2.open?
    let large : Settings := { queueCapacity := some 2305843009213693952 }
    let many : Settings := { concurrencyLimit := 2305843009213693952 }
    (large.check = .ok () ∧ begun large = .error .queueTooLarge) ∧
      (many.check = .ok () ∧ begun many =
        .error (.failed (.scheduler (.invalidConcurrency 2305843009213693952)))) :=
  ⟨⟨rfl, rfl⟩, rfl, rfl⟩

end Monitor
end StatusRelay
