/-
# The identifiers of events

The events of a feed are told apart by their identifiers: that of an incident, or of an incident and
a component with a colon between them. Two events have one identifier in these cases, and in no
others.

| the two events | have one identifier when |
| --- | --- |
| of one incident | it lists a component twice |
| of two incidents with one identifier | both list no component, or both list one of the same name |
| of two other incidents | one identifier goes on after the other as a component of the other does |

A store that admits each key once lets all events through if no two have one identifier.
-/

import StatusRelay.Proofs.Admission
import StatusRelay.StatusPage
import Mathlib.Data.List.Nodup

namespace StatusRelay

/-! ### What is admitted -/

namespace Admission

/-- **A store lets all events through** if it has seen none of their keys and no key comes twice. -/
theorem filter_eq_self {es : List Event} {s : Admission} (hes : (es.map Event.key).Nodup)
    (hs : ∀ e ∈ es, e.key ∉ s.keys) : (s.filter es).1 = es := by
  induction es generalizing s with
  | nil => rfl
  | cons e es ih =>
    rw [List.map_cons, List.nodup_cons] at hes
    have he := hs e List.mem_cons_self
    rw [filter_cons_of_not_mem es he]
    refine congrArg (e :: ·) (ih hes.2 fun e' he' => ?_)
    rw [(offer_of_not_mem he).2, List.mem_cons, not_or]
    refine ⟨fun heq => hes.1 (heq ▸ List.mem_map_of_mem he'), hs e' (List.mem_cons_of_mem _ he')⟩

theorem filter_empty_eq_self {es : List Event} :
    (empty.filter es).1 = es ↔ (es.map Event.key).Nodup := by
  constructor
  · intro h
    have hkeys := (empty.filter es).2.nodup
    rw [keys_filter, h] at hkeys
    exact List.nodup_reverse.1 (List.Nodup.of_append_left hkeys)
  · exact fun h => filter_eq_self h fun _ _ => List.not_mem_nil

end Admission

namespace Incident

variable {i j : Incident} {now : Timestamp}

/-! ### The events of an incident -/

/-- The identifiers of the events of an incident. -/
def ids (i : Incident) : List String :=
  if i.components.isEmpty then [i.id] else i.components.map (i.id ++ ":" ++ ·)

theorem ids_events (i : Incident) (now : Timestamp) : (i.events now).map Event.id = i.ids := by
  unfold events ids
  split
  · rfl
  · rw [List.map_map]
    rfl

theorem provider_of_mem_events {e : Event} (h : e ∈ i.events now) : e.provider = provider := by
  unfold events at h
  split at h
  · rw [List.mem_singleton.1 h]
  · obtain ⟨name, -, rfl⟩ := List.mem_map.1 h
    rfl

theorem mem_ids {id : String} : id ∈ i.ids ↔
    (i.components = [] ∧ id = i.id) ∨ ∃ c ∈ i.components, id = i.id ++ ":" ++ c := by
  unfold ids
  split
  · rename_i h
    simp [List.isEmpty_iff.1 h]
  · rename_i h
    have hne : i.components ≠ [] := fun hnil => h (List.isEmpty_iff.2 hnil)
    simp [hne, eq_comm]

/-- **An incident tells its events apart** if it lists no component twice. -/
theorem nodup_ids : i.ids.Nodup ↔ i.components.Nodup := by
  unfold ids
  split
  · rename_i h
    simp [List.isEmpty_iff.1 h]
  · exact List.nodup_map_iff fun _ _ h => (String.append_right_inj _).1 h

/-! ### Events of two incidents -/

/-- Two names in two parts are the same if their parts are, or one goes on where the other is
parted. -/
theorem joined_eq_iff {a b c d : String} : a ++ ":" ++ c = b ++ ":" ++ d ↔ (a = b ∧ c = d) ∨
    (∃ rest, a = b ++ ":" ++ rest ∧ d = rest ++ ":" ++ c) ∨
      ∃ rest, b = a ++ ":" ++ rest ∧ c = rest ++ ":" ++ d := by
  have hcolon : ":".toList = [':'] := rfl
  constructor
  · intro h
    have hlist := congrArg String.toList h
    simp only [String.toList_append, hcolon, List.append_assoc, List.singleton_append] at hlist
    -- The first parts end at one place, or one of them ends within the other, at its colon.
    rcases List.append_eq_append_iff.1 hlist with ⟨_ | ⟨x, rest⟩, hb, hc⟩ | ⟨_ | ⟨x, rest⟩, ha, hd⟩
    · refine Or.inl ⟨?_, ?_⟩
      · exact String.toList_inj.1 (by simpa using hb.symm)
      · exact String.toList_inj.1 (List.cons.inj hc).2
    · obtain ⟨rfl, hc⟩ := List.cons.inj hc
      refine Or.inr (Or.inr ⟨String.ofList rest, ?_, ?_⟩)
      · exact String.toList_inj.1 (by simpa [hcolon] using hb)
      · exact String.toList_inj.1 (by simpa [hcolon] using hc)
    · refine Or.inl ⟨?_, ?_⟩
      · exact String.toList_inj.1 (by simpa using ha)
      · exact String.toList_inj.1 (List.cons.inj hd).2.symm
    · obtain ⟨rfl, hd⟩ := List.cons.inj hd
      refine Or.inr (Or.inl ⟨String.ofList rest, ?_, ?_⟩)
      · exact String.toList_inj.1 (by simpa [hcolon] using ha)
      · exact String.toList_inj.1 (by simpa [hcolon] using hd)
  · rintro (⟨rfl, rfl⟩ | ⟨rest, rfl, rfl⟩ | ⟨rest, rfl, rfl⟩)
    · rfl
    · simp only [String.append_assoc]
    · simp only [String.append_assoc]

/-- Whether the identifier of an incident goes on, after that of another one and a colon, as a
component of the other does. -/
def Into (i j : Incident) : Prop := ∃ rest, i.id = j.id ++ ":" ++ rest ∧
  (i.components = [] ∧ rest ∈ j.components ∨ ∃ c ∈ i.components, rest ++ ":" ++ c ∈ j.components)

/-- **Whether two incidents have events with one identifier.** -/
def Clash (i j : Incident) : Prop :=
  (i.id = j.id ∧ (i.components = [] ∧ j.components = [] ∨ ∃ c ∈ i.components, c ∈ j.components)) ∨
    Into i j ∨ Into j i

theorem Into.mem_ids (h : Into i j) : ∃ id ∈ i.ids, id ∈ j.ids := by
  obtain ⟨rest, hid, ⟨hi, hj⟩ | ⟨c, hi, hj⟩⟩ := h
  · exact ⟨i.id, Incident.mem_ids.2 (Or.inl ⟨hi, rfl⟩), Incident.mem_ids.2 (Or.inr ⟨rest, hj, hid⟩)⟩
  · refine ⟨i.id ++ ":" ++ c, Incident.mem_ids.2 (Or.inr ⟨c, hi, rfl⟩),
      Incident.mem_ids.2 (Or.inr ⟨_, hj, ?_⟩)⟩
    exact joined_eq_iff.2 (Or.inr (Or.inl ⟨rest, hid, rfl⟩))

theorem clash_iff : (∃ id ∈ i.ids, id ∈ j.ids) ↔ Clash i j := by
  constructor
  · rintro ⟨id, hmi, hmj⟩
    rcases mem_ids.1 hmi with ⟨hi, rfl⟩ | ⟨c, hi, rfl⟩
    · rcases mem_ids.1 hmj with ⟨hj, hid⟩ | ⟨d, hj, hid⟩
      · exact Or.inl ⟨hid, Or.inl ⟨hi, hj⟩⟩
      · exact Or.inr (Or.inl ⟨d, hid, Or.inl ⟨hi, hj⟩⟩)
    · rcases mem_ids.1 hmj with ⟨hj, hid⟩ | ⟨d, hj, hid⟩
      · exact Or.inr (Or.inr ⟨c, hid.symm, Or.inl ⟨hj, hi⟩⟩)
      · rcases joined_eq_iff.1 hid with ⟨hsame, rfl⟩ | ⟨rest, hrest, rfl⟩ | ⟨rest, hrest, rfl⟩
        · exact Or.inl ⟨hsame, Or.inr ⟨c, hi, hj⟩⟩
        · exact Or.inr (Or.inl ⟨rest, hrest, Or.inr ⟨c, hi, hj⟩⟩)
        · exact Or.inr (Or.inr ⟨rest, hrest, Or.inr ⟨d, hj, hi⟩⟩)
  · rintro (⟨hid, ⟨hi, hj⟩ | ⟨c, hi, hj⟩⟩ | h | h)
    · exact ⟨i.id, mem_ids.2 (Or.inl ⟨hi, rfl⟩), mem_ids.2 (Or.inl ⟨hj, hid⟩)⟩
    · exact ⟨i.id ++ ":" ++ c, mem_ids.2 (Or.inr ⟨c, hi, rfl⟩),
        mem_ids.2 (Or.inr ⟨c, hj, by rw [hid]⟩)⟩
    · exact h.mem_ids
    · obtain ⟨id, hj, hi⟩ := h.mem_ids
      exact ⟨id, hi, hj⟩

/-- A colon in an identifier is needed for one to go on after another. -/
theorem not_into (h : ':' ∉ i.id.toList) : ¬Into i j := by
  rintro ⟨rest, hid, -⟩
  refine h ?_
  rw [hid, String.toList_append, String.toList_append]
  simp

/-! ### The events of a feed -/

theorem ids_flatMap (incidents : List Incident) (now : Timestamp) :
    (incidents.flatMap (·.events now)).map Event.id = incidents.flatMap ids := by
  rw [List.map_flatMap]
  exact congrArg (incidents.flatMap ·) (funext fun i => ids_events i now)

/-- **The events of some incidents are told apart** unless an incident lists a component twice, or
two incidents clash. -/
theorem nodup_flatMap_ids {incidents : List Incident} : (incidents.flatMap ids).Nodup ↔
    (∀ i ∈ incidents, i.components.Nodup) ∧ incidents.Pairwise fun i j => ¬Clash i j := by
  have hdisjoint : ∀ i j : Incident, List.Disjoint i.ids j.ids ↔ ¬Clash i j := fun i j => by
    rw [← clash_iff]
    simp [List.Disjoint]
  rw [List.nodup_flatMap]
  refine and_congr (forall₂_congr fun i _ => nodup_ids) ?_
  exact List.Pairwise.iff fun i j => hdisjoint i j

/-- All events of incidents have one provider, so their identifiers tell their keys apart. -/
theorem nodup_keys {incidents : List Incident} :
    ((incidents.flatMap (·.events now)).map Event.key).Nodup ↔
      ((incidents.flatMap (·.events now)).map Event.id).Nodup := by
  have hkeys : (incidents.flatMap (·.events now)).map Event.key =
      ((incidents.flatMap (·.events now)).map Event.id).map (Key.mk provider) := by
    rw [List.map_map]
    refine List.map_congr_left fun e he => ?_
    obtain ⟨i, -, he⟩ := List.mem_flatMap.1 he
    exact congrArg (Key.mk · e.id) (provider_of_mem_events he)
  rw [hkeys]
  exact List.nodup_map_iff fun _ _ h => (Key.mk.inj h).2

/-- **The identifiers of the events of a feed.** A feed that can be read tells of incidents. Then

* no two of their events have one identifier, if and only if no incident lists a component twice,
  and no two incidents clash: they have one identifier, and no components or one in common, or one
  identifier goes on as a component of the other;
* so it is enough that incidents are told apart by identifiers without a colon, and list no
  component twice;
* and a store that has admitted nothing lets all events through, if and only if no two of them have
  one identifier. -/
theorem ids_nodup_iff {bytes : List UInt8} {entries : List Feed.Entry}
    (h : Feed.read bytes = .ok entries) (now : Timestamp) :
    ∃ incidents, StatusPage.read bytes = .ok incidents ∧ incidents = entries.filterMap ofEntry? ∧
      let events := incidents.flatMap (·.events now)
      ((events.map Event.id).Nodup ↔ (∀ i ∈ incidents, i.components.Nodup) ∧
        incidents.Pairwise fun i j => ¬Clash i j) ∧
      ((incidents.map Incident.id).Nodup →
        (∀ i ∈ incidents, ':' ∉ i.id.toList ∧ i.components.Nodup) → (events.map Event.id).Nodup) ∧
      ((Admission.empty.filter events).1 = events ↔ (events.map Event.id).Nodup) := by
  refine ⟨entries.filterMap ofEntry?, by rw [StatusPage.read, h]; rfl, rfl, ?_⟩
  generalize entries.filterMap ofEntry? = incidents
  have hiff : (incidents.flatMap ids).Nodup ↔ _ := nodup_flatMap_ids
  rw [← ids_flatMap incidents now] at hiff
  refine ⟨hiff, fun hids hplain => hiff.2 ⟨fun i hi => (hplain i hi).2, ?_⟩,
    Admission.filter_empty_eq_self.trans nodup_keys⟩
  refine (List.pairwise_map.1 hids).imp_of_mem fun {i j} hi hj hne hclash => ?_
  rcases hclash with ⟨hid, -⟩ | hinto | hinto
  · exact hne hid
  · exact not_into (hplain i hi).1 hinto
  · exact not_into (hplain j hj).1 hinto

/-- The bytes of a feed with two entries. -/
def feedOfTwo (first second : String) : List UInt8 :=
  ("<feed><entry>" ++ first ++ "</entry><entry>" ++ second ++ "</entry></feed>").toList.map
    fun c => c.toNat.toUInt8

/-- The identifier of one incident goes on after that of the other, which lists no component. -/
theorem ids_nodup_of_colon :
    let bytes := feedOfTwo "<id>x/incidents/1</id>" "<id>x/incidents/1:a</id>"
    Feed.read bytes = .ok [{ id := "x/incidents/1".toList }, { id := "x/incidents/1:a".toList }] ∧
      ∃ incidents, StatusPage.read bytes = .ok incidents ∧
        (Admission.empty.filter (incidents.flatMap (·.events default))).1 =
          incidents.flatMap (·.events default) := by
  intro bytes
  have h : Feed.read bytes =
      .ok [{ id := "x/incidents/1".toList }, { id := "x/incidents/1:a".toList }] := by
    decide +kernel
  obtain ⟨incidents, hread, hincidents, hiff, -, hfilter⟩ := ids_nodup_iff h default
  refine ⟨h, incidents, hread, hfilter.2 ?_⟩
  rw [hincidents]
  decide +kernel

/-- Two list items name one component, so two events of one incident have one identifier, and the
second one is not let through. -/
theorem ids_repeated :
    let bytes := feedOfTwo "<id>x/incidents/1</id><summary>&lt;li>a (Up)&lt;li>a (Down)</summary>"
      "<id>x/incidents/2</id>"
    ∃ incidents, StatusPage.read bytes = .ok incidents ∧
      (incidents.flatMap (·.events default)).map Event.id = ["1:a", "1:a", "2"] ∧
      (Admission.empty.filter (incidents.flatMap (·.events default))).1.map Event.id =
        ["1:a", "2"] := by
  refine ⟨[⟨"1", "Unknown incident", "Unknown", ["a", "a"], none⟩,
    ⟨"2", "Unknown incident", "Unknown", [], none⟩], ?_, by decide, by decide⟩
  decide +kernel

end Incident
end StatusRelay
