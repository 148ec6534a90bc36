/-
# From the entries of a feed to events

Each entry of a feed becomes a block of events, and the events of the feed are the blocks of its
entries, one after another.

| the entry's identifier | the block |
| --- | --- |
| has nothing after the last `/incidents/`, or none of these | is empty |
| has `s` there, and no component is listed | is one event with the identifier `s` |
| has `s` there | has an event for each component, with the identifier `s:component` |

The last `/incidents/` is the one that begins last; two of them may share a slash.
-/

import StatusRelay.Proofs.Incident.Components

namespace StatusRelay
namespace Incident

/-! ### The last occurrence of a mark -/

/-- **What follows the last occurrence of a mark in a text:** no occurrence begins later. -/
def FollowsLast (mark rest text : List Char) : Prop :=
  ∃ before, text = before ++ mark ++ rest ∧
    ∀ before' rest', text = before' ++ mark ++ rest' → before'.length ≤ before.length

section Mark

variable {mark text rest : List Char} (hmark : mark ≠ [])

include hmark

theorem afterLast_eq_none_iff :
    afterLast mark text = none ↔ ∀ before rest, text ≠ before ++ mark ++ rest := by
  induction text with
  | nil => simp [afterLast, hmark]
  | cons c cs ih =>
    rw [afterLast]
    constructor
    · intro h before rest heq
      split at h
      · cases h
      · rename_i hnone
        rcases before with _ | ⟨d, before⟩
        · have hprefix := List.isPrefixOf?_eq_some_iff_append_eq.2 heq.symm
          rw [List.nil_append, h] at hprefix
          cases hprefix
        · exact ih.1 hnone before rest (List.cons.inj heq).2
    · intro h
      have hnone : afterLast mark cs = none := ih.2 fun before rest heq =>
        h (c :: before) rest (congrArg (c :: ·) heq)
      rw [hnone]
      refine Option.eq_none_iff_forall_ne_some.2 fun rest hrest => ?_
      exact h [] rest (List.isPrefixOf?_eq_some_iff_append_eq.1 hrest).symm

/-- The search finds the last occurrence. -/
theorem afterLast_eq_some_iff : afterLast mark text = some rest ↔ FollowsLast mark rest text := by
  induction text with
  | nil =>
    constructor
    · intro h
      cases h
    · rintro ⟨before, heq, -⟩
      simp [hmark] at heq
  | cons c cs ih =>
    rw [afterLast]
    split
    · rename_i found hfound
      -- There is a later occurrence in what follows the first character.
      constructor
      · intro h
        obtain rfl := Option.some.inj h
        obtain ⟨before, hcs, hlast⟩ := ih.1 hfound
        refine ⟨c :: before, congrArg (c :: ·) hcs, fun before' rest' heq => ?_⟩
        rcases before' with _ | ⟨d, before'⟩
        · exact Nat.zero_le _
        · exact Nat.succ_le_succ (hlast before' rest' (List.cons.inj heq).2)
      · rintro ⟨before, heq, hlast⟩
        rcases before with _ | ⟨d, before⟩
        · obtain ⟨later, hcs⟩ : ∃ later, ∃ rest', cs = later ++ mark ++ rest' := by
            by_contra hno
            push Not at hno
            rw [(afterLast_eq_none_iff hmark).2 hno] at hfound
            cases hfound
          obtain ⟨rest', hcs⟩ := hcs
          have := hlast (c :: later) rest' (congrArg (c :: ·) hcs)
          simp at this
        · rw [← hfound, ih]
          refine ⟨before, (List.cons.inj heq).2, fun before' rest' hcs => ?_⟩
          exact Nat.le_of_succ_le_succ (hlast (c :: before') rest' (congrArg (c :: ·) hcs))
    · rename_i hnone
      have hno := (afterLast_eq_none_iff hmark).1 hnone
      rw [List.isPrefixOf?_eq_some_iff_append_eq]
      constructor
      · intro heq
        refine ⟨[], heq.symm, fun before' rest' heq' => ?_⟩
        rcases before' with _ | ⟨d, before'⟩
        · exact le_rfl
        · exact absurd (List.cons.inj heq').2 (hno before' rest')
      · rintro ⟨before, heq, -⟩
        rcases before with _ | ⟨d, before⟩
        · exact heq.symm
        · exact absurd (List.cons.inj heq).2 (hno before rest)

end Mark

theorem id?_eq_some_iff {entryId s : List Char} :
    id? entryId = some s ↔ s ≠ [] ∧ FollowsLast marker s entryId := by
  have hmark : marker ≠ [] := by decide
  unfold id?
  rw [Option.filter_eq_some_iff, afterLast_eq_some_iff hmark, and_comm]
  simp

/-! ### The names of components -/

open Text (NoRuns isBlank squeeze trim trimRight)

/-- **A component is trimmed and has no run of blanks,** as the list item that names it once it is
in canonical spacing. -/
theorem component_spaced (item : List Char) :
    trim (component item) = component item ∧ NoRuns (component item) := by
  have hends := Text.ends_squeeze_trim item
  have hruns := Text.noRuns_squeeze (trim item)
  unfold component dropSuffix
  generalize squeeze (trim item) = text at hends hruns
  split
  · have hprefix : trimRight (text.takeWhile (· != '(')) <+: text :=
      (List.rdropWhile_prefix _ _).trans (List.takeWhile_prefix _)
    refine ⟨Text.trim_eq_self (fun c hc => hends.1 c ?_) fun c hc => ?_, hruns.prefix hprefix⟩
    · obtain ⟨rest, hrest⟩ := hprefix
      rw [← hrest, List.head?_append, hc]
      rfl
    · rw [Text.trimRight_eq] at hc
      have hne : List.rdropWhile isBlank (text.takeWhile (· != '(')) ≠ [] := fun hnil => by
        rw [hnil] at hc
        cases hc
      have hlast := List.rdropWhile_last_not isBlank _ hne
      rw [List.getLast?_eq_some_getLast hne] at hc
      rwa [Option.some.inj hc, Bool.not_eq_true] at hlast
  · exact ⟨Text.trim_eq_self hends.1 hends.2, hruns⟩

theorem mem_componentsOf {summary : List Char} {name : String} (h : name ∈ componentsOf summary) :
    name ≠ "" ∧ trim name.toList = name.toList ∧ NoRuns name.toList := by
  obtain ⟨text, htext, rfl⟩ := List.mem_map.1 h
  obtain ⟨hmem, hne⟩ := List.mem_filter.1 htext
  obtain ⟨item, -, rfl⟩ := List.mem_map.1 hmem
  rw [String.toList_ofList]
  refine ⟨fun hempty => ?_, component_spaced item⟩
  have hnil : component item = [] := by
    rw [← String.toList_ofList (l := component item), hempty]
    rfl
  simp [hnil] at hne

/-! ### The block of an entry -/

/-- The events of an entry: those of the incident that it describes, if it describes one. -/
def block (now : Timestamp) (e : Feed.Entry) : List Event :=
  (Option.map (·.events now) <| ofEntry? e).getD []

theorem flatMap_events (entries : List Feed.Entry) (now : Timestamp) :
    (entries.filterMap ofEntry?).flatMap (·.events now) = entries.flatMap (block now) := by
  induction entries with
  | nil => rfl
  | cons e entries ih =>
    unfold block at ih ⊢
    rw [List.filterMap_cons, List.flatMap_cons]
    cases ofEntry? e with
    | none => exact ih
    | some i =>
      rw [List.flatMap_cons, ih]
      rfl

theorem block_of_no_id {e : Feed.Entry} (now : Timestamp)
    (h : ∀ s, s ≠ [] → ¬FollowsLast marker s e.id) : block now e = [] := by
  have hnone : id? e.id = none := Option.eq_none_iff_forall_ne_some.2 fun s hs =>
    h s (id?_eq_some_iff.1 hs).1 (id?_eq_some_iff.1 hs).2
  unfold block ofEntry?
  rw [hnone]
  rfl

/-- **What an entry of an incident becomes.** All events have the same message and moment. -/
theorem block_of_id {e : Feed.Entry} {s : List Char} (now : Timestamp) (hs : s ≠ [])
    (h : FollowsLast marker s e.id) :
    let names := componentsOf ((e.summary <|> e.content).getD [])
    let title := (e.title.map fun t => Text.normalize (String.ofList t)).getD "Unknown incident"
    let timestamp := e.updated.getD (e.published.getD now)
    ∃ message,
      (names = [] → block now e = [⟨String.ofList s, "OpenAI", title, message, timestamp⟩]) ∧
      (names ≠ [] → block now e = names.map fun c =>
        ⟨String.ofList s ++ ":" ++ c, "OpenAI", c, message, timestamp⟩) := by
  intro names title timestamp
  have htimestamp : timestamp = (e.updated <|> e.published).getD now := by
    cases hu : e.updated with
    | none => simp only [timestamp, hu, Option.getD_none]; rfl
    | some t => simp only [timestamp, hu, Option.getD_some]; rfl
  have hentry : ofEntry? e = some ⟨String.ofList s, title, statusOf (summaryOf e), names,
      e.updated <|> e.published⟩ := by
    unfold ofEntry?
    rw [id?_eq_some_iff.2 ⟨hs, h⟩]
    simp only [title]
    cases e.title <;> rfl
  refine ⟨title ++ " -- " ++ statusOf (summaryOf e), fun hnames => ?_, fun hnames => ?_⟩
  · unfold block
    rw [hentry, htimestamp, hnames]
    rfl
  · have hfull : names.isEmpty = false := by simpa using hnames
    unfold block events
    rw [hentry, htimestamp]
    simp only [Option.map_some, Option.getD_some, hfull, Bool.false_eq_true, if_false]
    rfl

/-- **What a feed becomes.** The events of a feed that can be read are the blocks of its entries,
one after another.

* An entry whose identifier has nothing after the last `/incidents/`, or has none of these, has an
  empty block.
* If `s` stands there, the block is not empty. Its events have one message and one moment: that of
  the last change, or else of the publication, or else the present. If the summary, or without one
  the content, lists no component, the block is one event with the identifier `s` and the title in
  canonical spacing; otherwise it is an event for each component, in order, with the identifier
  `s:component`.
* A component is not empty, is trimmed, and has no run of blanks. -/
theorem feed_translated {bytes : List UInt8} {entries : List Feed.Entry}
    (h : Feed.read bytes = .ok entries) (now : Timestamp) :
    ∃ incidents, StatusPage.read bytes = .ok incidents ∧
      incidents.flatMap (·.events now) = entries.flatMap (block now) ∧
      ∀ e ∈ entries,
        ((∀ s, s ≠ [] → ¬FollowsLast marker s e.id) → block now e = []) ∧
        ∀ s, s ≠ [] → FollowsLast marker s e.id →
          let names := componentsOf ((e.summary <|> e.content).getD [])
          let title := (e.title.map fun t => Text.normalize (String.ofList t)).getD
            "Unknown incident"
          let timestamp := e.updated.getD (e.published.getD now)
          block now e ≠ [] ∧
          (∃ message,
            (names = [] → block now e = [⟨String.ofList s, "OpenAI", title, message, timestamp⟩]) ∧
            (names ≠ [] → block now e = names.map fun c =>
              ⟨String.ofList s ++ ":" ++ c, "OpenAI", c, message, timestamp⟩)) ∧
          ∀ c ∈ names, c ≠ "" ∧ trim c.toList = c.toList ∧ NoRuns c.toList := by
  refine ⟨entries.filterMap ofEntry?, by rw [StatusPage.read, h]; rfl,
    flatMap_events entries now, fun e _ => ⟨block_of_no_id now, fun s hs hlast => ?_⟩⟩
  intro names title timestamp
  obtain ⟨message, hnone, hsome⟩ := block_of_id now hs hlast
  refine ⟨?_, ⟨message, hnone, hsome⟩, fun c hc => mem_componentsOf hc⟩
  by_cases hnames : names = []
  · rw [hnone hnames]
    exact List.cons_ne_nil _ _
  · rw [hsome hnames]
    exact fun hnil => hnames (List.map_eq_nil_iff.1 hnil)

/-- Two marks share a slash, one list item comes to nothing, and the other entry ends in a mark. -/
theorem feed_translated_of_two :
    let bytes := feedOfTwo ("<id>x/incidents/incidents/7</id>" ++
      "<summary>&lt;li> a  b (Up)&lt;li>(x) (Down)&lt;li>c</summary>")
      "<id>x/incidents/8/incidents/</id>"
    ∃ incidents message, StatusPage.read bytes = .ok incidents ∧
      incidents.flatMap (·.events default) =
        [⟨"7:a b", "OpenAI", "a b", message, default⟩,
          ⟨"7:c", "OpenAI", "c", message, default⟩] := by
  intro bytes
  let summary := "<li> a  b (Up)<li>(x) (Down)<li>c".toList
  let first : Feed.Entry := { id := "x/incidents/incidents/7".toList, summary := some summary }
  let second : Feed.Entry := { id := "x/incidents/8/incidents/".toList }
  have h : Feed.read bytes = .ok [first, second] := by decide +kernel
  obtain ⟨incidents, hread, hevents, hblocks⟩ := feed_translated h default
  have hid : FollowsLast marker ['7'] first.id :=
    (afterLast_eq_some_iff (by decide)).1 (by decide)
  have hnames : componentsOf summary = ["a b", "c"] := by decide +kernel
  have hlast : block default second = [] := by
    refine (hblocks second (by simp)).1 fun s hs hlast => hs ?_
    have hsome := (afterLast_eq_some_iff (by decide)).2 hlast
    have hnone : afterLast marker second.id = some [] := by decide
    exact Option.some.inj (hsome.symm.trans hnone)
  have hsummary : (first.summary <|> first.content).getD [] = summary := rfl
  obtain ⟨-, ⟨message, -, hsome⟩, -⟩ := (hblocks first (by simp)).2 ['7'] (by simp) hid
  rw [hsummary, hnames] at hsome
  refine ⟨incidents, message, hread, ?_⟩
  rw [hevents, List.flatMap_cons, List.flatMap_cons, hsome (by simp), hlast]
  rfl

end Incident
end StatusRelay
