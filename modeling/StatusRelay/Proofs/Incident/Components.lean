/-
# The components that a summary lists

A list item names a component, and its status in parentheses after it. What is taken for the status
begins at the first parenthesis, so the component is the name if the name has none of its own, and
what stands before it in the name otherwise.

| list item | component |
| --- | --- |
| `Chat  (Operational)` | `Chat` |
| `GPT (beta) (Operational)` | `GPT` |
| `(beta) (Operational)` | none |
-/

import StatusRelay.Proofs.Incident.Identifiers
import StatusRelay.Proofs.Text

namespace StatusRelay
namespace Incident

open Text (isBlank squeeze trim trimRight)

/-- **A list item that names a component and its status.** -/
structure Label where
  /-- The name, in canonical spacing. -/
  name : List Char
  /-- The blanks behind the name. -/
  gap : List Char
  /-- What stands in the parentheses. -/
  status : List Char
  name_ne_nil : name ≠ []
  canonical : squeeze (trim name) = name
  blank_gap : ∀ c ∈ gap, isBlank c = true
  plain_status : '(' ∉ status ∧ ')' ∉ status

namespace Label

/-- The text of the list item. -/
def text (l : Label) : List Char := l.name ++ l.gap ++ '(' :: l.status ++ [')']

/-- What stands before the first parenthesis that opens in the name, or all of the name. -/
def stem (l : Label) : List Char := trimRight (l.name.takeWhile (· != '('))

variable (l : Label)

/-- A name begins and ends in no blank. -/
theorem ends : (∀ c, l.name.head? = some c → isBlank c = false) ∧
    ∀ c, l.name.getLast? = some c → isBlank c = false := by
  have h := Text.ends_squeeze_trim l.name
  rwa [l.canonical] at h

theorem squeeze_name : squeeze l.name = l.name := by
  have h := l.canonical
  rwa [Text.trim_eq_self l.ends.1 l.ends.2] at h

theorem trim_text : trim l.text = l.text := by
  refine Text.trim_eq_self (fun c hc => l.ends.1 c ?_) fun c hc => ?_
  · unfold text at hc
    simp only [List.append_assoc] at hc
    rwa [List.head?_append_of_ne_nil _ l.name_ne_nil] at hc
  · have hlast : l.text.getLast? = some ')' := List.getLast?_concat
    obtain rfl := Option.some.inj (hlast.symm.trans hc)
    decide

/-- The text in canonical spacing: there is one space behind the name, or none. -/
theorem squeeze_text :
    squeeze l.text = l.name ++ squeeze l.gap ++ '(' :: squeeze l.status ++ [')'] := by
  unfold text
  rw [Text.squeeze_append_cons (by decide), Text.squeeze_append_cons (by decide),
    Text.squeeze_append l.ends.2, l.squeeze_name]
  rfl

/-- What has no parenthesis that opens stands before the first one. -/
theorem takeWhile_append_of_plain {a : List Char} (h : '(' ∉ a) (b : List Char) :
    (a ++ b).takeWhile (· != '(') = a ++ b.takeWhile (· != '(') :=
  List.takeWhile_append_of_pos fun c hc => by
    have hne : c ≠ '(' := fun heq => h (heq ▸ hc)
    simpa using hne

theorem stem_of_plain (h : '(' ∉ l.name) : l.stem = trimRight l.name := by
  have hall := takeWhile_append_of_plain h []
  rw [List.append_nil, List.takeWhile_nil, List.append_nil] at hall
  unfold stem
  rw [hall]

/-- **The component of a list item** is what stands before the first parenthesis. -/
theorem component_text : component l.text = l.stem := by
  unfold component dropSuffix
  rw [trim_text, squeeze_text, if_pos ⟨List.getLast?_concat, by simp⟩]
  -- The first parenthesis is one of the name, if it has any, and that of the status otherwise.
  by_cases hname : '(' ∈ l.name
  · obtain ⟨a, b, hsplit, ha⟩ := List.eq_append_cons_of_mem hname
    unfold stem
    rw [hsplit]
    simp only [List.append_assoc, List.cons_append]
    rw [takeWhile_append_of_plain ha, takeWhile_append_of_plain ha]
    simp
  · have hgap : '(' ∉ squeeze l.gap := fun h =>
      absurd (Text.isBlank_of_mem_squeeze l.blank_gap '(' h) (by decide)
    have hplain : '(' ∉ l.name ++ squeeze l.gap := fun h =>
      (List.mem_append.1 h).elim hname hgap
    rw [List.append_assoc, takeWhile_append_of_plain hplain, l.stem_of_plain hname]
    simp [Text.trimRight_append_blanks _ (Text.isBlank_of_mem_squeeze l.blank_gap)]

/-- **It is the name** if no parenthesis opens in this. -/
theorem stem_eq_name : l.stem = l.name ↔ '(' ∉ l.name := by
  constructor
  · intro h hname
    rw [← h] at hname
    have hmem := (List.rdropWhile_prefix isBlank _).subset hname
    simpa using List.mem_takeWhile_imp hmem
  · intro hname
    rw [l.stem_of_plain hname]
    rcases List.eq_nil_or_concat l.name with hnil | ⟨a, c, hconcat⟩
    · exact absurd hnil l.name_ne_nil
    · rw [List.concat_eq_append] at hconcat
      rw [hconcat]
      exact Text.trimRight_concat (l.ends.2 c (by simp [hconcat])) a

end Label

/-! ### The components of an incident -/

theorem componentsOf_labels {summary : List Char} {labels : List Label}
    (h : Html.listItems summary = labels.map Label.text) : componentsOf summary =
      ((labels.map Label.stem).filter fun name => !name.isEmpty).map String.ofList := by
  have hcomponents : labels.map (fun l => component l.text) = labels.map Label.stem :=
    List.map_congr_left fun l _ => l.component_text
  unfold componentsOf
  rw [h, List.map_map]
  exact congrArg (fun names => (names.filter fun name => !name.isEmpty).map String.ofList)
    hcomponents

theorem components_of_plain {summary : List Char} {labels : List Label}
    (h : Html.listItems summary = labels.map Label.text) (hplain : ∀ l ∈ labels, '(' ∉ l.name) :
    componentsOf summary = labels.map fun l => String.ofList l.name := by
  have hstems : labels.map Label.stem = labels.map Label.name :=
    List.map_congr_left fun l hl => l.stem_eq_name.2 (hplain l hl)
  have hall : ∀ name ∈ labels.map Label.name, (!name.isEmpty) = true := fun name hname => by
    obtain ⟨l, -, rfl⟩ := List.mem_map.1 hname
    simpa using l.name_ne_nil
  rw [componentsOf_labels h, hstems, List.filter_eq_self.2 hall, List.map_map]
  rfl

theorem components_of_entry {e : Feed.Entry} {i : Incident} (h : ofEntry? e = some i) :
    i.components = componentsOf (summaryOf e) := by
  obtain ⟨id, -, h⟩ := Option.bind_eq_some_iff.1 h
  rw [← Option.some.inj h]

/-- **What a list item with a name and a status comes to.**

* Its component is what stands in the name before the first parenthesis that opens. So it is the
  name if and only if no parenthesis opens in the name.
* List items with different names have different components, if no parenthesis opens in either.
* An incident has those components of its list items that are not empty. If no parenthesis opens in
  any name, these are the names; and if they are different, so are the identifiers of its events. -/
theorem component_of_label (l : Label) :
    (component l.text = l.stem ∧ (component l.text = l.name ↔ '(' ∉ l.name)) ∧
      (∀ l' : Label, '(' ∉ l.name → '(' ∉ l'.name → l.name ≠ l'.name →
        component l.text ≠ component l'.text) ∧
      ∀ (e : Feed.Entry) (i : Incident) (labels : List Label), ofEntry? e = some i →
        Html.listItems (summaryOf e) = labels.map Label.text →
        i.components =
            ((labels.map Label.stem).filter fun name => !name.isEmpty).map String.ofList ∧
          ((∀ l ∈ labels, '(' ∉ l.name) →
            i.components = labels.map (fun l => String.ofList l.name) ∧
            ((labels.map Label.name).Nodup → ∀ now, ((i.events now).map Event.id).Nodup)) := by
  have hcomponent : ∀ l : Label, '(' ∉ l.name → component l.text = l.name := fun l h =>
    l.component_text.trans (l.stem_eq_name.2 h)
  refine ⟨⟨l.component_text, by rw [l.component_text, l.stem_eq_name]⟩,
    fun l' h h' hne => by rwa [hcomponent l h, hcomponent l' h'], fun e i labels he hitems => ?_⟩
  refine ⟨(components_of_entry he).trans (componentsOf_labels hitems), fun hplain => ?_⟩
  have hnames := (components_of_entry he).trans (components_of_plain hitems hplain)
  refine ⟨hnames, fun hnodup now => ?_⟩
  rw [ids_events, nodup_ids, hnames]
  have hinjective : Function.Injective String.ofList := fun _ _ h => String.ofList_injective h
  have hmap := (List.nodup_map_iff hinjective).2 hnodup
  rwa [List.map_map] at hmap

/-- The parenthesis of a name is taken for the status, so two names come to one component. -/
theorem component_loses_name : ∃ l l' : Label, l.text = "GPT (beta) (Operational)".toList ∧
    l.name = "GPT (beta)".toList ∧ l'.name = "GPT (mini)".toList ∧
    component l.text = "GPT".toList ∧ component l'.text = "GPT".toList := by
  have hgap : ∀ c ∈ [' '], isBlank c = true := by simp [Text.isBlank_space]
  have hstatus : '(' ∉ "Operational".toList ∧ ')' ∉ "Operational".toList := by decide +kernel
  refine ⟨⟨"GPT (beta)".toList, [' '], "Operational".toList, by decide, by decide, hgap, hstatus⟩,
    ⟨"GPT (mini)".toList, [' '], "Operational".toList, by decide, by decide, hgap, hstatus⟩,
    rfl, rfl, rfl, Label.component_text _, Label.component_text _⟩

end Incident
end StatusRelay
