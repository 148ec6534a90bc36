/-
# Documents read line by line

A document that is read has a table open: the lines go on with its entries until a header opens
another. The open table is the last thing in the table around it, and so on outwards, so the place
of the open table is the list of the tables around it with what stands before it in each. What a
line does to the document it does at that place.

| line | what it does at a place |
| --- | --- |
| a blank line | nothing |
| an entry | puts a value behind the entries of the open table |
| a header in one bracket | puts a table behind them, and opens it |
| a header in two brackets | puts a table behind those of its name, and opens it |
-/

import StatusRelay.Proofs.Toml.Values

namespace StatusRelay.Toml

/-! ### Places -/

/-- How a table around the open one holds it: as a table, or as the last of several tables. -/
inductive Holder where
  | table (kind : Kind)
  | tables (items : List Entries)

/-- The entry that holds a table. -/
def Holder.hold : Holder → Entries → Entry
  | .table kind, es => .table kind es
  | .tables items, es => .tables (items ++ [es])

/-- A table around the open one: the entries before the one that leads to it, and that one, whose
name stands only there. -/
structure Frame where
  before : Entries
  name : String
  holder : Holder
  fresh : name ∉ before.map Prod.fst

/-- A place in a document, from its outermost table on. -/
abbrev Place := List Frame

/-- The names that lead to a place. -/
def Place.path (p : Place) : List String := p.map Frame.name

/-- The document with some entries at a place. -/
def Place.plug (p : Place) (es : Entries) : Entries :=
  p.foldr (fun f es => f.before ++ [(f.name, f.holder.hold es)]) es

variable {before es sub sub' : Entries} {name : String} {e : Entry} {kind : Kind}
  {change : Entries → Option Entries} {p : Place}

theorem lookup_eq_none (h : name ∉ es.map Prod.fst) : es.lookup name = none := by
  rw [List.lookup_eq_none_iff]
  intro x hx
  exact bne_iff_ne.2 fun heq => h (heq ▸ List.mem_map_of_mem hx)

theorem lookup_last (h : name ∉ before.map Prod.fst) (e : Entry) :
    (before ++ [(name, e)]).lookup name = some e := by
  rw [List.lookup_append, lookup_eq_none h]
  simp

theorem replace_last (h : name ∉ before.map Prod.fst) (e e' : Entry) :
    Entries.replace (before ++ [(name, e)]) name e' = before ++ [(name, e')] := by
  have hbefore : before.map (fun x => if x.1 = name then (name, e') else x) = before.map id := by
    refine List.map_congr_left fun x hx => if_neg ?_
    intro heq
    exact h (heq ▸ List.mem_map_of_mem hx)
  rw [Entries.replace, List.map_append, hbefore, List.map_id]
  simp

/-- **A change along the path of a place** is a change at the place. The induction is on the
tables around it. -/
theorem update_plug (p : Place) (kind : Kind) (h : change sub = some sub') :
    Entries.update false (fun _ => change) p.path kind (p.plug sub) = some (p.plug sub') := by
  induction p generalizing kind with
  | nil => exact h
  | cons f p ih =>
    obtain ⟨before, name, holder, fresh⟩ := f
    cases holder with
    | table k =>
      simp only [Place.path, Place.plug, Holder.hold, List.map_cons, List.foldr_cons,
        Entries.update, lookup_last fresh, replace_last fresh] at ih ⊢
      simp [ih k]
    | tables items =>
      simp only [Place.path, Place.plug, Holder.hold, List.map_cons, List.foldr_cons,
        Entries.update, lookup_last fresh, replace_last fresh] at ih ⊢
      simp [ih .defined]

theorem path_concat (p : Place) (f : Frame) : Place.path (p ++ [f]) = p.path ++ [f.name] := by
  simp [Place.path]

theorem plug_concat (p : Place) (f : Frame) (es : Entries) :
    Place.plug (p ++ [f]) es = p.plug (f.before ++ [(f.name, f.holder.hold es)]) := by
  simp [Place.plug]

/-- An entry goes behind those of the open table. -/
theorem addUnder_plug (p : Place) (h : name ∉ sub.map Prod.fst) (v : Toml) :
    (p.plug sub).addUnder p.path [] name v = some (p.plug (sub ++ [(name, .value v)])) := by
  refine update_plug p .defined ?_
  simp [Entries.add, Entries.update, lookup_eq_none h]

/-- A header in one bracket puts a table behind the entries of a place. -/
theorem define_plug (p : Place) (h : name ∉ sub.map Prod.fst) :
    (p.plug sub).define p.path name = some (p.plug (sub ++ [(name, .table .defined [])])) := by
  refine update_plug p .defined ?_
  simp [lookup_eq_none h]

/-- What stands for tables under one name, of which there may be none yet. -/
def several (name : String) (items : List Entries) : Entries :=
  if items = [] then [] else [(name, .tables items)]

theorem several_nil (name : String) : several name [] = [] := if_pos rfl

theorem several_concat (name : String) (items : List Entries) (es : Entries) :
    several name (items ++ [es]) = [(name, .tables (items ++ [es]))] :=
  if_neg (by simp)

/-- A header in two brackets puts a table behind those of its name. -/
theorem append_plug (p : Place) (h : name ∉ before.map Prod.fst) (items : List Entries) :
    (p.plug (before ++ several name items)).append p.path name =
      some (p.plug (before ++ several name (items ++ [[]]))) := by
  refine update_plug p .defined ?_
  by_cases hitems : items = []
  · simp [several, hitems, lookup_eq_none h]
  · simp [several, hitems, lookup_last h, replace_last h]

/-! ### Lines -/

variable {header : List String} {key text cs rest : List Char} {r : Entries} {v : Toml}

/-- Under a header, with what has been read before, the lines of a text make up a document. -/
def Reads (header : List String) (es : Entries) (cs : List Char) (r : Entries) : Prop :=
  ∀ most, cs.length < most → lines? header es cs most = some r

theorem reads_end (header : List String) (es : Entries) : Reads header es [] es := by
  rintro (_ | most) hmost
  · cases hmost
  · rfl

theorem reads_blank (h : Reads header es cs r) : Reads header es ('\n' :: cs) r := by
  rintro (_ | most) hmost
  · cases hmost
  · exact h most (Nat.lt_of_succ_lt_succ hmost)

theorem skipGaps_cons {c : Char} (h : isGap c = false) (cs : List Char) :
    skipGaps (c :: cs) = c :: cs :=
  List.dropWhile_cons_of_neg (by simp [h])

theorem isGap_of_isBare {c : Char} (h : isBare c = true) : isGap c = false := by
  refine Bool.eq_false_iff.2 fun hgap => ?_
  rcases Bool.or_eq_true_iff.1 hgap with hspace | htab
  · obtain rfl := eq_of_beq hspace
    revert h
    decide
  · obtain rfl := eq_of_beq htab
    revert h
    decide

/-- What is written of a name: it begins with what no other line begins with, and it reads back up
to what cannot stand in a name without quotes. -/
structure Names (key name : List Char) : Prop where
  head : ∃ c l, key = c :: l ∧ isGap c = false ∧ c ∉ ['#', '\n', '\r', '[']
  read : ∀ rest : List Char, (∀ c ∈ rest.head?, isBare c = false) →
    simpleName (key ++ rest) = some (name, rest)

theorem names_writeName (name : List Char) : Names (writeName name) name := by
  refine ⟨?_, fun rest hrest => simpleName_writeName name hrest⟩
  unfold writeName
  simp only
  split_ifs with hbare
  · simp only [Bool.and_eq_true, Bool.not_eq_true', List.isEmpty_eq_false_iff,
      List.all_eq_true] at hbare
    obtain ⟨c, l, rfl⟩ := List.exists_cons_of_ne_nil hbare.1
    have hc : isBare c = true := hbare.2 c List.mem_cons_self
    refine ⟨c, l, rfl, isGap_of_isBare hc, fun hmem => ?_⟩
    have hnone : ['#', '\n', '\r', '['].any isBare = false := by decide
    exact List.any_eq_false.1 hnone c hmem hc
  · exact ⟨'"', _, rfl, by decide, by decide⟩
  · exact ⟨'\'', _, rfl, by decide, by decide⟩
  · exact ⟨'"', _, rfl, by decide, by decide⟩

theorem names_bare (hne : key ≠ []) (hkey : ∀ c ∈ key, isBare c = true) : Names key key := by
  have hwrite : writeName key = key := by
    unfold writeName
    rw [if_pos]
    simpa [hne] using hkey
  have hnames := names_writeName key
  rwa [hwrite] at hnames

theorem name?_append {name : List Char} (h : Names key name) (cs : List Char) :
    name? (key ++ ' ' :: '=' :: cs) = some (([], String.ofList name), '=' :: cs) := by
  have hread := h.read (' ' :: '=' :: cs) (by simp [isBare])
  obtain ⟨c, l, hkey, hgap, -⟩ := h.head
  have hnames : names (key ++ ' ' :: '=' :: cs) ((key ++ ' ' :: '=' :: cs).length + 1) =
      some ([String.ofList name], '=' :: cs) := by
    rw [names]
    rw [hkey, List.cons_append] at hread ⊢
    rw [skipGaps_cons hgap, hread]
    rfl
  rw [name?, hnames]
  rfl

theorem skipGaps_space (h : Writes text v) (cs : List Char) :
    skipGaps (' ' :: (text ++ '\n' :: cs)) = text ++ '\n' :: cs := by
  have hspace : isGap ' ' = true := by decide
  rw [skipGaps, List.dropWhile_cons_of_pos hspace, ← skipGaps]
  cases text with
  | nil => exact skipGaps_cons (by decide) cs
  | cons c text => exact skipGaps_cons (h.gap c rfl) _

theorem entry?_append {name : List Char} (hkey : Names key name) (hvalue : Writes text v)
    (cs : List Char) :
    entry? (key ++ ' ' :: '=' :: ' ' :: (text ++ '\n' :: cs)) =
      some (([], String.ofList name, v), cs) := by
  unfold entry?
  simp only [name?_append hkey, after, if_true, skipGaps_space hvalue, hvalue.read,
    Option.bind_eq_bind, Option.bind_some]
  rfl

/-- An entry of a document: what is written of its name and of its value, and what they are. -/
structure Field where
  key : List Char
  name : String
  text : List Char
  value : Toml

namespace Field

/-- The line of an entry. -/
def line (f : Field) : List Char := f.key ++ " = ".toList ++ f.text ++ ['\n']

/-- What an entry stands for in a document under construction. -/
def entry (f : Field) : String × Entry := (f.name, .value f.value)

/-- What is written of an entry reads back. -/
structure Faithful (f : Field) : Prop where
  key : Names f.key f.name.toList
  text : Writes f.text f.value

end Field

theorem reads_entry {f : Field} (hf : f.Faithful)
    (hadd : es.addUnder header [] f.name f.value = some sub) (h : Reads header sub cs r) :
    Reads header es (f.line ++ cs) r := by
  obtain ⟨c, l, hkey, hgap, hhead⟩ := hf.key.head
  have hentry := entry?_append hf.key hf.text cs
  have hline : f.line ++ cs = f.key ++ ' ' :: '=' :: ' ' :: (f.text ++ '\n' :: cs) := by
    simp [Field.line]
  rintro (_ | most) hmost
  · cases hmost
  · have hmost' : cs.length < most := by
      simp only [hline, List.length_append, List.length_cons] at hmost
      omega
    have hne : ∀ d ∈ ['#', '\n', '\r', '['], c ≠ d := fun d hd heq => hhead (heq ▸ hd)
    rw [hline]
    rw [hkey, List.cons_append] at hentry ⊢
    rw [lines?, skipGaps_cons hgap]
    split
    case h_1 heq => cases heq
    case h_2 heq => exact absurd (List.cons.inj heq).1 (hne '#' (by decide))
    case h_3 heq => exact absurd (List.cons.inj heq).1 (hne '\n' (by decide))
    case h_4 heq => exact absurd (List.cons.inj heq).1 (hne '\r' (by decide))
    case h_5 heq => exact absurd (List.cons.inj heq).1 (hne '[' (by decide))
    case h_6 =>
      rw [hentry]
      simp only [String.ofList_toList, Option.bind_eq_bind, Option.bind_some, hadd]
      exact h most hmost'

/-- What a header says: whether it has two brackets, and its name. -/
def Heads (text : List Char) (double : Bool) (path : List String) (name : String) : Prop :=
  ∀ cs, header? ('[' :: (text ++ cs)) = some ((double, path, name), cs)

theorem reads_header {double : Bool} {path : List String} (hhead : Heads text double path name)
    (hopen : (if double then es.append path name else es.define path name) = some sub)
    (h : Reads (path ++ [name]) sub cs r) : Reads header es ('[' :: (text ++ cs)) r := by
  rintro (_ | most) hmost
  · cases hmost
  · have hmost' : cs.length < most := by
      simp only [List.length_append, List.length_cons] at hmost
      omega
    rw [lines?, skipGaps_cons (by decide)]
    simp only [hhead cs, Option.bind_eq_bind, Option.bind_some]
    cases double
    · rw [if_neg Bool.false_ne_true] at hopen ⊢
      rw [hopen]
      exact h most hmost'
    · rw [if_pos rfl] at hopen ⊢
      rw [hopen]
      exact h most hmost'

/-! ### Tables -/

/-- Entries that make up a table: what is written of each reads back, and no two have one name. -/
structure IsTable (fields : List Field) : Prop where
  faithful : ∀ f ∈ fields, f.Faithful
  nodup : (fields.map Field.name).Nodup

/-- The lines of entries put them behind those of the open table, if the names are new. The
induction is on the entries, with those that the table has already. -/
theorem reads_fields (p : Place) {fields : List Field} (hfields : ∀ f ∈ fields, f.Faithful)
    (hnames : (sub.map Prod.fst ++ fields.map Field.name).Nodup)
    (h : Reads p.path (p.plug (sub ++ fields.map Field.entry)) cs r) :
    Reads p.path (p.plug sub) (fields.flatMap Field.line ++ cs) r := by
  induction fields generalizing sub with
  | nil => simpa using h
  | cons f fields ih =>
    have hnew : f.name ∉ sub.map Prod.fst := by
      intro hmem
      exact (List.nodup_append.1 hnames).2.2 f.name hmem f.name (by simp) rfl
    have hadd := addUnder_plug p hnew f.value
    obtain ⟨hf, hfields⟩ := List.forall_mem_cons.1 hfields
    rw [List.flatMap_cons, List.append_assoc]
    refine reads_entry hf hadd (ih hfields ?_ ?_)
    · simpa using hnames
    · simpa [Field.entry] using h

/-- Under a header that has just been read, the entries fill the table that it opened. -/
theorem reads_opened (p : Place) (f : Frame) {fields : List Field} (hfields : IsTable fields)
    (h : Reads (p.path ++ [f.name])
      (p.plug (f.before ++ [(f.name, f.holder.hold (fields.map Field.entry))])) cs r) :
    Reads (p.path ++ [f.name]) (p.plug (f.before ++ [(f.name, f.holder.hold [])]))
      (fields.flatMap Field.line ++ cs) r := by
  rw [← path_concat, ← plug_concat] at h ⊢
  exact @reads_fields [] cs r (p ++ [f]) fields hfields.faithful hfields.nodup h

/-- **A header in one bracket and entries put a table behind the entries of a place.** -/
theorem reads_table (p : Place) {fields : List Field} (hname : name ∉ sub.map Prod.fst)
    (hhead : Heads text false p.path name) (hfields : IsTable fields)
    (h : Reads (p.path ++ [name])
      (p.plug (sub ++ [(name, .table .defined (fields.map Field.entry))])) cs r) :
    Reads header (p.plug sub) ('[' :: (text ++ (fields.flatMap Field.line ++ cs))) r :=
  reads_header hhead (define_plug p hname)
    (reads_opened p ⟨sub, name, .table .defined, hname⟩ hfields h)

/-- **A header in two brackets and entries put a table behind those of its name.** -/
theorem reads_item (p : Place) {fields : List Field} (items : List Entries)
    (hname : name ∉ before.map Prod.fst) (hhead : Heads text true p.path name)
    (hfields : IsTable fields)
    (h : Reads (p.path ++ [name])
      (p.plug (before ++ several name (items ++ [fields.map Field.entry]))) cs r) :
    Reads header (p.plug (before ++ several name items))
      ('[' :: (text ++ (fields.flatMap Field.line ++ cs))) r := by
  refine reads_header hhead (append_plug p hname items) ?_
  rw [several_concat] at h ⊢
  exact reads_opened p ⟨before, name, .tables items, hname⟩ hfields h

end StatusRelay.Toml
