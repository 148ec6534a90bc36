/-
# Strings and names of TOML read back

Whatever form a string is written in, reading ends at its closing marks with the characters of the
string. What can go wrong, and what prevents it:

| form | trouble | prevented by |
| --- | --- | --- |
| on one line | a mark or a control inside | the form is not chosen then, or they are escaped |
| | two marks at once, which might open a string over several lines | a third mark does not follow |
| over several lines | marks of the string run into the closing ones | at most two of them stand in a row |
| | a backslash before a line break | no escape begins with a blank or a line break |
-/

import Mathlib.Tactic.SplitIfs
import StatusRelay.Toml.Text

namespace StatusRelay.Toml

variable {c mark : Char} {cs s rest : List Char} {row : Nat} {escapes : Bool}

/-! ### Characters -/

theorem isPlain_of_isControl (h : isControl c = false) (hline : c ≠ '\n') : isPlain c = true := by
  have hrange : ¬c.toNat < 0x20 ∧ c.toNat ≠ 0x7F := by simpa [isControl, hline] using h
  simp only [isPlain, Bool.or_eq_true, Bool.and_eq_true, decide_eq_true_eq, bne_iff_ne]
  omega

theorem isPlain_of_mem (h : ∀ c ∈ cs, isControl c = false) (hline : '\n' ∉ cs) :
    ∀ c ∈ cs, isPlain c = true :=
  fun c hc => isPlain_of_isControl (h c hc) fun heq => hline (heq ▸ hc)

theorem ne_of_isPlain (h : isPlain c = true) : c ≠ '\r' := by
  rintro rfl
  revert h
  decide

theorem newline?_eq_none (hline : c ≠ '\n') (hreturn : c ≠ '\r') : newline? (c :: cs) = none := by
  unfold newline?
  split <;> simp_all

/-- An escape that begins with a letter is no escaped line break. -/
theorem fold?_eq_none (hgap : isGap c = false) (hline : c ≠ '\n') (hreturn : c ≠ '\r') :
    fold? (c :: cs) = none := by
  rw [fold?, skipGaps, List.dropWhile_cons_of_neg (by simp [hgap]), newline?_eq_none hline hreturn]
  rfl

/-- A run of characters of a kind goes up to the first that is not. -/
theorem takeWhile_append_stop {p : Char → Bool} (hcs : ∀ c ∈ cs, p c = true)
    (hrest : ∀ c ∈ rest.head?, p c = false) : (cs ++ rest).takeWhile p = cs := by
  rw [List.takeWhile_append_of_pos hcs]
  cases rest with
  | nil => exact List.append_nil cs
  | cons d rest => rw [List.takeWhile_cons_of_neg (by simp [hrest d rfl]), List.append_nil]

theorem dropWhile_append_stop {p : Char → Bool} (hcs : ∀ c ∈ cs, p c = true)
    (hrest : ∀ c ∈ rest.head?, p c = false) : (cs ++ rest).dropWhile p = rest := by
  rw [List.dropWhile_append_of_pos hcs]
  cases rest with
  | nil => rfl
  | cons d rest => rw [List.dropWhile_cons_of_neg (by simp [hrest d rfl])]

/-! ### Escapes -/

theorem hexValue?_hexDigit {n : Nat} (h : n < 16) : Json.hexValue? (hexDigit n) = some n := by
  have hall : ∀ n < 16, Json.hexValue? (hexDigit n) = some n := by decide
  exact hall n h

theorem escape?_code (h : c.toNat < 0x100) :
    escape? ('u' :: '0' :: '0' :: hexDigit (c.toNat / 16) :: hexDigit (c.toNat % 16) :: rest) =
      some (c, rest) := by
  have hc : Char.ofNat c.toNat = c := Char.ofNat_toNat c
  have hvalid : c.toNat.isValidChar := c.valid
  have hvalue : c.toNat / 16 * 16 + c.toNat % 16 = c.toNat := by omega
  have hzero : Json.hexValue? '0' = some 0 := by decide
  have hdigits : [('0' : Char), '0', hexDigit (c.toNat / 16), hexDigit (c.toNat % 16)].mapM
      Json.hexValue? = some [0, 0, c.toNat / 16, c.toNat % 16] := by
    simp only [List.mapM_cons, List.mapM_nil, hzero,
      hexValue?_hexDigit (show c.toNat / 16 < 16 by omega),
      hexValue?_hexDigit (show c.toNat % 16 < 16 by omega)]
    rfl
  rw [escape?, escape?.code]
  simp only [List.take_succ_cons, List.take_zero, hdigits]
  simp [hvalue, hvalid, hc]

/-- What stands after a backslash for a character: it reads back, whatever follows, and does not
pass for an escaped line break. -/
structure Escapes (e : List Char) (c : Char) : Prop where
  escape : ∀ rest, escape? (e ++ rest) = some (c, rest)
  fold : ∀ rest, fold? (e ++ rest) = none

theorem escapes_cons {l : Char} {e : List Char} (hl : isGap l = false ∧ l ≠ '\n' ∧ l ≠ '\r')
    (h : ∀ rest, escape? (l :: e ++ rest) = some (c, rest)) : Escapes (l :: e) c := by
  obtain ⟨hgap, hline, hreturn⟩ := hl
  exact ⟨h, fun _ => fold?_eq_none hgap hline hreturn⟩

/-- **An escaped character reads back.** -/
theorem exists_escaped (h : isControl c = true ∨ c = '\n' ∨ c = '"' ∨ c = '\\') :
    ∃ e, escaped c = '\\' :: e ∧ Escapes e c := by
  have hc : Char.ofNat c.toNat = c := Char.ofNat_toNat c
  unfold escaped
  split_ifs with h8 htab hline h12 hreturn hquote hback
  · obtain rfl : Char.ofNat 8 = c := h8 ▸ hc
    exact ⟨['b'], rfl, escapes_cons (by decide) fun _ => rfl⟩
  · exact ⟨['t'], rfl, escapes_cons (by decide) fun _ => by rw [htab]; rfl⟩
  · exact ⟨['n'], rfl, escapes_cons (by decide) fun _ => by rw [hline]; rfl⟩
  · obtain rfl : Char.ofNat 12 = c := h12 ▸ hc
    exact ⟨['f'], rfl, escapes_cons (by decide) fun _ => rfl⟩
  · exact ⟨['r'], rfl, escapes_cons (by decide) fun _ => by rw [hreturn]; rfl⟩
  · exact ⟨['"'], rfl, escapes_cons (by decide) fun _ => by rw [hquote]; rfl⟩
  · exact ⟨['\\'], rfl, escapes_cons (by decide) fun _ => by rw [hback]; rfl⟩
  · have hcontrol : isControl c = true := by simpa [hline, hquote, hback] using h
    have hrange : c.toNat < 0x100 := by
      simp only [isControl, Bool.or_eq_true, Bool.and_eq_true, decide_eq_true_eq, beq_iff_eq]
        at hcontrol
      omega
    exact ⟨_, rfl, escapes_cons (by decide) fun _ => escape?_code hrange⟩

/-! ### Strings on one line -/

theorem basic_cons (hplain : isPlain c = true) (hquote : c ≠ '"') (hback : c ≠ '\\')
    (h : basic cs = some (s, rest)) : basic (c :: cs) = some (c :: s, rest) := by
  rw [basic]
  · rw [if_pos hplain, h]
    rfl
  · exact fun h => hquote h
  · exact fun h => hback h

theorem basic_escape {e : List Char} (he : Escapes e c) (h : basic cs = some (s, rest)) :
    basic ('\\' :: (e ++ cs)) = some (c :: s, rest) := by
  rw [basic]
  split
  case h_1 hnone => cases (he.escape cs).symm.trans hnone
  case h_2 hsome =>
    cases (he.escape cs).symm.trans hsome
    rw [h]
    rfl

/-- Between quotation marks a text without quotation marks, backslashes and controls stands for
itself. -/
theorem basic_plain (hcs : ∀ c ∈ cs, isPlain c = true) (hquote : '"' ∉ cs) (hback : '\\' ∉ cs)
    (rest : List Char) : basic (cs ++ '"' :: rest) = some (cs, rest) := by
  induction cs with
  | nil => rw [List.nil_append, basic]
  | cons c cs ih =>
    obtain ⟨hplain, hcs⟩ := List.forall_mem_cons.1 hcs
    obtain ⟨hquote, hquotes⟩ := List.ne_and_not_mem_of_not_mem_cons hquote
    obtain ⟨hback, hbacks⟩ := List.ne_and_not_mem_of_not_mem_cons hback
    exact basic_cons hplain hquote.symm hback.symm (ih hcs hquotes hbacks)

/-- Any text stands between quotation marks with its escapes. -/
theorem basic_escapeLine (cs rest : List Char) :
    basic (escapeLine cs ++ '"' :: rest) = some (cs, rest) := by
  induction cs with
  | nil => rw [escapeLine, List.flatMap_nil, List.nil_append, basic]
  | cons c cs ih =>
    rw [escapeLine, List.flatMap_cons, ← escapeLine, List.append_assoc]
    split_ifs with h
    · obtain ⟨e, hescaped, he⟩ := exists_escaped h
      rw [hescaped, List.cons_append]
      exact basic_escape he ih
    · simp only [not_or, Bool.not_eq_true] at h
      obtain ⟨hcontrol, hline, hquote, hback⟩ := h
      exact basic_cons (isPlain_of_isControl hcontrol hline) hquote hback ih

/-- Between apostrophes a text without apostrophes and controls stands for itself. -/
theorem literal_plain (hcs : ∀ c ∈ cs, isPlain c = true) (hmark : '\'' ∉ cs) (rest : List Char) :
    literal (cs ++ '\'' :: rest) = some (cs, rest) := by
  induction cs with
  | nil => rfl
  | cons c cs ih =>
    obtain ⟨hplain, hcs⟩ := List.forall_mem_cons.1 hcs
    obtain ⟨hmark, hmarks⟩ := List.ne_and_not_mem_of_not_mem_cons hmark
    rw [List.cons_append, literal, if_pos hplain, ih hcs hmarks]
    · rfl
    · exact fun h => hmark h.symm

/-! ### Strings over several lines -/

/-- The text goes on with something else than a mark. -/
def Unmarked (mark : Char) (rest : List Char) : Prop := ∀ c ∈ rest.head?, c ≠ mark

/-- A text holds the end of a string over several lines: what is left of the string, and what
follows it. -/
def Closes (mark : Char) (escapes : Bool) (cs s rest : List Char) : Prop :=
  ∀ most, cs.length < most → multiline mark escapes cs most = some (s, rest)

/-- Marks are read as far as they go. -/
theorem takeWhile_marks (h : Unmarked mark rest) (row : Nat) :
    (List.replicate row mark ++ rest).takeWhile (· == mark) = List.replicate row mark :=
  takeWhile_append_stop (by simp) fun c hc => beq_eq_false_iff_ne.2 (h c hc)

theorem marks_cons (h : c = mark) (row : Nat) (cs : List Char) :
    List.replicate row mark ++ c :: cs = List.replicate (row + 1) mark ++ cs := by
  rw [h, List.replicate_succ', List.append_assoc]
  rfl

theorem drop_marks (mark : Char) (rest : List Char) (row : Nat) :
    (List.replicate row mark ++ rest).drop row = rest :=
  List.drop_left' (List.length_replicate ..)

/-- The last three marks of a row close a string; up to two before them belong to it. -/
theorem closes_end (hrow : row ≤ 2) (h : Unmarked mark rest) :
    Closes mark escapes (List.replicate row mark ++ mark :: mark :: mark :: rest)
      (List.replicate row mark) rest := by
  have hmarks : List.replicate row mark ++ mark :: mark :: mark :: rest =
      List.replicate (row + 3) mark ++ rest := by
    rw [← List.replicate_append_replicate, List.append_assoc]
    rfl
  have hclosing : closing? mark (List.replicate (row + 3) mark ++ rest) =
      some (List.replicate row mark, rest) := by
    simp only [closing?, takeWhile_marks h, List.length_replicate, drop_marks]
    rw [if_pos (by omega), List.drop_replicate, Nat.add_sub_cancel]
  rintro (_ | most) hmost
  · cases hmost
  · have htake := takeWhile_marks h (row + 3)
    rw [hmarks]
    rw [List.replicate_succ, List.cons_append] at hclosing htake ⊢
    simp only [multiline, htake, hclosing, if_true, List.length_cons, List.length_replicate]
    rw [if_neg (by omega)]

/-- Up to two marks in a row belong to the string. -/
theorem closes_marks (hrow : row ≤ 2) (hcs : Unmarked mark cs)
    (h : Closes mark escapes cs s rest) :
    Closes mark escapes (List.replicate row mark ++ cs) (List.replicate row mark ++ s) rest := by
  rcases row with _ | row
  · exact h
  rintro (_ | most) hmost
  · cases hmost
  · have htake := takeWhile_marks hcs (row + 1)
    have hdrop := drop_marks mark cs (row + 1)
    rw [List.length_append, List.length_replicate] at hmost
    rw [List.replicate_succ, List.cons_append] at htake hdrop ⊢
    simp only [multiline, htake, if_true, List.length_cons, List.length_replicate, hdrop]
    rw [if_pos (by omega), h most (by omega)]
    rfl

theorem closes_cons (hmark : c ≠ mark) (hback : ¬(c = '\\' ∧ escapes = true))
    (hcontrol : isControl c = false) (h : Closes mark escapes cs s rest) :
    Closes mark escapes (c :: cs) (c :: s) rest := by
  rintro (_ | most) hmost
  · cases hmost
  · have hcs := h most (Nat.lt_of_succ_lt_succ hmost)
    simp only [multiline, if_neg hmark, if_neg hback]
    by_cases hline : c = '\n'
    · subst hline
      simp only [newline?, hcs, Option.map_some]
    · have hplain := isPlain_of_isControl hcontrol hline
      simp only [newline?_eq_none hline (ne_of_isPlain hplain), if_pos hplain, hcs,
        Option.map_some]

theorem closes_escape {e : List Char} (hmark : mark ≠ '\\') (he : Escapes e c)
    (h : Closes mark true cs s rest) : Closes mark true ('\\' :: (e ++ cs)) (c :: s) rest := by
  rintro (_ | most) hmost
  · cases hmost
  · rw [List.length_cons, List.length_append] at hmost
    simp only [multiline, if_neg hmark.symm, he.fold, he.escape, and_self, if_true,
      Option.bind_eq_bind, Option.bind_some, h most (by omega), Option.map_some]

theorem row_le_longestRow (mark : Char) (row : Nat) (cs : List Char) :
    row ≤ longestRow mark row cs := by
  induction cs generalizing row with
  | nil => exact Nat.le_refl row
  | cons c cs ih =>
    rw [longestRow]
    split_ifs
    · exact Nat.le_of_succ_le (ih (row + 1))
    · exact Nat.le_max_left ..

theorem not_mem_of_longestRow (h : longestRow mark 0 cs = 0) : mark ∉ cs := by
  induction cs with
  | nil => exact List.not_mem_nil
  | cons c cs ih =>
    rw [longestRow] at h
    split_ifs at h with hmark
    · have := row_le_longestRow mark (0 + 1) cs
      omega
    · exact List.not_mem_cons_of_ne_of_not_mem (Ne.symm hmark) (ih (by omega))

/-- **A text with at most two marks in a row** stands for itself over several lines, if nothing
else in it has to be escaped. The induction is on the text, with the marks that stand before it. -/
theorem closes_plain (hrow : longestRow mark row cs ≤ 2) (hrest : Unmarked mark rest)
    (hback : escapes = true → '\\' ∉ cs) (hcs : ∀ c ∈ cs, isControl c = false) :
    Closes mark escapes (List.replicate row mark ++ (cs ++ mark :: mark :: mark :: rest))
      (List.replicate row mark ++ cs) rest := by
  induction cs generalizing row with
  | nil =>
    rw [List.append_nil]
    exact closes_end hrow hrest
  | cons c cs ih =>
    obtain ⟨hc, hcs⟩ := List.forall_mem_cons.1 hcs
    have hbacks : escapes = true → '\\' ∉ cs := fun h => List.not_mem_of_not_mem_cons (hback h)
    rw [longestRow] at hrow
    split_ifs at hrow with hmark
    · rw [List.cons_append, marks_cons hmark, marks_cons hmark]
      exact ih hrow hbacks hcs
    · -- The marks before `c` are read at once, up to `c`.
      have hhead : Unmarked mark (c :: (cs ++ mark :: mark :: mark :: rest)) := by
        simpa [Unmarked] using hmark
      have hhere : ¬(c = '\\' ∧ escapes = true) := fun h => hback h.2 (h.1 ▸ List.mem_cons_self)
      have htail := @ih 0 (by omega) hbacks hcs
      exact closes_marks (by omega) hhead (closes_cons hmark hhere hc htail)

/-- **Any text stands over several lines with its escapes.** -/
theorem closes_escapeLines (hrow : row ≤ 2) (hrest : Unmarked '"' rest) (cs : List Char) :
    Closes '"' true (List.replicate row '"' ++ (escapeLines row cs ++ '"' :: '"' :: '"' :: rest))
      (List.replicate row '"' ++ cs) rest := by
  induction cs generalizing row with
  | nil =>
    rw [List.append_nil]
    exact closes_end hrow hrest
  | cons c cs ih =>
    have htail := @ih 0 (by omega)
    have hescape : ∀ {c : Char}, (isControl c = true ∨ c = '\n' ∨ c = '"' ∨ c = '\\') →
        Closes '"' true (List.replicate row '"' ++
          (escaped c ++ escapeLines 0 cs ++ '"' :: '"' :: '"' :: rest))
          (List.replicate row '"' ++ c :: cs) rest := by
      intro c hc
      obtain ⟨e, hescaped, he⟩ := exists_escaped hc
      rw [hescaped, List.append_assoc]
      exact closes_marks hrow (by simp [Unmarked]) (closes_escape (by decide) he htail)
    rw [escapeLines]
    split_ifs with hquote hfew hspecial
    · rw [List.cons_append, marks_cons hquote, marks_cons hquote]
      exact ih hfew
    · exact hescape (.inr (.inr (.inl hquote)))
    · exact hescape (hspecial.imp_right fun h => .inr (.inr h))
    · simp only [not_or, Bool.not_eq_true] at hspecial
      exact closes_marks hrow (by simpa [Unmarked] using hquote)
        (closes_cons hquote (fun h => hspecial.2 h.1) hspecial.1 htail)

/-! ### Strings and names in writing -/

theorem ne_two_marks (hcs : Unmarked mark cs) (hrest : Unmarked mark rest) (l : List Char) :
    cs ++ mark :: rest ≠ mark :: mark :: l := by
  intro h
  cases cs with
  | nil =>
    obtain rfl : rest = mark :: l := by simpa using h
    exact hrest mark rfl rfl
  | cons c cs =>
    obtain ⟨hc, -⟩ := List.cons.inj h
    exact hcs c rfl hc

theorem string?_basic (hcs : Unmarked '"' cs) (hrest : Unmarked '"' rest)
    (h : basic (cs ++ '"' :: rest) = some (s, rest)) :
    string? ('"' :: cs ++ ['"'] ++ rest) = some (s, rest) := by
  rw [List.append_assoc, List.cons_append, List.singleton_append, string?]
  · exact h
  · exact ne_two_marks hcs hrest

theorem string?_literal (hcs : Unmarked '\'' cs) (hrest : Unmarked '\'' rest)
    (h : literal (cs ++ '\'' :: rest) = some (s, rest)) :
    string? ('\'' :: cs ++ ['\''] ++ rest) = some (s, rest) := by
  rw [List.append_assoc, List.cons_append, List.singleton_append, string?]
  · exact h
  · exact ne_two_marks hcs hrest

theorem string?_quotes (h : Closes '"' true cs s rest) :
    string? (['"', '"', '"'] ++ '\n' :: cs) = some (s, rest) := by
  simp only [List.cons_append, List.nil_append, string?, multilineBody, newline?,
    Option.getD_some, h _ (Nat.lt_succ_self _)]

theorem string?_apostrophes (h : Closes '\'' false cs s rest) :
    string? (['\'', '\'', '\''] ++ '\n' :: cs) = some (s, rest) := by
  simp only [List.cons_append, List.nil_append, string?, multilineBody, newline?,
    Option.getD_some, h _ (Nat.lt_succ_self _)]

theorem unmarked_escapeLine (cs : List Char) : Unmarked '"' (escapeLine cs) := by
  intro d hd
  cases cs with
  | nil => cases hd
  | cons c cs =>
    rw [escapeLine, List.flatMap_cons] at hd
    split_ifs at hd with h
    · obtain ⟨e, hescaped, -⟩ := exists_escaped h
      rw [hescaped] at hd
      obtain rfl : '\\' = d := by simpa using hd
      decide
    · obtain rfl : c = d := by simpa using hd
      exact fun hquote => h (.inr (.inr (.inl hquote)))

theorem unmarked_of_not_mem (h : mark ∉ cs) : Unmarked mark cs :=
  fun _ hc heq => h (heq ▸ List.mem_of_mem_head? hc)

/-- **A string reads back** from its written form, whichever that is. -/
theorem string?_writeString (hquote : Unmarked '"' rest) (hapostrophe : Unmarked '\'' rest) :
    string? (writeString cs ++ rest) = some (cs, rest) := by
  unfold writeString
  simp only [Bool.and_eq_true, Bool.not_eq_true', List.any_eq_false, Bool.not_eq_true,
    List.contains_eq_mem, decide_eq_false_iff_not, beq_iff_eq, decide_eq_true_eq]
  -- The forms in the order in which they are tried.
  split_ifs with hbasic hliteral hquotes hapostrophes hlines
  · obtain ⟨⟨⟨hcontrols, hline⟩, hback⟩, hrow⟩ := hbasic
    have hmark := not_mem_of_longestRow hrow
    exact string?_basic (unmarked_of_not_mem hmark) hquote
      (basic_plain (isPlain_of_mem hcontrols hline) hmark hback rest)
  · obtain ⟨⟨hcontrols, hline⟩, hrow⟩ := hliteral
    have hmark := not_mem_of_longestRow hrow
    exact string?_literal (unmarked_of_not_mem hmark) hapostrophe
      (literal_plain (isPlain_of_mem hcontrols hline) hmark rest)
  · obtain ⟨⟨hcontrols, hback⟩, hrow⟩ := hquotes
    rw [List.append_assoc]
    exact string?_quotes (closes_plain hrow hquote (fun _ => hback) hcontrols)
  · obtain ⟨hcontrols, hrow⟩ := hapostrophes
    rw [List.append_assoc]
    exact string?_apostrophes (closes_plain hrow hapostrophe nofun hcontrols)
  · rw [List.append_assoc]
    exact string?_quotes (closes_escapeLines (Nat.zero_le 2) hquote cs)
  · exact string?_basic (unmarked_escapeLine cs) hquote (basic_escapeLine cs rest)

theorem exists_writeString (cs : List Char) :
    ∃ c l, writeString cs = c :: l ∧ (c = '"' ∨ c = '\'') := by
  unfold writeString
  simp only
  split_ifs
  all_goals first
    | exact ⟨'"', _, rfl, .inl rfl⟩
    | exact ⟨'\'', _, rfl, .inr rfl⟩

theorem simpleName_bare (hne : cs ≠ []) (hcs : ∀ c ∈ cs, isBare c = true)
    (hrest : ∀ c ∈ rest.head?, isBare c = false) : simpleName (cs ++ rest) = some (cs, rest) := by
  obtain ⟨c, l, rfl⟩ := List.exists_cons_of_ne_nil hne
  have hc : isBare c = true := hcs c List.mem_cons_self
  have htake := takeWhile_append_stop hcs hrest
  have hdrop := dropWhile_append_stop hcs hrest
  rw [simpleName, htake, hdrop]
  · rfl
  · rintro l' h
    cases h
    revert hc
    decide
  · rintro l' h
    cases h
    revert hc
    decide

/-- **A name reads back** from its written form. -/
theorem simpleName_writeName (cs : List Char) (hrest : ∀ c ∈ rest.head?, isBare c = false) :
    simpleName (writeName cs ++ rest) = some (cs, rest) := by
  unfold writeName
  simp only [Bool.and_eq_true, Bool.not_eq_true', List.any_eq_false, Bool.not_eq_true,
    List.contains_eq_mem, decide_eq_false_iff_not, List.all_eq_true, Bool.or_eq_false_iff,
    List.isEmpty_eq_false_iff]
  split_ifs with hbare hbasic hliteral
  · exact simpleName_bare hbare.1 hbare.2 hrest
  · obtain ⟨⟨⟨hcontrols, hline⟩, hback⟩, hmark⟩ := hbasic
    rw [List.append_assoc, List.cons_append]
    exact basic_plain (isPlain_of_mem hcontrols hline) hmark hback rest
  · obtain ⟨⟨hcontrols, hline⟩, hmark⟩ := hliteral
    rw [List.append_assoc, List.cons_append]
    exact literal_plain (isPlain_of_mem hcontrols hline) hmark rest
  · rw [List.append_assoc, List.cons_append]
    exact basic_escapeLine cs rest

end StatusRelay.Toml
