/-
# Words and canonical spacing

A text is told by its words up to the blanks around them. `Splits` says what the words of a text
are, without a word on how they are found: blanks, a word that ends where a blank follows or the
text ends, and the same again. Every text splits in one way, the one that `words` finds.

What follows a word is trimmed and spaced to the words behind it, with a space before each
(`Splits.squeeze_trimRight`). So a text in canonical spacing is its words with single spaces
between them, and all else about it is read off them.

| of a text in canonical spacing | statement |
| --- | --- |
| it is the words of the text with single spaces between them | `Splits.squeeze_trim` |
| its words are those of the text | `words_squeeze_trim` |
| no blank is at an end, beside another, or other than a space | `spaced_squeeze_trim` |
| a text of which this holds is in canonical spacing | `Spaced.squeeze_trim` |
-/

import StatusRelay.Proofs.Text

namespace StatusRelay
namespace Text

variable {cs gap w : List Char} {ws : List (List Char)} {c : Char}

/-! ### Words -/

/-- Some characters, none of them blank. -/
structure IsWord (w : List Char) : Prop where
  ne_nil : w ≠ []
  plain : ∀ c ∈ w, isBlank c = false

theorem isWord_singleton (hc : isBlank c = false) : IsWord [c] :=
  ⟨List.cons_ne_nil _ _, by simpa using hc⟩

theorem IsWord.cons (hc : isBlank c = false) (hw : IsWord w) : IsWord (c :: w) :=
  ⟨List.cons_ne_nil _ _, List.forall_mem_cons.2 ⟨hc, hw.plain⟩⟩

theorem IsWord.exists_cons (hw : IsWord w) : ∃ c v, w = c :: v ∧ isBlank c = false := by
  obtain ⟨c, v, rfl⟩ := List.exists_cons_of_ne_nil hw.ne_nil
  exact ⟨c, v, rfl, hw.plain c List.mem_cons_self⟩

/-- **The maximal runs of characters that are not blank, in order.** Before each of them, and after
the last, stand blanks only. None can be made longer: where one ends, a blank follows, or the text
ends. -/
inductive Splits : List Char → List (List Char) → Prop
  | blanks {gap : List Char} (hgap : ∀ c ∈ gap, isBlank c = true) : Splits gap []
  | word {gap w cs : List Char} {ws : List (List Char)} (hgap : ∀ c ∈ gap, isBlank c = true)
      (hw : IsWord w) (hstop : ∀ c, cs.head? = some c → isBlank c = true) (hrest : Splits cs ws) :
      Splits (gap ++ (w ++ cs)) (w :: ws)

theorem Splits.isWord (h : Splits cs ws) : ∀ w ∈ ws, IsWord w := by
  induction h with
  | blanks => simp
  | word _ hw _ _ ih => exact List.forall_mem_cons.2 ⟨hw, ih⟩

theorem Splits.cons_of_blank (hc : isBlank c = true) (h : Splits cs ws) : Splits (c :: cs) ws := by
  cases h with
  | blanks hgap => exact .blanks (List.forall_mem_cons.2 ⟨hc, hgap⟩)
  | word hgap hw hstop hrest =>
    rw [← List.cons_append]
    exact .word (List.forall_mem_cons.2 ⟨hc, hgap⟩) hw hstop hrest

/-- A character that is not blank joins the first word if this begins the text, and is a word of
its own otherwise. -/
theorem Splits.exists_cons (hc : isBlank c = false) (h : Splits cs ws) :
    ∃ ws', Splits (c :: cs) ws' := by
  have hnone : ∀ d ∈ ([] : List Char), isBlank d = true := List.forall_mem_nil _
  cases h with
  | blanks hgap =>
    have hstop : ∀ d, cs.head? = some d → isBlank d = true :=
      fun d hd => hgap d (List.mem_of_head? hd)
    exact ⟨[[c]], .word hnone (isWord_singleton hc) hstop (.blanks hgap)⟩
  | @word gap w cs ws hgap hw hstop hrest =>
    cases gap with
    | nil => exact ⟨(c :: w) :: ws, .word hnone (hw.cons hc) hstop hrest⟩
    | cons d gap =>
      have hd : ∀ e, (d :: gap ++ (w ++ cs)).head? = some e → isBlank e = true := by
        rintro e ⟨⟩
        exact hgap _ List.mem_cons_self
      exact ⟨[c] :: w :: ws, .word hnone (isWord_singleton hc) hd (.word hgap hw hstop hrest)⟩

theorem exists_splits (cs : List Char) : ∃ ws, Splits cs ws := by
  induction cs with
  | nil => exact ⟨[], .blanks (List.forall_mem_nil _)⟩
  | cons c cs ih =>
    obtain ⟨ws, h⟩ := ih
    rcases hc : isBlank c with _ | _
    · exact h.exists_cons hc
    · exact ⟨ws, h.cons_of_blank hc⟩

theorem words_nil : words [] = [] := rfl

theorem words_cons_of_blank (hc : isBlank c = true) (cs : List Char) :
    words (c :: cs) = words cs := by
  rw [words.eq_def]
  simp [hc]

theorem words_cons_of_stop (hc : isBlank c = false)
    (hstop : ∀ d, cs.head? = some d → isBlank d = true) : words (c :: cs) = [c] :: words cs := by
  rw [words.eq_def]
  cases cs with
  | nil => simp [hc, words_nil]
  | cons d cs =>
    have hd : isBlank d = true := hstop d rfl
    simp [hc, hd]

theorem words_blanks_append (hgap : ∀ c ∈ gap, isBlank c = true) (cs : List Char) :
    words (gap ++ cs) = words cs := by
  induction gap with
  | nil => rfl
  | cons c gap ih =>
    rw [List.cons_append, words_cons_of_blank (hgap c List.mem_cons_self)]
    exact ih fun d hd => hgap d (List.mem_cons_of_mem _ hd)

theorem words_append (hw : IsWord w) (hstop : ∀ c, cs.head? = some c → isBlank c = true) :
    words (w ++ cs) = w :: words cs := by
  obtain ⟨hne, hplain⟩ := hw
  induction w with
  | nil => exact absurd rfl hne
  | cons c w ih =>
    have hc : isBlank c = false := hplain c List.mem_cons_self
    cases w with
    | nil => exact words_cons_of_stop hc hstop
    | cons d w =>
      have hd : isBlank d = false := hplain d (by simp)
      have hrest : words (d :: w ++ cs) = (d :: w) :: words cs :=
        ih (List.cons_ne_nil _ _) fun e he => hplain e (List.mem_cons_of_mem _ he)
      rw [List.cons_append] at hrest
      rw [List.cons_append, List.cons_append, words.eq_def]
      simp [hc, hd, hrest]

theorem Splits.eq_words (h : Splits cs ws) : ws = words cs := by
  induction h with
  | blanks hgap => simpa [words_nil] using (words_blanks_append hgap []).symm
  | word hgap hw hstop _ ih => rw [words_blanks_append hgap, words_append hw hstop, ih]

/-- **A text splits in one way.** -/
theorem splits_iff : Splits cs ws ↔ ws = words cs := by
  refine ⟨Splits.eq_words, ?_⟩
  rintro rfl
  obtain ⟨ws, h⟩ := exists_splits cs
  exact h.eq_words ▸ h

theorem splits_words (cs : List Char) : Splits cs (words cs) := splits_iff.2 rfl

/-! ### Single spaces -/

/-- One space between neighbours is one before each but the first. -/
theorem intercalate_cons (w : List Char) (ws : List (List Char)) :
    [' '].intercalate (w :: ws) = w ++ ws.flatMap (' ' :: ·) := by
  induction ws generalizing w with
  | nil => simp
  | cons w' ws ih => simp [ih]

theorem isBlank_head_flatMap (ws : List (List Char)) :
    ∀ c, (ws.flatMap (' ' :: ·)).head? = some c → isBlank c = true := by
  cases ws with
  | nil => simp
  | cons w ws =>
    rintro c ⟨⟩
    exact isBlank_space

theorem splits_flatMap (hws : ∀ w ∈ ws, IsWord w) : Splits (ws.flatMap (' ' :: ·)) ws := by
  induction ws with
  | nil => exact .blanks (List.forall_mem_nil _)
  | cons w ws ih =>
    obtain ⟨hw, hws⟩ := List.forall_mem_cons.1 hws
    have hgap : ∀ c ∈ [' '], isBlank c = true := by simp [isBlank_space]
    exact .word hgap hw (isBlank_head_flatMap ws) (ih hws)

/-- Words with single spaces between them split into these words. -/
theorem splits_intercalate (hws : ∀ w ∈ ws, IsWord w) : Splits ([' '].intercalate ws) ws := by
  cases ws with
  | nil => exact .blanks (List.forall_mem_nil _)
  | cons w ws =>
    obtain ⟨hw, hws⟩ := List.forall_mem_cons.1 hws
    have hnone : ∀ c ∈ ([] : List Char), isBlank c = true := List.forall_mem_nil _
    rw [intercalate_cons]
    exact .word hnone hw (isBlank_head_flatMap ws) (splits_flatMap hws)

/-! ### Trimming and spacing a word -/

/-- A word is kept with what stands before it. -/
theorem trimRight_word (hw : IsWord w) (a cs : List Char) :
    trimRight (a ++ (w ++ cs)) = a ++ (w ++ trimRight cs) := by
  obtain ⟨v, c, rfl⟩ := (List.eq_nil_or_concat w).resolve_left hw.ne_nil
  have hc : isBlank c = false := hw.plain c (by simp)
  have h := trimRight_append_cons hc (a ++ v) cs
  simpa using h

theorem trim_word (hgap : ∀ c ∈ gap, isBlank c = true) (hw : IsWord w) (cs : List Char) :
    trim (gap ++ (w ++ cs)) = w ++ trimRight cs := by
  obtain ⟨c, v, rfl, hc⟩ := hw.exists_cons
  have hleft : trimLeft (gap ++ (c :: v ++ cs)) = c :: v ++ cs := by
    unfold trimLeft
    rw [List.dropWhile_append_of_pos hgap]
    exact trimLeft_cons hc (v ++ cs)
  unfold trim
  rw [hleft]
  exact trimRight_word hw [] cs

theorem squeeze_word (hw : ∀ c ∈ w, isBlank c = false) (cs : List Char) :
    squeeze (w ++ cs) = w ++ squeeze cs := by
  induction w with
  | nil => rfl
  | cons c w ih =>
    rw [List.cons_append, squeeze_cons (hw c List.mem_cons_self), List.cons_append,
      ih fun d hd => hw d (List.mem_cons_of_mem _ hd)]

/-- The blanks before a word come to one space. -/
theorem squeeze_gap (hne : gap ≠ []) (hgap : ∀ c ∈ gap, isBlank c = true) (hw : IsWord w)
    (cs : List Char) : squeeze (gap ++ (w ++ cs)) = ' ' :: (w ++ squeeze cs) := by
  obtain ⟨c, v, rfl, hc⟩ := hw.exists_cons
  rw [← squeeze_word hw.plain, List.cons_append, squeeze_append_cons hc, squeeze_blanks hne hgap,
    squeeze_cons hc]
  rfl

/-! ### Canonical spacing -/

/-- What follows a word comes to the words behind it, with a space before each. The induction is on
the words: behind each of them stands again what follows a word. -/
theorem Splits.squeeze_trimRight (h : Splits cs ws)
    (hstop : ∀ c, cs.head? = some c → isBlank c = true) :
    squeeze (trimRight cs) = ws.flatMap (' ' :: ·) := by
  induction h with
  | @blanks gap hgap =>
    have hnil : trimRight gap = [] := by
      simpa [trimRight] using trimRight_append_blanks [] hgap
    rw [hnil]
    rfl
  | @word gap w cs ws hgap hw hstop' _ ih =>
    -- A blank comes first, so the gap before the word is not empty.
    have hne : gap ≠ [] := by
      rintro rfl
      obtain ⟨c, v, rfl, hc⟩ := hw.exists_cons
      simp [hstop c rfl] at hc
    rw [trimRight_word hw, squeeze_gap hne hgap hw, ih hstop', List.flatMap_cons,
      List.cons_append]

/-- **A text in canonical spacing** is its words with single spaces between them. -/
theorem Splits.squeeze_trim (h : Splits cs ws) : squeeze (trim cs) = [' '].intercalate ws := by
  cases h with
  | blanks hgap =>
    rw [trim_eq_nil_iff.2 hgap]
    rfl
  | word hgap hw hstop hrest =>
    rw [trim_word hgap hw, squeeze_word hw.plain, hrest.squeeze_trimRight hstop, intercalate_cons]

theorem words_squeeze_trim (cs : List Char) : words (squeeze (trim cs)) = words cs := by
  have h := splits_words cs
  rw [h.squeeze_trim]
  exact (splits_intercalate h.isWord).eq_words.symm

/-- No blank at either end, none beside another, and none but the space. -/
structure Spaced (cs : List Char) : Prop where
  head : ∀ c, cs.head? = some c → isBlank c = false
  last : ∀ c, cs.getLast? = some c → isBlank c = false
  noRuns : NoRuns cs
  spaces : ∀ c ∈ cs, isBlank c = true → c = ' '

theorem spaced_squeeze_trim (cs : List Char) : Spaced (squeeze (trim cs)) where
  head := (ends_squeeze_trim cs).1
  last := (ends_squeeze_trim cs).2
  noRuns := noRuns_squeeze (trim cs)
  spaces _ := eq_space_of_mem_squeeze

theorem Spaced.squeeze_trim (h : Spaced cs) : squeeze (trim cs) = cs := by
  rw [trim_eq_self h.head h.last, squeeze_eq_self h.noRuns h.spaces]

theorem toList_normalize (text : String) : (normalize text).toList = squeeze (trim text.toList) :=
  String.toList_ofList

/-- **The canonical form of a text.** For every text:

* it splits in one way, into its words;
* in canonical spacing it is its words with one space between neighbours;
* what is in canonical spacing stays as it is when it is spaced again;
* two texts come to the same exactly if they have the same words;
* in canonical spacing it has no blank at either end, none beside another, and none but the space,
  and a text of which this holds is in canonical spacing. -/
theorem normalize_canonical (text : String) :
    (∀ ws, Splits text.toList ws ↔ ws = words text.toList) ∧
      normalize text = " ".intercalate ((words text.toList).map String.ofList) ∧
      normalize (normalize text) = normalize text ∧
      (∀ other, normalize text = normalize other ↔ words text.toList = words other.toList) ∧
      Spaced (normalize text).toList ∧
      (Spaced text.toList → normalize text = text) := by
  have hwords : ∀ t : String, words (normalize t).toList = words t.toList := fun t => by
    rw [toList_normalize, words_squeeze_trim]
  have hjoined : ∀ t : String,
      normalize t = " ".intercalate ((words t.toList).map String.ofList) := fun t => by
    rw [← String.toList_inj, toList_normalize, (splits_words t.toList).squeeze_trim,
      String.toList_intercalate, List.map_map]
    simp
  have hspaced : Spaced (normalize text).toList := by
    rw [toList_normalize]
    exact spaced_squeeze_trim text.toList
  have hkeep : ∀ t : String, Spaced t.toList → normalize t = t := fun t ht => by
    rw [← String.toList_inj, toList_normalize, ht.squeeze_trim]
  refine ⟨fun _ => splits_iff, hjoined text, hkeep _ hspaced, fun other => ⟨?_, ?_⟩, hspaced,
    hkeep text⟩
  · intro h
    rw [← hwords text, h, hwords other]
  · intro h
    rw [hjoined text, hjoined other, h]

/-- Two texts with the same words: one with blanks of several kinds, one with single spaces. -/
example : normalize "\t a\u00a0\u2003b\n" = "a b" ∧ normalize "a b" = "a b" := by decide

end Text
end StatusRelay
