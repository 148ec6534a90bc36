/-
# The status that a summary gives

A status stands after the first `Status:` of a summary, in any letter case, up to the next tag. It
is found by a pattern that asks for a character at least and for no end of line, and the pattern
goes on looking when it cannot be met. So there is more to it than the text up to the next tag:

| up to the next tag stand | and behind it | status |
| --- | --- | --- |
| more than blanks, on one line but for blanks before it | | this text, trimmed |
| more than blanks, with an end of line in it | | that of a later `Status:` |
| blanks, and there is no tag | | unknown |
| blanks | text on one line up to the tag after that | this text, with the tag before it |
| blanks, the last of them no end of line | an end of line before the tag after that | unknown |
| nothing, or blanks that end a line | an end of line in this too | that of a later `Status:` |
-/

import StatusRelay.Incident.Reader
import StatusRelay.Proofs.Text

namespace StatusRelay
namespace Incident

open Text (isBlank trim trimLeft trimRight)

variable {c : Char} {cs rest text line inner s : List Char}

/-! ### Where a status is mentioned -/

/-- The letter that a character stands for where case does not matter. -/
def fold (c : Char) : Char := if c = 'ſ' then 's' else c.toLower

/-- Whether a text is `Status:` in any letter case. -/
def IsMention (cs : List Char) : Prop :=
  ∃ name, cs = name ++ [':'] ∧ name.map fold = "status".toList

/-- Whether a text goes on with `rest` after the first place where it mentions a status. -/
def FirstMention (text rest : List Char) : Prop :=
  ∃ before mention, text = before ++ mention ++ rest ∧ IsMention mention ∧
    ∀ before' mention' rest', text = before' ++ mention' ++ rest' → IsMention mention' →
      before.length ≤ before'.length

theorem isLetter_eq {letter : Char} (h : letter ≠ 'ſ') (c : Char) :
    isLetter letter c = (fold c == letter) := by
  have hlong : ('ſ').toLower = 'ſ' := by decide
  unfold isLetter fold
  by_cases hc : c = 'ſ'
  · subst hc
    rw [if_pos rfl, hlong, beq_eq_false_iff_ne.2 h.symm]
    simp [eq_comm]
  · rw [if_neg hc, beq_eq_false_iff_ne.2 hc, Bool.and_false, Bool.or_false]

theorem afterName_eq_some {name : List Char} (h : 'ſ' ∉ name) :
    afterName name cs = some rest ↔ ∃ m, cs = m ++ ':' :: rest ∧ m.map fold = name := by
  induction name generalizing cs with
  | nil =>
    constructor
    · intro hcs
      unfold afterName at hcs
      split at hcs
      · exact ⟨[], by simpa using hcs, rfl⟩
      · simp_all
      · simp at hcs
    · rintro ⟨m, rfl, hm⟩
      obtain rfl := List.map_eq_nil_iff.1 hm
      rfl
  | cons letter name ih =>
    have hletter : letter ≠ 'ſ' := fun heq => h (heq ▸ List.mem_cons_self)
    rcases cs with _ | ⟨c, cs⟩
    · simp [afterName]
    · have hname : afterName name cs = some rest ↔ _ :=
        ih fun hmem => h (List.mem_cons_of_mem _ hmem)
      rw [afterName, isLetter_eq hletter]
      constructor
      · intro hcs
        split at hcs
        · obtain ⟨m, rfl, rfl⟩ := hname.1 hcs
          exact ⟨c :: m, rfl, by simp_all⟩
        · simp at hcs
      · rintro ⟨m, hcs, hm⟩
        rcases m with _ | ⟨c', m⟩
        · simp at hm
        · obtain ⟨rfl, rfl⟩ := List.cons.inj hcs
          obtain ⟨hc, hm⟩ := List.cons.inj hm
          rw [if_pos (by simpa using hc)]
          exact hname.2 ⟨m, rfl, hm⟩

theorem mention_iff : afterName "status".toList cs = some rest ↔
    ∃ m, cs = m ++ rest ∧ IsMention m := by
  rw [afterName_eq_some (by decide)]
  constructor
  · rintro ⟨name, rfl, hname⟩
    exact ⟨name ++ [':'], by simp, name, rfl, hname⟩
  · rintro ⟨m, rfl, name, rfl, hname⟩
    exact ⟨name, by simp, hname⟩

/-! ### The search goes on -/

theorem status?_of_not_mention (h : afterName "status".toList (c :: cs) = none) :
    status? (c :: cs) = status? cs := by
  rw [status?, h]
  rfl

theorem afterName_of_ne {letter : Char} (hletter : letter ≠ 'ſ') (h : fold c ≠ letter)
    (name cs : List Char) : afterName (letter :: name) (c :: cs) = none := by
  rw [afterName, isLetter_eq hletter, if_neg (by simpa using h)]

theorem not_mention_of_ne (h : fold c ≠ 's') (cs : List Char) :
    afterName "status".toList (c :: cs) = none := afterName_of_ne (by decide) h _ cs

/-- **A status that cannot be found after one mention** is looked for after that: no other mention
begins within this one. -/
theorem status?_mention {m : List Char} (hm : IsMention m) (rest : List Char) :
    status? (m ++ rest) = (statusAfter? rest).or (status? rest) := by
  have hfirst : afterName "status".toList (m ++ rest) = some rest := mention_iff.2 ⟨m, rfl, hm⟩
  obtain ⟨name, rfl, hname⟩ := hm
  replace hname : name.map fold = ['s', 't', 'a', 't', 'u', 's'] := hname
  simp only [List.map_eq_cons_iff, List.map_eq_nil_iff] at hname
  obtain ⟨c₁, -, rfl, -, c₂, -, rfl, h₂, c₃, -, rfl, h₃, c₄, -, rfl, h₄, c₅, -, rfl, h₅, c₆, -, rfl,
    h₆, rfl⟩ := hname
  -- Of the letters behind the first one only the last could begin a mention again, and a colon
  -- comes after it.
  have hlast : afterName "status".toList (c₆ :: ':' :: rest) = none := by
    change afterName ('s' :: 't' :: "atus".toList) _ = none
    rw [afterName, isLetter_eq (by decide), if_pos (by simpa using h₆)]
    exact afterName_of_ne (by decide) (by decide) _ rest
  have hrest : status? (c₂ :: c₃ :: c₄ :: c₅ :: c₆ :: ':' :: rest) = status? rest := by
    rw [status?_of_not_mention (not_mention_of_ne (by rw [h₂]; decide) _),
      status?_of_not_mention (not_mention_of_ne (by rw [h₃]; decide) _),
      status?_of_not_mention (not_mention_of_ne (by rw [h₄]; decide) _),
      status?_of_not_mention (not_mention_of_ne (by rw [h₅]; decide) _),
      status?_of_not_mention hlast,
      status?_of_not_mention (not_mention_of_ne (by decide) _)]
  simp only [List.cons_append, List.nil_append] at hfirst ⊢
  rw [status?, hfirst, hrest]
  cases h : statusAfter? rest <;> simp [h]

/-- **The first mention is tried first.** -/
theorem status?_of_first (h : FirstMention text rest) :
    status? text = (statusAfter? rest).or (status? rest) := by
  obtain ⟨before, m, rfl, hm, hfirst⟩ := h
  induction before with
  | nil => exact status?_mention hm rest
  | cons c before ih =>
    have hnone : afterName "status".toList (c :: (before ++ m ++ rest)) = none := by
      by_contra hsome
      obtain ⟨rest', hrest'⟩ := Option.ne_none_iff_exists'.1 hsome
      obtain ⟨m', htext, hm'⟩ := mention_iff.1 hrest'
      exact absurd (hfirst [] m' rest' htext hm') (by simp)
    simp only [List.cons_append]
    rw [status?_of_not_mention hnone]
    refine ih fun before' m' rest' htext hm' => ?_
    have hle := hfirst (c :: before') m' rest' (by simp [htext]) hm'
    exact Nat.le_of_succ_le_succ hle

theorem status?_of_none (h : ∀ before m rest, text = before ++ m ++ rest → ¬IsMention m) :
    status? text = none := by
  induction text with
  | nil => rfl
  | cons c text ih =>
    have hnone : afterName "status".toList (c :: text) = none := by
      by_contra hsome
      obtain ⟨rest', hrest'⟩ := Option.ne_none_iff_exists'.1 hsome
      obtain ⟨m', htext, hm'⟩ := mention_iff.1 hrest'
      exact h [] m' rest' htext hm'
    rw [status?_of_not_mention hnone]
    exact ih fun before m rest htext => h (c :: before) m rest (by simp [htext])

/-! ### Up to the next tag -/

/-- A text up to its first tag, or all of it. -/
def beforeTag (cs : List Char) : List Char := cs.takeWhile (· ≠ '<')

theorem not_mem_beforeTag (cs : List Char) : '<' ∉ beforeTag cs := fun h => by
  simpa using List.mem_takeWhile_imp h

theorem beforeTag_append (h : '<' ∉ line) (cs : List Char) :
    beforeTag (line ++ cs) = line ++ beforeTag cs :=
  List.takeWhile_append_of_pos fun c hc => by
    have hne : c ≠ '<' := fun heq => h (heq ▸ hc)
    simpa using hne

theorem beforeTag_tag (cs : List Char) : beforeTag ('<' :: cs) = [] := by simp [beforeTag]

theorem beforeTag_cases (cs : List Char) :
    cs = beforeTag cs ∨ ∃ inner, cs = beforeTag cs ++ '<' :: inner := by
  have hsplit := List.takeWhile_append_dropWhile (p := (· ≠ '<')) (l := cs)
  rcases hd : cs.dropWhile (· ≠ '<') with _ | ⟨c, inner⟩
  · rw [hd, List.append_nil] at hsplit
    exact Or.inl hsplit.symm
  · have hhead := List.head?_dropWhile_not (· ≠ '<') cs
    rw [hd] at hsplit hhead
    obtain rfl : c = '<' := by simpa using hhead
    exact Or.inr ⟨inner, hsplit.symm⟩

theorem statusRest_eq (acc cs : List Char) : statusRest acc cs =
    if '\n' ∈ beforeTag cs then none else some (acc.reverse ++ beforeTag cs) := by
  induction cs generalizing acc with
  | nil => simp [statusRest, beforeTag]
  | cons c cs ih =>
    unfold statusRest
    by_cases htag : c = '<'
    · subst htag
      simp [beforeTag_tag]
    · have hbefore : beforeTag (c :: cs) = c :: beforeTag cs := by simp [beforeTag, htag]
      rw [if_neg htag, hbefore, ih]
      by_cases hend : c = '\n'
      · simp [hend]
      · rw [if_neg hend]
        simp [Ne.symm hend]

theorem statusHere?_cons (c : Char) (cs : List Char) : statusHere? (c :: cs) =
    if '\n' ∈ c :: beforeTag cs then none else some (c :: beforeTag cs) := by
  change (if c = '\n' then none else statusRest [c] cs) = _
  by_cases hend : c = '\n'
  · simp [hend]
  · rw [if_neg hend, statusRest_eq]
    simp [Ne.symm hend]

/-! ### Blanks before a status -/

theorem not_tag_of_blank (h : isBlank c = true) : c ≠ '<' := by
  rintro rfl
  simp [Text.isBlank] at h

theorem not_tag_of_blanks (h : ∀ c ∈ cs, isBlank c = true) : '<' ∉ cs := fun hmem =>
  not_tag_of_blank (h '<' hmem) rfl

theorem statusAfter?_of_blank (hc : isBlank c = true) (cs : List Char) :
    statusAfter? (c :: cs) = (statusAfter? cs).or (statusHere? (c :: cs)) := by
  rw [statusAfter?, if_pos hc]
  cases statusAfter? cs <;> rfl

theorem statusAfter?_of_not_blank (hc : isBlank c = false) (cs : List Char) :
    statusAfter? (c :: cs) = statusHere? (c :: cs) := by
  rw [statusAfter?, if_neg (by simp [hc])]

/-- As many blanks are left out as can be. -/
theorem statusAfter?_blanks_of_some {blanks body : List Char}
    (hblanks : ∀ c ∈ blanks, isBlank c = true) (h : statusAfter? body = some s) :
    statusAfter? (blanks ++ body) = some s := by
  induction blanks with
  | nil => exact h
  | cons c blanks ih =>
    rw [List.cons_append, statusAfter?_of_blank (hblanks c List.mem_cons_self),
      ih fun c hc => hblanks c (List.mem_cons_of_mem _ hc)]
    rfl

/-- An end of line that stands before a tag is in the way of every blank before it. -/
theorem statusAfter?_blanks_of_end {blanks body : List Char}
    (hblanks : ∀ c ∈ blanks, isBlank c = true) (hend : '\n' ∈ beforeTag body)
    (h : statusAfter? body = none) : statusAfter? (blanks ++ body) = none := by
  induction blanks with
  | nil => exact h
  | cons c blanks ih =>
    have hblanks' : ∀ c ∈ blanks, isBlank c = true := fun c hc =>
      hblanks c (List.mem_cons_of_mem _ hc)
    rw [List.cons_append, statusAfter?_of_blank (hblanks c List.mem_cons_self), ih hblanks',
      statusHere?_cons, beforeTag_append (not_tag_of_blanks hblanks'),
      if_pos (by simp [hend])]
    rfl

/-- If nothing can be found behind the blanks, then the last of them is all that can be found. -/
theorem statusAfter?_blanks_of_none {blanks body : List Char}
    (hblanks : ∀ c ∈ blanks, isBlank c = true) (hbody : beforeTag body = [])
    (h : statusAfter? body = none) : statusAfter? (blanks ++ body) =
      (blanks.getLast?.filter (· ≠ '\n')).map ([·]) := by
  -- Blanks are given back from the last one on, so the induction begins there.
  induction blanks using List.reverseRecOn with
  | nil => exact h
  | append_singleton blanks c ih =>
    have hc : isBlank c = true := hblanks c (by simp)
    have hlast : statusAfter? (c :: body) = if c = '\n' then none else some [c] := by
      rw [statusAfter?_of_blank hc, h, statusHere?_cons, hbody, Option.none_or]
      simp [eq_comm]
    have hblanks' : ∀ c ∈ blanks, isBlank c = true := fun c hc =>
      hblanks c (List.mem_append_left _ hc)
    rw [List.append_assoc, List.singleton_append, List.getLast?_concat]
    by_cases hend : c = '\n'
    · subst hend
      rw [if_pos rfl] at hlast
      rw [statusAfter?_blanks_of_end hblanks' (by simp [beforeTag]) hlast]
      rfl
    · rw [if_neg hend] at hlast
      rw [statusAfter?_blanks_of_some hblanks' hlast]
      simp [Option.filter, hend]

/-- More than blanks stand before the next tag. -/
theorem statusAfter?_of_text {tail : List Char} (hline : '<' ∉ line) (htail : beforeTag tail = [])
    (htext : ¬∀ c ∈ line, isBlank c = true) : statusAfter? (line ++ tail) =
      if '\n' ∈ trimLeft line then none else some (trimLeft line) := by
  obtain ⟨blanks, hblanks, hsplit⟩ := Text.exists_trimLeft line
  have hhead := List.head?_dropWhile_not isBlank line
  rw [show line.dropWhile isBlank = trimLeft line from rfl] at hhead
  rcases htrim : trimLeft line with _ | ⟨c, l⟩
  · rw [htrim, List.append_nil] at hsplit
    exact absurd (hsplit ▸ hblanks) htext
  · rw [htrim] at hsplit hhead
    have hl : '<' ∉ c :: l := fun h => hline (hsplit ▸ List.mem_append_right _ h)
    have hbefore : beforeTag (l ++ tail) = l := by
      rw [beforeTag_append fun h => hl (List.mem_cons_of_mem _ h), htail, List.append_nil]
    have hhere : statusAfter? (c :: (l ++ tail)) = if '\n' ∈ c :: l then none
        else some (c :: l) := by
      rw [statusAfter?_of_not_blank hhead, statusHere?_cons, hbefore]
    rw [hsplit, List.append_assoc, List.cons_append]
    split
    · rename_i hend
      rw [if_pos hend] at hhere
      refine statusAfter?_blanks_of_end hblanks ?_ hhere
      rw [← List.cons_append, beforeTag_append hl, htail, List.append_nil]
      exact hend
    · rename_i hend
      rw [if_neg hend] at hhere
      exact statusAfter?_blanks_of_some hblanks hhere

/-- Only blanks stand before the next tag, so the status begins with the tag. -/
theorem statusAfter?_of_tag (hline : ∀ c ∈ line, isBlank c = true)
    (hend : '\n' ∉ beforeTag inner) :
    statusAfter? (line ++ '<' :: inner) = some ('<' :: beforeTag inner) := by
  refine statusAfter?_blanks_of_some hline ?_
  rw [statusAfter?_of_not_blank (by decide), statusHere?_cons, if_neg (by simpa using hend)]

theorem statusAfter?_of_tag_of_end (hline : ∀ c ∈ line, isBlank c = true)
    (hend : '\n' ∈ beforeTag inner) : statusAfter? (line ++ '<' :: inner) =
      (line.getLast?.filter (· ≠ '\n')).map ([·]) := by
  refine statusAfter?_blanks_of_none hline (beforeTag_tag inner) ?_
  rw [statusAfter?_of_not_blank (by decide), statusHere?_cons, if_pos (by simp [hend])]

/-! ### What is told -/

theorem statusOf_of_some (hs : status? text = some s) :
    statusOf text = if trim s = [] then "Unknown" else String.ofList (trim s) := by
  unfold statusOf
  rw [hs, Option.map_some]
  rcases trim s with _ | ⟨c, cs⟩ <;> rfl

theorem statusOf_of_none (hs : status? text = none) : statusOf text = "Unknown" := by
  unfold statusOf
  rw [hs]
  rfl

theorem statusOf_of_first (h : FirstMention text rest) (hs : statusAfter? rest = some s) :
    statusOf text = if trim s = [] then "Unknown" else String.ofList (trim s) :=
  statusOf_of_some (by rw [status?_of_first h, hs]; rfl)

theorem statusOf_of_later (h : FirstMention text rest) (hs : statusAfter? rest = none) :
    statusOf text = statusOf rest := by
  unfold statusOf
  rw [status?_of_first h, hs, Option.none_or]

/-- A status that is blank is none. -/
theorem statusOf_of_blanks (h : FirstMention text rest) (hline : ∀ c ∈ line, isBlank c = true)
    (hs : statusAfter? rest = (line.getLast?.filter (· ≠ '\n')).map ([·])) : statusOf text =
      if line.getLast?.any (· ≠ '\n') then "Unknown" else statusOf rest := by
  rcases hc : line.getLast? with _ | c
  · exact statusOf_of_later h (by rw [hs, hc]; rfl)
  · rw [Option.any_some]
    by_cases hend : c = '\n'
    · rw [if_neg (by simp [hend])]
      exact statusOf_of_later h (by simp [hs, hc, hend])
    · have hblank : isBlank c = true := hline c (List.mem_of_getLast? hc)
      have htrim : trim [c] = [] := Text.trim_eq_nil_iff.2 (by simpa using hblank)
      have hsome : statusAfter? rest = some [c] := by simp [hs, hc, hend]
      rw [if_pos (by simp [hend]), statusOf_of_first h hsome, if_pos htrim]

theorem statusOf_of_all_blank (h : ∀ c ∈ text, isBlank c = true) : statusOf text = "Unknown" := by
  refine statusOf_of_none (status?_of_none fun before m rest htext hm => ?_)
  obtain ⟨name, rfl, -⟩ := hm
  have hcolon := h ':' (by simp [htext])
  simp [Text.isBlank] at hcolon

/-- A status has a `<` at its beginning at most. -/
theorem status?_shape (h : status? text = some s) : ∃ c l, s = c :: l ∧ '<' ∉ l := by
  have hhere : ∀ cs, statusHere? cs = some s → ∃ c l, s = c :: l ∧ '<' ∉ l := by
    intro cs hs
    rcases cs with _ | ⟨c, cs⟩
    · simp [statusHere?] at hs
    · rw [statusHere?_cons] at hs
      split at hs
      · simp at hs
      · exact ⟨c, beforeTag cs, (Option.some.inj hs).symm, not_mem_beforeTag cs⟩
  have hafter : ∀ cs, statusAfter? cs = some s → ∃ c l, s = c :: l ∧ '<' ∉ l := by
    intro cs hs
    induction cs with
    | nil => simp [statusAfter?] at hs
    | cons c cs ih =>
      rcases hc : isBlank c with _ | _
      · exact hhere _ (statusAfter?_of_not_blank hc cs ▸ hs)
      · rw [statusAfter?_of_blank hc] at hs
        rcases Option.or_eq_some_iff.1 hs with hs | ⟨-, hs⟩
        · exact ih hs
        · exact hhere _ hs
  induction text with
  | nil => simp [status?] at h
  | cons c text ih =>
    rw [status?] at h
    split at h
    · rename_i found hfound
      obtain ⟨rest, -, hrest⟩ := Option.bind_eq_some_iff.1 hfound
      exact hafter rest (hrest.trans h)
    · exact ih h

/-- **A status is a trimmed text,** with a `<` at its beginning at most. -/
theorem statusOf_shape (text : List Char) : statusOf text ≠ "" ∧
    trim (statusOf text).toList = (statusOf text).toList ∧ '<' ∉ (statusOf text).toList.tail := by
  have hunknown : "Unknown" ≠ "" ∧ trim "Unknown".toList = "Unknown".toList ∧
      '<' ∉ "Unknown".toList.tail := by decide
  rcases hs : status? text with _ | s
  · rw [statusOf_of_none hs]
    exact hunknown
  · obtain ⟨c, l, rfl, hl⟩ := status?_shape hs
    rw [statusOf_of_some hs]
    split
    · exact hunknown
    · rename_i htrim
      rw [String.toList_ofList]
      refine ⟨fun h => htrim (by simpa using h), Text.trim_trim _, fun htag => hl ?_⟩
      rcases hc : isBlank c with _ | _
      · rw [Text.trim_cons hc] at htag
        exact (List.rdropWhile_prefix isBlank l).subset htag
      · rw [Text.trim_cons_of_blank hc] at htag
        exact Text.mem_of_mem_trim (List.mem_of_mem_tail htag)

/-- **The status of a summary.** Whatever a summary is, its status is not empty, has no blanks at
its ends, and has a `<` at its beginning at most. It is unknown if nothing is mentioned. Otherwise
let the line be what stands between the first mention and the next tag, or the end. Then

* if the line is more than blanks, the status is the line, trimmed; but if an end of line is in it
  that is not among the blanks before it, the status is what stands after a later mention;
* if the line is blank and nothing follows it, the status is unknown;
* if the line is blank and a tag follows it, the status begins with this tag and goes on up to the
  next one; but if an end of line is in this, the status is unknown when the line ends in some other
  blank, and what stands after a later mention otherwise. -/
theorem status_between (text : List Char) :
    (statusOf text ≠ "" ∧ trim (statusOf text).toList = (statusOf text).toList ∧
        '<' ∉ (statusOf text).toList.tail) ∧
      ((∀ before m rest, text = before ++ m ++ rest → ¬IsMention m) →
        statusOf text = "Unknown") ∧
      ∀ rest, FirstMention text rest →
        let line := beforeTag rest
        ((¬∀ c ∈ line, isBlank c = true) → statusOf text =
          if '\n' ∈ trimLeft line then statusOf rest else String.ofList (trim line)) ∧
        ((∀ c ∈ line, isBlank c = true) → (rest = line → statusOf text = "Unknown") ∧
          ∀ inner, rest = line ++ '<' :: inner → statusOf text =
            if '\n' ∈ beforeTag inner then
              if line.getLast?.any (· ≠ '\n') then "Unknown" else statusOf rest
            else String.ofList ('<' :: trimRight (beforeTag inner))) := by
  refine ⟨statusOf_shape text, fun h => statusOf_of_none (status?_of_none h),
    fun rest h => ⟨fun htext => ?_, fun hblank => ⟨fun hrest => ?_, fun inner hrest => ?_⟩⟩⟩
  · obtain ⟨tail, hrest, htail⟩ : ∃ tail, rest = beforeTag rest ++ tail ∧ beforeTag tail = [] := by
      rcases beforeTag_cases rest with hall | ⟨inner, hrest⟩
      · exact ⟨[], by rw [List.append_nil, ← hall], rfl⟩
      · exact ⟨_, hrest, beforeTag_tag inner⟩
    have hs := statusAfter?_of_text (not_mem_beforeTag rest) htail htext
    rw [← hrest] at hs
    split
    · rename_i hend
      exact statusOf_of_later h (hs.trans (if_pos hend))
    · rename_i hend
      have htrim : trim (beforeTag rest) ≠ [] := fun hnil => htext (Text.trim_eq_nil_iff.1 hnil)
      rw [statusOf_of_first h (hs.trans (if_neg hend)), Text.trim_trimLeft, if_neg htrim]
  · have hs : statusAfter? (beforeTag rest ++ []) = _ :=
      statusAfter?_blanks_of_none hblank rfl rfl
    rw [List.append_nil, ← hrest] at hs
    rw [statusOf_of_blanks h (hrest ▸ hblank) hs, statusOf_of_all_blank (hrest ▸ hblank), ite_self]
  · split
    · rename_i hend
      have hs := statusAfter?_of_tag_of_end hblank hend
      rw [← hrest] at hs
      exact statusOf_of_blanks h hblank hs
    · rename_i hend
      have hs := statusAfter?_of_tag hblank hend
      rw [← hrest] at hs
      rw [statusOf_of_first h hs, Text.trim_cons (by decide), if_neg (List.cons_ne_nil _ _)]

/-- A status in bold letters is told with the tag that makes it bold, and only blanks stand before
this tag. -/
theorem status_with_tag :
    let text := "Status: <b>Resolved</b>".toList
    ∃ rest, FirstMention text rest ∧ (∀ c ∈ beforeTag rest, isBlank c = true) ∧
      statusOf text = "<b>Resolved" := by
  have hline : beforeTag " <b>Resolved</b>".toList = [' '] := by decide
  refine ⟨" <b>Resolved</b>".toList, ⟨[], "Status:".toList, by decide, ⟨"Status".toList, by decide⟩,
    fun _ _ _ _ _ => Nat.zero_le _⟩, ?_, by decide⟩
  rw [hline]
  simp [Text.isBlank_space]

/-- The status of a later mention counts if a line ends within the first one. -/
example : statusOf "Status: partly\nresolved <p>STATUS: Resolved </p>".toList = "Resolved" := by
  decide

end Incident
end StatusRelay
