/-
# Trimmed text and canonical spacing

A text is a run of blanks, a text that begins and ends in no blank, and blanks again; trimming
leaves the middle. Canonical spacing has one space for each run of blanks, and characters that are
not blank separate the runs: what stands before such a character is spaced without regard to what
follows.
-/

import StatusRelay.Text.Words
import Mathlib.Data.List.Chain
import Mathlib.Data.List.DropRight

namespace StatusRelay
namespace Text

variable {a b cs : List Char} {c : Char}

/-! ### Trimming -/

theorem trimRight_eq (cs : List Char) : trimRight cs = cs.rdropWhile isBlank := rfl

theorem trimRight_concat (hc : isBlank c = false) (a : List Char) :
    trimRight (a ++ [c]) = a ++ [c] :=
  List.rdropWhile_concat_neg _ _ _ (by simp [hc])

theorem trimRight_append_blanks (a : List Char) (hb : ∀ c ∈ b, isBlank c = true) :
    trimRight (a ++ b) = trimRight a := by
  induction b using List.reverseRecOn with
  | nil => rw [List.append_nil]
  | append_singleton b c ih =>
    have hc : isBlank c = true := hb c (by simp)
    rw [← List.append_assoc, trimRight_eq, List.rdropWhile_concat_pos _ _ _ hc]
    exact ih fun c hc => hb c (List.mem_append_left _ hc)

theorem trimLeft_cons (hc : isBlank c = false) (cs : List Char) : trimLeft (c :: cs) = c :: cs :=
  List.dropWhile_cons_of_neg (by simp [hc])

/-- **What is trimmed away** are blanks. -/
theorem exists_trimLeft (cs : List Char) :
    ∃ blanks, (∀ c ∈ blanks, isBlank c = true) ∧ cs = blanks ++ trimLeft cs :=
  ⟨cs.takeWhile isBlank, fun _ hc => List.mem_takeWhile_imp hc,
    List.takeWhile_append_dropWhile.symm⟩

theorem trim_trimLeft (cs : List Char) : trim (trimLeft cs) = trim cs := by
  unfold trim trimLeft
  rw [List.dropWhile_idempotent]

/-- **A character that is not blank ends trimming:** what stands before it stays as it is. -/
theorem trimRight_append_cons (hc : isBlank c = false) (a cs : List Char) :
    trimRight (a ++ c :: cs) = a ++ c :: trimRight cs := by
  induction cs using List.reverseRecOn with
  | nil => exact trimRight_concat hc a
  | append_singleton cs d ih =>
    rw [← List.cons_append, ← List.append_assoc]
    rcases hd : isBlank d with _ | _
    · rw [trimRight_concat hd, trimRight_concat hd, List.append_assoc, List.cons_append]
    · have hblank : ∀ x ∈ [d], isBlank x = true := by simpa using hd
      rw [trimRight_append_blanks cs hblank, trimRight_append_blanks (a ++ c :: cs) hblank, ih]

theorem trim_cons (hc : isBlank c = false) (cs : List Char) :
    trim (c :: cs) = c :: trimRight cs := by
  unfold trim
  rw [trimLeft_cons hc]
  exact trimRight_append_cons hc [] cs

theorem trim_cons_of_blank (hc : isBlank c = true) (cs : List Char) : trim (c :: cs) = trim cs := by
  unfold trim trimLeft
  rw [List.dropWhile_cons_of_pos hc]

theorem trim_eq_nil_iff : trim cs = [] ↔ ∀ c ∈ cs, isBlank c = true := by
  unfold trim
  rw [trimRight_eq, List.rdropWhile_eq_nil_iff]
  constructor
  · intro h
    obtain ⟨blanks, hblanks, hcs⟩ := exists_trimLeft cs
    rw [hcs]
    exact fun c hc => (List.mem_append.1 hc).elim (hblanks c) (h c)
  · exact fun h c hc => h c ((List.dropWhile_suffix isBlank).subset hc)

theorem mem_of_mem_trim (h : c ∈ trim cs) : c ∈ cs :=
  (List.dropWhile_suffix isBlank).subset ((List.rdropWhile_prefix isBlank _).subset h)

/-- A trimmed text does not begin with a blank. -/
theorem isBlank_head_trim {cs : List Char} {c : Char} (h : (trim cs).head? = some c) :
    isBlank c = false := by
  have hp : trim cs <+: trimLeft cs := by
    have hs := List.dropWhile_suffix isBlank (l := (trimLeft cs).reverse)
    rw [← List.reverse_prefix, List.reverse_reverse] at hs
    exact hs
  have hl : (trimLeft cs).head? = some c := by
    obtain ⟨rest, hr⟩ := hp
    rw [← hr, List.head?_append, h]
    rfl
  have := List.head?_dropWhile_not isBlank cs
  rw [show cs.dropWhile isBlank = trimLeft cs from rfl, hl] at this
  exact this

/-- A trimmed text does not end in a blank. -/
theorem isBlank_last_trim {cs : List Char} {c : Char} (h : (trim cs).getLast? = some c) :
    isBlank c = false := by
  have := List.head?_dropWhile_not isBlank (trimLeft cs).reverse
  rw [show trim cs = ((trimLeft cs).reverse.dropWhile isBlank).reverse from rfl,
    List.getLast?_reverse] at h
  rw [h] at this
  exact this

/-- Nothing is lost at the ends of a text that are not blank when some of the blanks are taken away
there. -/
theorem dropWhile_ends {isEdge : Char → Bool} (h : ∀ c, isEdge c = true → isBlank c = true)
    (hhead : ∀ c, cs.head? = some c → isBlank c = false)
    (hlast : ∀ c, cs.getLast? = some c → isBlank c = false) :
    ((cs.dropWhile isEdge).reverse.dropWhile isEdge).reverse = cs := by
  have hkeep : ∀ {l : List Char}, (∀ c, l.head? = some c → isBlank c = false) →
      l.dropWhile isEdge = l := by
    intro l hl
    rcases l with _ | ⟨c, l⟩
    · rfl
    · have hc : ¬isEdge c = true := fun he => by simpa [hl c rfl] using h c he
      rw [List.dropWhile_cons_of_neg hc]
  rw [hkeep hhead, hkeep fun c hc => hlast c (List.head?_reverse ▸ hc), List.reverse_reverse]

/-- Nothing is lost from a trimmed text when some of the blanks are taken away at its ends. -/
theorem dropWhile_trim (cs : List Char) {isEdge : Char → Bool}
    (h : ∀ c, isEdge c = true → isBlank c = true) :
    (((trim cs).dropWhile isEdge).reverse.dropWhile isEdge).reverse = trim cs :=
  dropWhile_ends h (fun _ hc => isBlank_head_trim hc) fun _ hc => isBlank_last_trim hc

theorem trim_eq_self (hhead : ∀ c, cs.head? = some c → isBlank c = false)
    (hlast : ∀ c, cs.getLast? = some c → isBlank c = false) : trim cs = cs :=
  dropWhile_ends (fun _ hc => hc) hhead hlast

theorem trim_trim (cs : List Char) : trim (trim cs) = trim cs := dropWhile_trim cs fun _ hc => hc

/-! ### Canonical spacing -/

theorem squeeze_cons (hc : isBlank c = false) (cs : List Char) :
    squeeze (c :: cs) = c :: squeeze cs := by
  cases cs <;> simp [squeeze, hc]

/-- **A character that is not blank separates** what stands before it from what follows. -/
theorem squeeze_append_cons (hc : isBlank c = false) (a b : List Char) :
    squeeze (a ++ c :: b) = squeeze a ++ c :: squeeze b := by
  induction a with
  | nil => exact squeeze_cons hc b
  | cons d a ih =>
    rcases a with _ | ⟨d', a⟩
    · rcases hd : isBlank d with _ | _ <;> simp [squeeze, hd, hc, squeeze_cons hc]
    · simp only [List.cons_append] at ih ⊢
      rw [squeeze, squeeze, ih]
      split
      · split <;> rfl
      · rfl

theorem squeeze_append (ha : ∀ c, a.getLast? = some c → isBlank c = false) (b : List Char) :
    squeeze (a ++ b) = squeeze a ++ squeeze b := by
  rcases List.eq_nil_or_concat a with rfl | ⟨a, c, rfl⟩
  · rfl
  · have hc : isBlank c = false := ha c (by simp)
    simp only [List.concat_eq_append, List.append_assoc, List.singleton_append]
    rw [squeeze_append_cons hc, squeeze_append_cons hc, List.append_assoc]
    rfl

/-- What is in canonical spacing begins and ends in no blank. -/
theorem ends_squeeze_trim (cs : List Char) :
    (∀ c, (squeeze (trim cs)).head? = some c → isBlank c = false) ∧
      ∀ c, (squeeze (trim cs)).getLast? = some c → isBlank c = false := by
  refine ⟨fun c hc => ?_, fun c hc => ?_⟩
  · rcases htrim : trim cs with _ | ⟨d, l⟩
    · simp [htrim, squeeze] at hc
    · have hhead : (trim cs).head? = some d := by rw [htrim]; rfl
      have hd : isBlank d = false := isBlank_head_trim hhead
      rw [htrim, squeeze_cons hd] at hc
      exact Option.some.inj hc ▸ hd
  · rcases List.eq_nil_or_concat (trim cs) with htrim | ⟨l, d, htrim⟩
    · simp [htrim, squeeze] at hc
    · rw [List.concat_eq_append] at htrim
      have hlast : (trim cs).getLast? = some d := by simp [htrim]
      have hd : isBlank d = false := isBlank_last_trim hlast
      rw [htrim, squeeze_append_cons hd] at hc
      exact Option.some.inj (List.getLast?_concat.symm.trans hc) ▸ hd

/-- A run of blanks comes to one space. -/
theorem squeeze_blanks (hne : cs ≠ []) (hcs : ∀ c ∈ cs, isBlank c = true) :
    squeeze cs = [' '] := by
  induction cs with
  | nil => exact absurd rfl hne
  | cons d cs ih =>
    have hd : isBlank d = true := hcs d List.mem_cons_self
    rcases cs with _ | ⟨d', cs⟩
    · simp [squeeze, hd]
    · rw [squeeze, if_pos hd, if_pos (hcs d' (by simp))]
      exact ih (List.cons_ne_nil _ _) fun c hc => hcs c (List.mem_cons_of_mem _ hc)

theorem isBlank_of_mem_squeeze (hcs : ∀ c ∈ cs, isBlank c = true) :
    ∀ c ∈ squeeze cs, isBlank c = true := by
  rcases eq_or_ne cs [] with rfl | hne
  · exact hcs
  · rw [squeeze_blanks hne hcs]
    simp [isBlank_space]

theorem eq_space_of_mem_squeeze (h : c ∈ squeeze cs) (hc : isBlank c = true) : c = ' ' := by
  induction cs with
  | nil => simp [squeeze] at h
  | cons d cs ih =>
    rcases hd : isBlank d with _ | _
    · rw [squeeze_cons hd] at h
      rcases List.mem_cons.1 h with rfl | h
      · simp [hc] at hd
      · exact ih h
    · rcases cs with _ | ⟨d', cs⟩
      · simpa [squeeze, hd] using h
      · rw [squeeze, if_pos hd] at h
        split at h
        · exact ih h
        · exact (List.mem_cons.1 h).elim id ih

/-- No two blanks stand side by side. -/
def NoRuns (cs : List Char) : Prop := cs.IsChain fun c d => ¬(isBlank c = true ∧ isBlank d = true)

theorem noRuns_cons (hc : isBlank c = false) (h : NoRuns cs) : NoRuns (c :: cs) :=
  List.isChain_cons.2 ⟨fun _ _ hboth => by simp [hc] at hboth, h⟩

theorem noRuns_squeeze (cs : List Char) : NoRuns (squeeze cs) := by
  induction cs with
  | nil => exact List.isChain_nil
  | cons c cs ih =>
    rcases hc : isBlank c with _ | _
    · rw [squeeze_cons hc]
      exact noRuns_cons hc ih
    · rcases cs with _ | ⟨d, cs⟩
      · rw [squeeze, if_pos hc]
        exact List.isChain_singleton ' '
      · rcases hd : isBlank d with _ | _
        · rw [squeeze_cons hd] at ih
          rw [squeeze, if_pos hc, if_neg (by simp [hd]), squeeze_cons hd]
          exact List.isChain_cons_cons.2 ⟨by simp [hd], ih⟩
        · rw [squeeze, if_pos hc, if_pos hd]
          exact ih

theorem squeeze_eq_self (hruns : NoRuns cs) (hspaces : ∀ c ∈ cs, isBlank c = true → c = ' ') :
    squeeze cs = cs := by
  induction cs with
  | nil => rfl
  | cons c cs ih =>
    have hrest : squeeze cs = cs :=
      ih hruns.tail fun d hd => hspaces d (List.mem_cons_of_mem _ hd)
    rcases hc : isBlank c with _ | _
    · rw [squeeze_cons hc, hrest]
    · obtain rfl : c = ' ' := hspaces c List.mem_cons_self hc
      rcases cs with _ | ⟨d, cs⟩
      · rfl
      · have hd : ¬isBlank d = true := fun hd => (List.isChain_cons_cons.1 hruns).1 ⟨hc, hd⟩
        rw [squeeze, if_pos hc, if_neg hd, hrest]

end Text
end StatusRelay
