/-
# Values of TOML read back

A value in an entry of its own reads back with the line break behind it.

| value | written | what else it might be taken for |
| --- | --- | --- |
| a string | between marks | |
| a number | in decimal digits without zeros in front | a moment, a number with a fraction |
| a truth value | its name | |
| an array of nothing | two brackets | |

A number is no moment since a moment goes on with a hyphen or a colon after its first digits, and
it is no number with a fraction since neither a fraction nor an exponent follows.
-/

import Mathlib.Algebra.GroupWithZero.Nat
import StatusRelay.Proofs.Toml.Strings
import StatusRelay.Settings.Toml

namespace StatusRelay.Toml

variable {c : Char} {ds l rest : List Char} {n : Nat}

/-! ### Digits -/

theorem ne_of_isDigit {d : Char} (hc : c.isDigit = true) (hd : d.isDigit = false) : c ≠ d := by
  rintro rfl
  exact Bool.false_ne_true (hd.symm.trans hc)

/-- Digits end at the end of the line. -/
theorem digits_append (hne : ds ≠ []) (hds : ∀ c ∈ ds, c.isDigit = true) (l : List Char) :
    digits Char.isDigit (ds ++ '\n' :: l) = some (ds, '\n' :: l) := by
  induction ds with
  | nil => exact absurd rfl hne
  | cons c ds ih =>
    obtain ⟨hc, hds⟩ := List.forall_mem_cons.1 hds
    rcases ds with _ | ⟨d, ds⟩
    · simp [digits, hc, show Char.isDigit '\n' = false by decide]
    · have hd : d.isDigit = true := hds d List.mem_cons_self
      rw [List.cons_append, List.cons_append, digits]
      · rw [if_pos hc, if_pos hd, ← List.cons_append, ih (List.cons_ne_nil d ds) hds]
        rfl
      · exact ne_of_isDigit hd (by decide)

/-- Only the number zero begins with a zero. -/
theorem head_toDigits (h : n ≠ 0) : ∀ c ∈ (Nat.toDigits 10 n).head?, c ≠ '0' := by
  induction n using Nat.strongRecOn with
  | ind n ih =>
    rcases Nat.lt_or_ge n 10 with hlt | hge
    · simpa [Nat.toDigits_of_lt_base hlt] using h
    · have hne : Nat.toDigits 10 (n / 10) ≠ [] := Nat.toDigits_ne_nil
      obtain ⟨d, ds, hds⟩ := List.exists_cons_of_ne_nil hne
      have hhead := ih (n / 10) (by omega) (by omega)
      rw [Nat.toDigits_of_base_le (by decide) hge]
      rw [hds] at hhead ⊢
      exact hhead

/-- The digits of a number: there is one, and no zero stands in front of others. -/
theorem exists_toDigits (n : Nat) :
    ∃ c cs, Nat.toDigits 10 n = c :: cs ∧ (∀ d ∈ c :: cs, d.isDigit = true) ∧
      (c = '0' → cs = []) := by
  have hne : Nat.toDigits 10 n ≠ [] := Nat.toDigits_ne_nil
  obtain ⟨c, cs, hcs⟩ := List.exists_cons_of_ne_nil hne
  refine ⟨c, cs, hcs, fun d hd => ?_, fun hzero => ?_⟩
  · exact Nat.isDigit_of_mem_toDigits (by decide) (by decide) (hcs ▸ hd)
  · rcases Nat.eq_zero_or_pos n with rfl | hpos
    · rw [Nat.toDigits_zero] at hcs
      exact (List.cons.inj hcs).2.symm
    · exact absurd hzero (head_toDigits (Nat.ne_of_gt hpos) c (by rw [hcs]; rfl))

theorem whole_toDigits (n : Nat) (l : List Char) :
    whole (Nat.toDigits 10 n ++ '\n' :: l) = some (Nat.toDigits 10 n, '\n' :: l) := by
  obtain ⟨c, cs, hcs, hdigits, hzero⟩ := exists_toDigits n
  rw [hcs]
  by_cases hc : c = '0'
  · rw [hc, hzero hc]
    rfl
  · rw [List.cons_append, whole]
    · exact digits_append (List.cons_ne_nil c cs) hdigits l
    · intro rest h
      exact hc (List.cons.inj h).1

/-- A number is written without a sign. -/
theorem sign_toDigits (n : Nat) (l : List Char) :
    sign (Nat.toDigits 10 n ++ l) = (false, Nat.toDigits 10 n ++ l) := by
  obtain ⟨c, cs, hcs, hdigits, -⟩ := exists_toDigits n
  have hc : c.isDigit = true := hdigits c List.mem_cons_self
  rw [hcs, List.cons_append, sign]
  · intro rest h
    exact ne_of_isDigit hc (by decide) (List.cons.inj h).1
  · intro rest h
    exact ne_of_isDigit hc (by decide) (List.cons.inj h).1

/-! ### Numbers are no moments -/

/-- After digits and the end of the line there is no other character to be found. -/
theorem after_digits (hds : ∀ c ∈ ds, c.isDigit = true) (hc : c.isDigit = false)
    (hline : c ≠ '\n') (l : List Char) : after c (ds ++ '\n' :: l) = none := by
  cases ds with
  | nil => exact if_neg hline.symm
  | cons d ds => exact if_neg (ne_of_isDigit (hds d List.mem_cons_self) hc)

/-- A number in so many digits leaves the others. -/
theorem fixed_digits {count v : Nat} (hds : ∀ c ∈ ds, c.isDigit = true)
    (h : fixed count (ds ++ '\n' :: l) = some (v, rest)) :
    ∃ ds', (∀ c ∈ ds', c.isDigit = true) ∧ rest = ds' ++ '\n' :: l := by
  simp only [fixed, Option.ite_none_right_eq_some, Option.some.injEq, Prod.mk.injEq] at h
  obtain ⟨⟨hlength, hall⟩, -, rfl⟩ := h
  have hcount : count ≤ ds.length := by
    refine Nat.le_of_not_lt fun hlt => ?_
    obtain ⟨k, rfl⟩ := Nat.exists_eq_add_of_lt hlt
    rw [Nat.add_assoc, List.take_length_add_append, List.take_succ_cons] at hall
    exact absurd (List.all_eq_true.1 hall '\n' (by simp)) (by decide)
  exact ⟨ds.drop count, fun c hc => hds c (List.mem_of_mem_drop hc),
    List.drop_append_of_le_length hcount⟩

theorem date?_digits (hds : ∀ c ∈ ds, c.isDigit = true) (l : List Char) :
    date? (ds ++ '\n' :: l) = none := by
  unfold date?
  refine Option.bind_eq_none_iff.2 ?_
  rintro ⟨year, rest⟩ hyear
  obtain ⟨ds', hds', rfl⟩ := fixed_digits hds hyear
  have hnone : after '-' (ds' ++ '\n' :: l) = none := after_digits hds' (by decide) (by decide) l
  simp only [hnone, Option.bind_eq_bind, Option.bind_none]

theorem twoDigits_digits {limit v : Nat} (hds : ∀ c ∈ ds, c.isDigit = true)
    (h : twoDigits limit (ds ++ '\n' :: l) = some (v, rest)) :
    ∃ ds', (∀ c ∈ ds', c.isDigit = true) ∧ rest = ds' ++ '\n' :: l := by
  obtain ⟨⟨v', rest'⟩, hfixed, hlimit⟩ := Option.bind_eq_some_iff.1 h
  obtain ⟨-, hrest⟩ := Option.ite_none_right_eq_some.1 hlimit
  obtain ⟨-, rfl⟩ := Prod.mk.inj (Option.some.inj hrest)
  exact fixed_digits hds hfixed

theorem time?_digits (hds : ∀ c ∈ ds, c.isDigit = true) (l : List Char) :
    time? (ds ++ '\n' :: l) = none := by
  unfold time?
  refine Option.bind_eq_none_iff.2 ?_
  rintro ⟨hour, rest⟩ hhour
  obtain ⟨ds', hds', rfl⟩ := twoDigits_digits hds hhour
  have hnone : after ':' (ds' ++ '\n' :: l) = none := after_digits hds' (by decide) (by decide) l
  simp only [hnone, Option.bind_eq_bind, Option.bind_none]

theorem moment?_digits (hds : ∀ c ∈ ds, c.isDigit = true) (l : List Char) :
    moment? (ds ++ '\n' :: l) = none := by
  rw [moment?, momentText?, date?_digits hds, time?_digits hds]
  rfl

/-! ### Numbers -/

/-- A number without a fraction and an exponent is no number of that kind. -/
theorem float?_toDigits (n : Nat) (l : List Char) :
    float? (Nat.toDigits 10 n ++ '\n' :: l) = none := by
  obtain ⟨c, cs, hcs, hdigits, -⟩ := exists_toDigits n
  have hc : c.isDigit = true := hdigits c List.mem_cons_self
  have hwhole := whole_toDigits n l
  simp only [float?, sign_toDigits]
  rw [hcs, List.cons_append] at hwhole ⊢
  split
  case h_1 h => exact absurd (List.cons.inj h).1 (ne_of_isDigit hc (by decide))
  case h_2 h => exact absurd (List.cons.inj h).1 (ne_of_isDigit hc (by decide))
  case h_3 =>
    rw [hwhole]
    simp [exponent]

theorem mapM_hexValue? (hds : ∀ c ∈ ds, c.isDigit = true) :
    ds.mapM Json.hexValue? = some (ds.map fun c => c.toNat - 48) := by
  induction ds with
  | nil => rfl
  | cons c ds ih =>
    obtain ⟨hc, hds⟩ := List.forall_mem_cons.1 hds
    have hrange : '0' ≤ c ∧ c ≤ '9' := by simpa [Char.isDigit, Char.le_def] using hc
    rw [List.mapM_cons, Json.hexValue?, if_pos hrange, ih hds]
    rfl

theorem foldl_toDigits (n : Nat) :
    (Nat.toDigits 10 n).foldl (fun n c => n * 10 + (c.toNat - 48)) 0 = n := by
  have hread := Nat.ofDigitChars_ten_toDigits (n := n)
  rw [Nat.ofDigitChars_eq_foldl] at hread
  simp only [Nat.mul_comm] at hread ⊢
  exact hread

theorem integerOf?_toDigits (h : n ≤ maxInt) :
    integerOf? false 10 (Nat.toDigits 10 n) = some (.int n) := by
  have hds : ∀ c ∈ Nat.toDigits 10 n, c.isDigit = true :=
    fun c hc => Nat.isDigit_of_mem_toDigits (by decide) (by decide) hc
  have hlt : (n : Int) < Nat.pow 2 63 :=
    Int.ofNat_lt.2 (Nat.lt_of_le_pred (Nat.two_pow_pos 63) h)
  refine Option.bind_eq_some_iff.2 ⟨n, ?_, if_pos ⟨by omega, hlt⟩⟩
  rw [mapM_hexValue? hds, Option.map_some, List.foldl_map, foldl_toDigits]

/-- A number is not written with a zero and a letter in front of its digits. -/
theorem toDigits_ne_based {d : Char} (hd : d ≠ '\n') (n : Nat) (l l' : List Char) :
    Nat.toDigits 10 n ++ '\n' :: l ≠ '0' :: d :: l' := by
  obtain ⟨c, cs, hcs, -, hzero⟩ := exists_toDigits n
  rw [hcs, List.cons_append]
  intro heq
  obtain ⟨hc, hcons⟩ := List.cons.inj heq
  rw [hzero hc] at hcons
  exact hd (List.cons.inj hcons).1.symm

theorem integer?_toDigits (h : n ≤ maxInt) (l : List Char) :
    integer? (Nat.toDigits 10 n ++ '\n' :: l) = some (.int n, '\n' :: l) := by
  rw [integer?]
  · simp only [sign_toDigits, whole_toDigits, integerOf?_toDigits h, Option.bind_eq_bind,
      Option.bind_some, Option.pure_def]
  · exact toDigits_ne_based (by decide) n l
  · exact toDigits_ne_based (by decide) n l
  · exact toDigits_ne_based (by decide) n l

/-! ### Values -/

/-- What is written of a value: it begins with no blank, and in an entry of its own it reads back
with the line break behind it. -/
structure Writes (text : List Char) (v : Toml) : Prop where
  gap : ∀ c ∈ text.head?, isGap c = false
  read : ∀ l, value? 0 (text ++ '\n' :: l) (2 * (text ++ '\n' :: l).length + 1) =
    some (v, '\n' :: l)

theorem writes_string (cs : List Char) : Writes (writeString cs) (.str (String.ofList cs)) := by
  obtain ⟨c, text, htext, hmark⟩ := exists_writeString cs
  constructor
  · intro d hd
    obtain rfl : c = d := by simpa [htext] using hd
    rcases hmark with rfl | rfl <;> decide
  · intro l
    have hread : string? (writeString cs ++ '\n' :: l) = some (cs, '\n' :: l) :=
      string?_writeString (by simp [Unmarked]) (by simp [Unmarked])
    rw [htext, List.cons_append] at hread ⊢
    rw [value?, if_pos hmark, hread]
    rfl

theorem writes_number (h : n ≤ maxInt) : Writes (toString n).toList (.int n) := by
  have htext : (toString n).toList = Nat.toDigits 10 n := by
    rw [Nat.toString_eq_repr, Nat.toList_repr]
  obtain ⟨c, cs, hcs, hdigits, -⟩ := exists_toDigits n
  have hc : c.isDigit = true := hdigits c List.mem_cons_self
  rw [htext]
  constructor
  · intro d hd
    obtain rfl : c = d := by simpa [hcs] using hd
    have hspace : c ≠ ' ' := ne_of_isDigit hc (by decide)
    have htab : c ≠ '\t' := ne_of_isDigit hc (by decide)
    simp [isGap, hspace, htab]
  · intro l
    have hstring : ¬(c = '"' ∨ c = '\'') :=
      not_or.2 ⟨ne_of_isDigit hc (by decide), ne_of_isDigit hc (by decide)⟩
    have harray : c ≠ '[' := ne_of_isDigit hc (by decide)
    have htable : c ≠ '\x7b' := ne_of_isDigit hc (by decide)
    have htrue : c ≠ 't' := ne_of_isDigit hc (by decide)
    have hfalse : c ≠ 'f' := ne_of_isDigit hc (by decide)
    have hnumber : ((moment? (c :: (cs ++ '\n' :: l))).or (float? (c :: (cs ++ '\n' :: l)))).or
        (integer? (c :: (cs ++ '\n' :: l))) = some (.int n, '\n' :: l) := by
      rw [← List.cons_append, moment?_digits hdigits, ← hcs, float?_toDigits,
        integer?_toDigits h]
      rfl
    rw [hcs, List.cons_append, value?, if_neg hstring, if_neg harray, if_neg htable, if_neg htrue,
      if_neg hfalse, hnumber]

theorem writes_bool (b : Bool) : Writes (toString b).toList (.bool b) := by
  cases b with
  | false => exact ⟨fun _ hc => Option.some.inj hc ▸ rfl, fun _ => rfl⟩
  | true => exact ⟨fun _ hc => Option.some.inj hc ▸ rfl, fun _ => rfl⟩

theorem writes_nothing : Writes ['[', ']'] (.arr []) :=
  ⟨fun _ hc => Option.some.inj hc ▸ rfl, fun _ => rfl⟩

end StatusRelay.Toml
