/-
# Timestamps read back

What is written of a moment the relaxed reader takes for the moment that it names: the parts are
found one after another, each number ending where a character that is no digit stands. A moment
names itself, unless it is a leap second inside a minute: that one is written like the second that
follows, and read back as it.

| part | written | read |
| --- | --- | --- |
| a year from 0 to 9999 | four digits | up to four digits |
| another year | a sign and at least four digits | a sign and all digits there are |
| a leap second at the end of a minute | as second 60 | as second 59 and a second more |
| a leap second inside a minute | as the second that follows | as the second that follows |
| a fraction | 0, 3, 6 or 9 digits | filled up to nine |
-/

import Mathlib.Algebra.GroupWithZero.Nat
import StatusRelay.Proofs.Calendar
import StatusRelay.Proofs.Text
import StatusRelay.Timestamp.Reader

namespace StatusRelay
namespace Timestamp

/-! ### Digits -/

variable {ds rest : List Char} {width n : Nat}

/-- A text that does not go on with a digit. -/
def Stops (rest : List Char) : Prop := ∀ c ∈ rest.head?, c.isDigit = false

@[simp] theorem stops_cons {c : Char} : Stops (c :: rest) ↔ c.isDigit = false := by simp [Stops]

theorem takeWhile_isDigit (h : Stops rest) : rest.takeWhile Char.isDigit = [] := by
  cases rest with
  | nil => rfl
  | cons c rest => exact List.takeWhile_cons_of_neg (by simp [stops_cons.1 h])

theorem dropWhile_isDigit (h : Stops rest) : rest.dropWhile Char.isDigit = rest := by
  cases rest with
  | nil => rfl
  | cons c rest => exact List.dropWhile_cons_of_neg (by simp [stops_cons.1 h])

theorem stops_take (h : Stops rest) (count : Nat) : Stops (rest.take count) := by
  cases rest <;> cases count <;> simp_all [Stops]

theorem digitsValue_eq (ds : List Char) : digitsValue ds = Nat.ofDigitChars 10 ds 0 := by
  simp only [digitsValue, Nat.ofDigitChars_eq_foldl, Nat.mul_comm]
  rfl

theorem isBlank_of_isDigit {c : Char} (h : c.isDigit = true) : Text.isBlank c = false := by
  have hrange : 48 ≤ c.toNat ∧ c.toNat ≤ 57 := by
    simpa [Char.isDigit, UInt32.le_iff_toNat_le] using h
  simp [Text.isBlank]
  omega

theorem digits_take (hds : ∀ c ∈ ds, c.isDigit = true) (hrest : Stops rest) {most : Nat}
    (hmost : ds.length ≤ most) : ((ds ++ rest).take most).takeWhile Char.isDigit = ds := by
  rw [List.take_append, List.take_of_length_le hmost, List.takeWhile_append_of_pos hds,
    takeWhile_isDigit (stops_take hrest _), List.append_nil]

/-- A number ends with its digits. -/
theorem number_digits {least most : Nat} (hds : ∀ c ∈ ds, c.isDigit = true) (hrest : Stops rest)
    (hpos : 0 < ds.length) (hleast : least ≤ ds.length) (hmost : ds.length ≤ most) :
    number least most (ds ++ rest) = some (digitsValue ds, rest) := by
  simp only [number, digits_take hds hrest hmost, List.drop_left, if_pos (And.intro hleast hpos)]

/-! ### Numbers with zeros in front -/

theorem isDigit_of_mem_padded {c : Char} (h : c ∈ padded width n) : c.isDigit = true := by
  rcases List.mem_append.1 h with hzero | hdigit
  · obtain rfl := List.eq_of_mem_replicate hzero
    rfl
  · exact Nat.isDigit_of_mem_toDigits (by decide) (by decide) hdigit

theorem digitsValue_padded (width n : Nat) : digitsValue (padded width n) = n := by
  rw [digitsValue_eq, padded, Nat.ofDigitChars_append, Nat.ofDigitChars_replicate_zero,
    Nat.mul_zero, Nat.ofDigitChars_ten_toDigits]

theorem length_padded (hwidth : 0 < width) (h : n < 10 ^ width) :
    (padded width n).length = width := by
  have hlength := (Nat.length_toDigits_le_iff (by decide) hwidth).2 h
  simp only [padded, List.length_append, List.length_replicate]
  omega

theorem length_padded_pos (width n : Nat) : 0 < (padded width n).length := by
  have hlength := Nat.length_toDigits_pos (b := 10) (n := n)
  simp only [padded, List.length_append]
  omega

/-- Digits come before a blank can. -/
theorem trimLeft_padded (width n : Nat) (rest : List Char) :
    Text.trimLeft (padded width n ++ rest) = padded width n ++ rest := by
  obtain ⟨d, ds, hds⟩ := List.exists_cons_of_length_pos (length_padded_pos width n)
  have hd : d.isDigit = true := isDigit_of_mem_padded (hds ▸ List.mem_cons_self)
  rw [hds, List.cons_append]
  exact Text.trimLeft_cons (isBlank_of_isDigit hd) _

theorem number_padded {least most : Nat} (hrest : Stops rest) (hleast : least ≤ width)
    (hmost : (padded width n).length ≤ most) :
    number least most (padded width n ++ rest) = some (n, rest) := by
  have hwidth : width ≤ (padded width n).length := by
    simp only [padded, List.length_append, List.length_replicate]
    omega
  rw [number_digits (fun _ => isDigit_of_mem_padded) hrest (length_padded_pos _ _)
    (Nat.le_trans hleast hwidth) hmost, digitsValue_padded]

/-! ### The parts -/

theorem relaxedPart_padded (h : n < 100) (hrest : Stops rest) :
    relaxedPart (padded 2 n ++ rest) = some (n, rest) := by
  rw [relaxedPart, trimLeft_padded]
  exact number_padded hrest (by decide) (Nat.le_of_eq (length_padded (by decide) h))

theorem relaxedFixed_cons {c : Char} (h : Text.isBlank c = false) (rest : List Char) :
    relaxedFixed c (c :: rest) = some rest := by
  rw [relaxedFixed, Text.trimLeft_cons h, fixed, if_pos rfl]

theorem relaxedYear_of_digit {d : Char} (hd : d.isDigit = true)
    (h : number 1 4 (d :: ds) = some (n, rest)) :
    relaxedYear (d :: ds) = some ((n : Int), rest) := by
  have hminus : d ≠ '-' := by rintro rfl; cases hd
  have hplus : d ≠ '+' := by rintro rfl; cases hd
  rw [relaxedYear, Text.trimLeft_cons (isBlank_of_isDigit hd)]
  split
  case h_1 hcons => exact absurd (List.cons.inj hcons).1 hminus
  case h_2 hcons => exact absurd (List.cons.inj hcons).1 hplus
  case h_3 => rw [h]; rfl

/-- **A year reads back,** with a sign or without. -/
theorem relaxedYear_writeYear (y : Int) (hrest : Stops rest) :
    relaxedYear (writeYear y ++ rest) = some (y, rest) := by
  have hlong : longNumber 1 (padded 4 y.natAbs ++ rest) = some (y.natAbs, rest) :=
    number_padded hrest (by decide) (by rw [List.length_append]; omega)
  unfold writeYear
  split_ifs with hplain hnegative
  · obtain ⟨d, ds, hds⟩ := List.exists_cons_of_length_pos (length_padded_pos 4 y.toNat)
    have hd : d.isDigit = true := isDigit_of_mem_padded (hds ▸ List.mem_cons_self)
    have hnumber : number 1 4 (padded 4 y.toNat ++ rest) = some (y.toNat, rest) :=
      number_padded hrest (by decide) (Nat.le_of_eq (length_padded (by decide) (by omega)))
    rw [hds, List.cons_append] at hnumber ⊢
    rw [relaxedYear_of_digit hd hnumber, Int.toNat_of_nonneg hplain.1]
  · rw [List.cons_append, relaxedYear, Text.trimLeft_cons (by decide)]
    simp only [hlong, Option.bind_eq_bind, Option.bind_some, Option.pure_def]
    rw [Int.ofNat_natAbs_of_nonpos (by omega), Int.neg_neg]
  · rw [List.cons_append, relaxedYear, Text.trimLeft_cons (by decide)]
    simp only [hlong, Option.bind_eq_bind, Option.bind_some, Option.pure_def]
    rw [Int.natAbs_of_nonneg (by omega)]

/-- Some digits of a fraction, and zeros up to nine. -/
theorem fraction_padded (hwidth : 0 < width) (hnine : width ≤ 9) (hn : n < 10 ^ width)
    (hrest : Stops rest) :
    fraction ('.' :: (padded width n ++ rest)) = some (n * 10 ^ (9 - width), rest) := by
  have hlength := length_padded hwidth hn
  have hds : ((padded width n ++ rest).take 9).takeWhile Char.isDigit = padded width n :=
    digits_take (fun _ => isDigit_of_mem_padded) hrest (by omega)
  have hfilled : (padded width n).isEmpty = false := by
    rw [List.isEmpty_eq_false_iff, ← List.length_pos_iff]
    omega
  simp only [fraction, hds, hfilled, hlength, digitsValue_padded, List.drop_left' hlength,
    dropWhile_isDigit hrest]
  rfl

/-- **The fraction reads back,** in whichever groups of three digits it was written. -/
theorem fraction_writeFraction (t : Timestamp) (rest : List Char) :
    fraction (writeFraction t ++ 'Z' :: rest) = some (t.nano % 1000000000, 'Z' :: rest) := by
  have hstops : Stops ('Z' :: rest) := stops_cons.2 rfl
  simp only [writeFraction]
  split_ifs with hnone hthree hsix
  · rw [hnone]
    rfl
  · rw [List.cons_append, fraction_padded (by decide) (by decide) (by omega) hstops]
    exact congrArg (fun n => some (n, _)) (by omega)
  · rw [List.cons_append, fraction_padded (by decide) (by decide) (by omega) hstops]
    exact congrArg (fun n => some (n, _)) (by omega)
  · rw [List.cons_append, fraction_padded (by decide) (by decide) (by omega) hstops]
    exact congrArg (fun n => some (n, _)) (by omega)

theorem stops_writeFraction (t : Timestamp) (rest : List Char) :
    Stops (writeFraction t ++ 'Z' :: rest) := by
  simp only [writeFraction]
  split_ifs <;> exact stops_cons.2 rfl

/-! ### Leap seconds -/

/-- A moment in a leap second, if it is one, is at the end of a minute. -/
def Regular (t : Timestamp) : Prop := 1000000000 ≤ t.nano → t.second % 60 = 59

instance (t : Timestamp) : Decidable t.Regular :=
  inferInstanceAs (Decidable (1000000000 ≤ t.nano → t.second % 60 = 59))

/-- The moment that the written form of a moment names. -/
def asWritten (t : Timestamp) : Timestamp :=
  if h : t.Regular then t
  else { t with
    second := t.second + 1
    nano := t.nano - 1000000000
    second_lt := by
      have hsecond := t.second_lt
      simp only [Regular] at h
      omega
    nano_lt := by
      have hnano := t.nano_lt
      omega }

theorem asWritten_of_regular {t : Timestamp} (h : t.Regular) : t.asWritten = t := dif_pos h

/-- The next second of a leap second inside a minute. -/
theorem asWritten_parts {t : Timestamp} (h : ¬t.Regular) : t.asWritten.day = t.day ∧
    t.asWritten.second = t.second + 1 ∧ t.asWritten.nano = t.nano - 1000000000 := by
  rw [asWritten, dif_neg h]
  exact ⟨rfl, rfl, rfl⟩

theorem regular_asWritten (t : Timestamp) : t.asWritten.Regular := by
  by_cases h : t.Regular
  · rwa [asWritten_of_regular h]
  · obtain ⟨-, -, hnano⟩ := asWritten_parts h
    have hlt := t.nano_lt
    intro hleap
    omega

/-- Regular moments are those that name themselves. -/
theorem asWritten_eq_iff {t : Timestamp} : t.asWritten = t ↔ t.Regular :=
  ⟨fun h => h ▸ regular_asWritten t, asWritten_of_regular⟩

/-- **A moment is written like the one that it names.** -/
theorem write_asWritten (t : Timestamp) : t.asWritten.write = t.write := by
  by_cases h : t.Regular
  · rw [asWritten_of_regular h]
  · obtain ⟨hday, hsecond, hnano⟩ := asWritten_parts h
    simp only [Regular] at h
    have hlt := t.nano_lt
    have hhour : (t.second + 1) / 3600 = t.second / 3600 := by omega
    have hminute : (t.second + 1) / 60 % 60 = t.second / 60 % 60 := by omega
    have hclock : (t.second + 1) % 60 + (t.nano - 1000000000) / 1000000000 =
        t.second % 60 + t.nano / 1000000000 := by omega
    have hfraction : (t.nano - 1000000000) % 1000000000 = t.nano % 1000000000 := by omega
    simp only [write, date, writeTime, writeFraction, hday, hsecond, hnano, hhour, hminute, hclock,
      hfraction]

/-! ### The moment -/

/-- The local date and time of a moment at no offset are its own. -/
theorem atOffset?_date (t : Timestamp) : atOffset? t.date t.second t.nano 0 = some t := by
  have hsecond := t.second_lt
  have hdays : t.date.toDays = t.day := Date.toDays_ofDays t.day
  have hquotient : ((t.second : Int) - 0) / 86400 = 0 := by omega
  have hremainder : (((t.second : Int) - 0) % 86400).toNat = t.second := by omega
  rw [atOffset?, if_pos ⟨Date.valid_ofDays _, by rw [hdays]; exact t.day_ge,
    by rw [hdays]; exact t.day_le, by decide, by decide⟩]
  simp only [hdays, hquotient, hremainder, Int.add_zero]
  exact dif_pos ⟨⟨t.day_ge, t.day_le⟩, t.second_lt, t.nano_lt⟩

/-- The hour, the minute and the second name the moment they were taken from, second 60 too. -/
theorem ofClock?_parts {t : Timestamp} (hregular : t.Regular) :
    ofClock? t.date.year t.date.month t.date.day (t.second / 3600) (t.second / 60 % 60)
      (t.second % 60 + t.nano / 1000000000) (t.nano % 1000000000) 0 = some t := by
  have hsecond := t.second_lt
  have hnano := t.nano_lt
  have hlast : 1000000000 ≤ t.nano → t.second % 60 = 59 := hregular
  rw [ofClock?, if_pos (by omega)]
  by_cases h : 1000000000 ≤ t.nano
  · replace hlast := hlast h
    have hclock : t.second / 3600 * 3600 + t.second / 60 % 60 * 60 + 59 = t.second := by omega
    have hfraction : t.nano % 1000000000 + 1000000000 = t.nano := by omega
    rw [if_pos (by omega)]
    simp only [hclock, hfraction]
    exact atOffset?_date t
  · have hclock : t.second / 3600 * 3600 + t.second / 60 % 60 * 60 +
        (t.second % 60 + t.nano / 1000000000) = t.second := by omega
    have hfraction : t.nano % 1000000000 = t.nano := by omega
    rw [if_neg (by omega)]
    simp only [hclock, hfraction]
    exact atOffset?_date t

/-- A moment that names itself reads back from its written form. -/
theorem readRelaxed_write_of_regular {t : Timestamp} (hregular : t.Regular) :
    readRelaxed t.write = some t := by
  have hvalid := Date.valid_ofDays t.day
  have hmonth : t.date.month < 100 := hvalid.month_lt
  have hday : t.date.day < 100 := hvalid.day_lt
  have hsecond := t.second_lt
  have hnano := t.nano_lt
  have hhour : t.second / 3600 < 100 := by omega
  have hminute : t.second / 60 % 60 < 100 := by omega
  have hlast : t.second % 60 + t.nano / 1000000000 < 100 := by omega
  -- What is written after a part is none of its digits.
  have hhyphen (rest : List Char) : Stops ('-' :: rest) := stops_cons.2 rfl
  have hletter (rest : List Char) : Stops ('T' :: rest) := stops_cons.2 rfl
  have hcolon (rest : List Char) : Stops (':' :: rest) := stops_cons.2 rfl
  have hfraction : Stops (writeFraction t ++ ['Z']) := stops_writeFraction t []
  simp only [write, writeDate, writeTime, List.append_assoc, List.cons_append]
  unfold readRelaxed
  refine Option.bind_eq_some_iff.2 ⟨_, relaxedYear_writeYear _ (hhyphen _), ?_⟩
  refine Option.bind_eq_some_iff.2 ⟨_, relaxedFixed_cons (by decide) _, ?_⟩
  refine Option.bind_eq_some_iff.2 ⟨_, relaxedPart_padded hmonth (hhyphen _), ?_⟩
  refine Option.bind_eq_some_iff.2 ⟨_, relaxedFixed_cons (by decide) _, ?_⟩
  refine Option.bind_eq_some_iff.2 ⟨_, relaxedPart_padded hday (hletter _), ?_⟩
  refine Option.bind_eq_some_iff.2 ⟨_, relaxedPart_padded hhour (hcolon _), ?_⟩
  refine Option.bind_eq_some_iff.2 ⟨_, relaxedFixed_cons (by decide) _, ?_⟩
  refine Option.bind_eq_some_iff.2 ⟨_, relaxedPart_padded hminute (hcolon _), ?_⟩
  refine Option.bind_eq_some_iff.2 ⟨_, relaxedFixed_cons (by decide) _, ?_⟩
  refine Option.bind_eq_some_iff.2 ⟨_, relaxedPart_padded hlast hfraction, ?_⟩
  refine Option.bind_eq_some_iff.2 ⟨_, fraction_writeFraction t [], ?_⟩
  exact ofClock?_parts hregular

/-- **The written form of a moment is read as the moment that it names.** -/
theorem readRelaxed_write (t : Timestamp) : readRelaxed t.write = some t.asWritten := by
  rw [← write_asWritten]
  exact readRelaxed_write_of_regular (regular_asWritten t)

end Timestamp
end StatusRelay
